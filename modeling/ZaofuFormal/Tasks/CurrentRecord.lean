import ZaofuFormal.Foundation.Fallible
import ZaofuFormal.Tasks.BoardRuns

/-!
# The current record of a task

The record that the writers of the store act on: the first active one with the
id, or the archived one that a reopening contract update starts from.  Every
operation that succeeds on a task replaces its current record by a changed one,
wherever the record is stored, and stores nothing else.
-/

namespace ZaofuFormal.Tasks

open Foundation

def currentRecord (disk : Disk) (taskId : String) : Option Record :=
  (disk.active.find? (hasId taskId)).or (archivedRecord disk taskId)

/-- The record is on the board or in an archive. -/
def OnDisk (disk : Disk) (record : Record) : Prop :=
  record ∈ disk.active ∨ ∃ date, record ∈ archiveFile disk date

/-- At most one active record has the id. -/
def Sole (taskId : String) (disk : Disk) : Prop :=
  (disk.active.filter (hasId taskId)).length ≤ 1

/-- A write that takes the current record of a task to a changed one. -/
structure Replaced (taskId : String) (disk after : Disk) (record changed : Record) : Prop where
  before : currentRecord disk taskId = some record
  now : currentRecord after taskId = some changed
  stored : ∀ other, OnDisk after other → other = changed ∨ OnDisk disk other
  sole : Sole taskId disk → Sole taskId after

theorem onDisk_of_archived {disk : Disk} {taskId : String} {record : Record}
    (found : archivedRecord disk taskId = some record) : OnDisk disk record := by
  obtain ⟨date, _, inside⟩ := List.exists_of_findSome?_eq_some found
  exact .inr ⟨date, List.mem_reverse.mp (List.mem_of_find?_eq_some inside)⟩

theorem currentRecord_onDisk {disk : Disk} {taskId : String} {record : Record}
    (current : currentRecord disk taskId = some record) :
    OnDisk disk record ∧ hasId taskId record = true := by
  rw [currentRecord, Option.or_eq_some_iff] at current
  rcases current with active | ⟨_, archived⟩
  · exact ⟨.inl (List.mem_of_find?_eq_some active), List.find?_some active⟩
  · exact ⟨onDisk_of_archived archived, (hasId_iff _ _).mpr (archivedRecord_id archived)⟩

variable {clock : Clock} {task : Record} {request : ContractUpdate}

/-- What `get` returns was read from a stored record with the id. -/
theorem get_source {taskId : String} {disk : Disk}
    (found : get clock taskId disk = .ok (some task)) :
    ∃ record, OnDisk disk record ∧ hasId taskId record = true ∧
      toTask clock record = .ok task := by
  have read : ∀ record : Record, (toTask clock record).map some = .ok (some task) →
      toTask clock record = .ok task := by
    intro record mapped
    cases rebuilt : toTask clock record with
    | error error =>
        rw [rebuilt] at mapped
        cases mapped
    | ok value =>
        rw [rebuilt] at mapped
        cases mapped
        rfl
  unfold get at found
  split at found
  case h_1 record active =>
    exact ⟨record, .inl (List.mem_of_find?_eq_some active), List.find?_some active,
      read record found⟩
  case h_2 =>
    simp only at found
    split at found
    case h_1 record archived =>
      refine ⟨record, ?_, ?_, read record found⟩
      all_goals
        rcases Option.or_eq_some_iff.mp archived with indexed | ⟨_, scanned⟩
      · obtain ⟨date, _, inside⟩ := Option.bind_eq_some_iff.mp indexed
        exact .inr ⟨date, List.mem_of_find?_eq_some inside⟩
      · obtain ⟨date, _, inside⟩ := List.exists_of_findSome?_eq_some scanned
        exact .inr ⟨date, List.mem_of_find?_eq_some inside⟩
      · obtain ⟨date, _, inside⟩ := Option.bind_eq_some_iff.mp indexed
        exact List.find?_some inside
      · obtain ⟨date, _, inside⟩ := List.exists_of_findSome?_eq_some scanned
        exact List.find?_some inside
    case h_2 => cases found

section Writes

variable {taskId : String} {disk : Disk} {before after : List Record} {record changed : Record}

theorem locate_before {test : Record → Bool} {records : List Record}
    (found : locate test records = some (before, record, after)) :
    (∀ other ∈ before, test other = false) ∧ test record = true := by
  induction records generalizing before with
  | nil => cases found
  | cons head rest ih =>
      rw [locate] at found
      split at found
      case isTrue hit =>
        cases found
        exact ⟨fun other member => absurd member List.not_mem_nil, hit⟩
      case isFalse miss =>
        obtain ⟨⟨left, inner, right⟩, later, same⟩ := Option.map_eq_some_iff.mp found
        cases same
        obtain ⟨earlier, hit⟩ := ih later
        refine ⟨fun other member => ?_, hit⟩
        rcases List.mem_cons.mp member with rfl | inside
        · exact Bool.not_eq_true _ ▸ miss
        · exact earlier other inside

theorem find?_append_cons {test : Record → Bool} (earlier : ∀ other ∈ before, test other = false)
    (hit : test changed = true) : (before ++ changed :: after).find? test = some changed := by
  have none_before : before.find? test = none :=
    List.find?_eq_none.mpr fun other member => by simp [earlier other member]
  rw [List.find?_append, none_before, Option.none_or, List.find?_cons_of_pos hit]

theorem replaced_rewrite (found : locate (hasId taskId) disk.active = some (before, record, after))
    (keepsId : hasId taskId changed = true) :
    Replaced taskId disk { disk with active := before ++ changed :: after } record changed := by
  obtain ⟨located, first⟩ := locate_some found
  obtain ⟨earlier, hit⟩ := locate_before found
  refine ⟨?_, ?_, ?_, ?_⟩
  · rw [currentRecord, first, Option.some_or]
  · rw [currentRecord, find?_append_cons earlier keepsId, Option.some_or]
  · rintro other (active | archived)
    · rcases List.mem_append.mp active with left | right
      · exact .inr (.inl (located ▸ List.mem_append_left _ left))
      · rcases List.mem_cons.mp right with same | later
        · exact .inl same
        · exact .inr (.inl (located ▸ List.mem_append_right _ (List.mem_cons_of_mem _ later)))
    · exact .inr (.inr archived)
  · intro sole
    rw [Sole, located] at sole
    simpa [Sole, List.filter_append, List.filter_cons, hit, keepsId] using sole

theorem archiveFile_retire (date other : String) (rest : List Record) :
    archiveFile (retire disk taskId date changed rest) other =
      if other = date then archiveFile disk date ++ [changed] else archiveFile disk other := by
  rw [archiveFile, retire, Dict.get?_insert]
  split
  · rfl
  · rfl

theorem replaced_retire {date : String} (dated : date ≠ "") (sole : Sole taskId disk)
    (found : locate (hasId taskId) disk.active = some (before, record, after))
    (keepsId : hasId taskId changed = true) :
    Replaced taskId disk (retire disk taskId date changed (before ++ after)) record changed := by
  obtain ⟨located, first⟩ := locate_some found
  obtain ⟨earlier, hit⟩ := locate_before found
  have gone : (before ++ after).filter (hasId taskId) = [] := by
    rw [Sole, located, List.filter_append, List.filter_cons_of_pos hit] at sole
    rw [List.filter_append, List.append_eq_nil_iff]
    simp only [List.length_append, List.length_cons] at sole
    exact ⟨List.length_eq_zero_iff.mp (by omega), List.length_eq_zero_iff.mp (by omega)⟩
  have unlisted : (before ++ after).find? (hasId taskId) = none := by
    rw [List.find?_eq_none]
    intro other member listed
    have kept : other ∈ (before ++ after).filter (hasId taskId) :=
      List.mem_filter.mpr ⟨member, listed⟩
    rw [gone] at kept
    exact absurd kept List.not_mem_nil
  refine ⟨?_, ?_, ?_, ?_⟩
  · rw [currentRecord, first, Option.some_or]
  · have indexed : (retire disk taskId date changed (before ++ after)).terminalIndex.get? taskId =
        some date := Dict.get?_insert_self _ _ _
    rw [currentRecord, show (retire disk taskId date changed (before ++ after)).active =
      before ++ after from rfl, unlisted, Option.none_or, archivedRecord, indexed]
    simp [dated, archiveFile_retire, keepsId]
  · rintro other (active | ⟨day, archived⟩)
    · right
      left
      rcases List.mem_append.mp active with left | right
      · exact located ▸ List.mem_append_left _ left
      · exact located ▸ List.mem_append_right _ (List.mem_cons_of_mem _ right)
    · rw [archiveFile_retire] at archived
      split at archived
      case isTrue =>
        rcases List.mem_append.mp archived with old | new
        · exact .inr (.inr ⟨date, old⟩)
        · exact .inl (List.mem_singleton.mp new)
      case isFalse => exact .inr (.inr ⟨day, archived⟩)
  · intro _
    change ((before ++ after).filter (hasId taskId)).length ≤ 1
    rw [gone]
    exact Nat.zero_le 1

theorem replaced_reopen (missing : disk.active.find? (hasId taskId) = none)
    (archived : archivedRecord disk taskId = some record) (keepsId : hasId taskId changed = true)
    (index : Dict String String) :
    Replaced taskId disk
      { disk with active := disk.active ++ [changed], terminalIndex := index } record changed := by
  have earlier : ∀ other ∈ disk.active, hasId taskId other = false := fun other member =>
    Bool.not_eq_true _ ▸ List.find?_eq_none.mp missing other member
  refine ⟨?_, ?_, ?_, ?_⟩
  · rw [currentRecord, missing, Option.none_or, archived]
  · rw [currentRecord, find?_append_cons earlier keepsId, Option.some_or]
  · rintro other (active | stored)
    · rcases List.mem_append.mp active with old | new
      · exact .inr (.inl old)
      · exact .inl (List.mem_singleton.mp new)
    · exact .inr (.inr stored)
  · intro _
    have none_before : disk.active.filter (hasId taskId) = [] :=
      List.filter_eq_nil_iff.mpr fun other member => by simp [earlier other member]
    simp [Sole, List.filter_append, none_before, keepsId]

end Writes

/-- Does the contract update write? -/
def contractApplies (request : ContractUpdate) (disk : Disk) : Bool :=
  let matched (record : Record) : Bool :=
    match contractMatches request record with
    | .ok answer => answer
    | .error _ => false
  match disk.active.find? (hasId request.taskId) with
  | some record => matched record
  | none =>
      match if request.reopenTerminal then archivedRecord disk request.taskId else none with
      | none => false
      | some record =>
          matched record && !decide (statusText (applyContract request record) ∈ terminalStates)

/-- On a stamped task the revision is all that is compared. -/
theorem contractApplies_of_stamped {disk : Disk} {record : Record}
    (active : disk.active.find? (hasId request.taskId) = some record)
    (current : authorityRevision record = request.expectedAuthorityRevision)
    (stamped : request.expectedLegacyContract = none) : contractApplies request disk = true := by
  have matched : contractMatches request record = .ok true := by
    rw [contractMatches, if_neg (not_not.mpr current), stamped]
  simp only [contractApplies, active, matched]

theorem compareAndUpdateContract_refused (clock : Clock) {disk : Disk}
    (refused : contractApplies request disk = false) :
    (compareAndUpdateContract clock request disk).2 = disk ∧
      ∀ updated, (compareAndUpdateContract clock request disk).1 ≠ .ok (updated, true) := by
  have unmatched : ∀ record : Record, ∀ updated : Option Record,
      (toTask clock record).map (fun task => (some task, false)) ≠ .ok (updated, true) := by
    intro record updated same
    cases rebuilt : toTask clock record with
    | error error =>
        rw [rebuilt] at same
        cases same
    | ok value =>
        rw [rebuilt] at same
        cases same
  unfold compareAndUpdateContract
  unfold contractApplies at refused
  split
  case h_1 before record after found =>
    rw [(locate_some found).2] at refused
    cases matched : contractMatches request record with
    | error error => exact ⟨rfl, fun _ impossible => by cases impossible⟩
    | ok answer =>
        cases answer with
        | false => exact ⟨rfl, unmatched record⟩
        | true => simp [matched] at refused
  case h_2 missing =>
    rw [locate_none missing] at refused
    split
    case h_1 => exact ⟨rfl, fun _ impossible => by cases impossible⟩
    case h_2 record archived =>
      simp only [archived] at refused
      cases matched : contractMatches request record with
      | error error => exact ⟨rfl, fun _ impossible => by cases impossible⟩
      | ok answer =>
          cases answer with
          | false => exact ⟨rfl, unmatched record⟩
          | true =>
              simp only [matched, Bool.true_and, Bool.not_eq_false', decide_eq_true_eq] at refused
              rw [if_pos refused]
              exact ⟨rfl, fun _ impossible => by cases impossible⟩

theorem compareAndUpdateContract_applied (clock : Clock) {disk : Disk}
    (keepsId : request.taskUpdates.get? "id" = none)
    (applies : contractApplies request disk = true) :
    ∃ record, contractMatches request record = .ok true ∧
      Replaced request.taskId disk (compareAndUpdateContract clock request disk).2 record
        (applyContract request record) ∧
      (compareAndUpdateContract clock request disk).1 =
        (toTask clock (applyContract request record)).map fun task => (some task, true) := by
  have sameId : ∀ {record : Record}, hasId request.taskId record = true →
      hasId request.taskId (applyContract request record) = true := by
    intro record identified
    rw [hasId_iff] at identified ⊢
    rw [applyContract_id, get_update, keepsId]
    exact identified
  unfold compareAndUpdateContract
  unfold contractApplies at applies
  split
  case h_1 before record after found =>
    rw [(locate_some found).2] at applies
    cases matched : contractMatches request record with
    | error error => simp [matched] at applies
    | ok answer =>
        cases answer with
        | false => simp [matched] at applies
        | true =>
            exact ⟨record, matched, replaced_rewrite found (sameId (locate_before found).2), rfl⟩
  case h_2 missing =>
    rw [locate_none missing] at applies
    split
    case h_1 none => simp [none] at applies
    case h_2 record archived =>
      simp only [archived] at applies
      have inArchive : archivedRecord disk request.taskId = some record := by
        split at archived
        · exact archived
        · cases archived
      cases matched : contractMatches request record with
      | error error => simp [matched] at applies
      | ok answer =>
          cases answer with
          | false => simp [matched] at applies
          | true =>
              simp only [matched, Bool.true_and, Bool.not_eq_true', decide_eq_false_iff_not]
                at applies
              refine ⟨record, matched, ?_, ?_⟩
              · simp only [if_neg applies]
                exact replaced_reopen (locate_none missing) inArchive
                  (sameId ((hasId_iff _ _).mpr (archivedRecord_id inArchive))) _
              · simp only [if_neg applies]

theorem compareAndUpdateFields_cases {taskId : String} (expected : String)
    {updates : Record} {disk : Disk} (dated : clock.today ≠ "") (keepsId : updates.get? "id" = none)
    (sole : Sole taskId disk) :
    (compareAndUpdateFields clock taskId expected updates disk).2 = disk ∨
      ∃ record, authorityRevision record = expected ∧
        Replaced taskId disk (compareAndUpdateFields clock taskId expected updates disk).2 record
          (record.update updates) := by
  unfold compareAndUpdateFields
  split
  case isTrue => exact .inl rfl
  case isFalse =>
    split
    case h_1 => exact .inl rfl
    case h_2 before record after found =>
      have sameId : hasId taskId (record.update updates) = true := by
        rw [hasId_iff, get_update, keepsId]
        exact (hasId_iff _ _).mp (locate_before found).2
      split
      case isTrue => exact .inl rfl
      case isFalse stale =>
        refine .inr ⟨record, not_not.mp stale, ?_⟩
        simp only
        split
        case isTrue => exact replaced_retire dated sole found sameId
        case isFalse => exact replaced_rewrite found sameId

/-- Does the metadata patch write? -/
def patchWrites (taskId : String) (updates : Record) (disk : Disk) : Bool :=
  !updates.entries.isEmpty && (unknownMetadata updates).isEmpty &&
    match disk.active.find? (hasId taskId) with
    | none => false
    | some record =>
        match patchContract record updates with
        | .ok _ => true
        | .error _ => false

theorem patchContractFields_cases (clock : Clock) (taskId : String) (updates : Record)
    (disk : Disk) :
    (patchWrites taskId updates disk = false ∧
      (patchContractFields clock taskId updates disk).2 = disk) ∨
    (patchWrites taskId updates disk = true ∧
      ∃ record changed, patchContract record updates = .ok changed ∧
        unknownMetadata updates = [] ∧
        Replaced taskId disk (patchContractFields clock taskId updates disk).2 record changed) := by
  unfold patchContractFields
  split
  case isTrue empty => exact .inl ⟨by simp [patchWrites, empty], rfl⟩
  case isFalse given =>
    split
    case isTrue unknown => exact .inl ⟨by simp [patchWrites, unknown], rfl⟩
    case isFalse known =>
      have known : unknownMetadata updates = [] := not_not.mp known
      split
      case h_1 missing => exact .inl ⟨by simp [patchWrites, locate_none missing], rfl⟩
      case h_2 before record after found =>
        have first := (locate_some found).2
        split
        case h_1 error failed => exact .inl ⟨by simp [patchWrites, first, failed], rfl⟩
        case h_2 changed patched =>
          have sameId : hasId taskId changed = true := by
            rw [hasId_iff, patchContract_get patched (by decide)]
            exact (hasId_iff _ _).mp (locate_before found).2
          refine .inr ⟨?_, record, changed, patched, known, replaced_rewrite found sameId⟩
          simp [patchWrites, first, patched, known, given]

/-- The keyword arguments with which a record is rebuilt as a task. -/
def taskArguments (data binding : Record) (evidence : Json) : List (String × Json) :=
  (((data.erase "contract").erase "execution_binding").erase "evidence").entries ++
    [("contract", Json.ofDict (taskContractFromMapping (data.get "contract"))),
      ("execution_binding", Json.ofDict binding), ("evidence", evidence)]

def readBinding : Json → Except StoreError Record
  | .obj fields => construct "TaskExecutionBinding" bindingFields fields
  | _ => .ok (Dict.ofEntries bindingFields)

def readEvidence : Json → Except StoreError Json
  | .obj fields =>
      if fields = [] then .ok Json.null
      else (construct "TaskEvidence" evidenceFields fields).map Json.ofDict
  | value =>
      if value.truthy then .error (.type "argument after ** must be a mapping")
      else .ok Json.null

theorem toTask_eq (clock : Clock) (data : Record) :
    toTask clock data = (do
      let binding ← readBinding (data.get "execution_binding")
      let evidence ← readEvidence (data.get "evidence")
      construct "Task" (taskDefaults clock) (taskArguments data binding evidence)) := by
  unfold toTask readBinding readEvidence
  cases data.get "execution_binding" <;> cases data.get "evidence"
  all_goals
    refine congrArg (_ >>= ·) (funext fun binding => ?_)
    simp only
    split <;> rfl

theorem toTask_ok {data : Record} (rebuilt : toTask clock data = .ok task) : ∃ binding evidence,
      construct "Task" (taskDefaults clock) (taskArguments data binding evidence) = .ok task := by
  rw [toTask_eq] at rebuilt
  obtain ⟨binding, _, rebuilt⟩ := Fallible.bind_eq_ok rebuilt
  obtain ⟨evidence, _, constructed⟩ := Fallible.bind_eq_ok rebuilt
  exact ⟨binding, evidence, constructed⟩

/-- A task shows the normal form of the stored contract. -/
theorem toTask_contract {data : Record} (rebuilt : toTask clock data = .ok task) :
    task.get "contract" = Json.ofDict (taskContractFromMapping (data.get "contract")) := by
  obtain ⟨binding, evidence, constructed⟩ := toTask_ok rebuilt
  unfold construct at constructed
  split at constructed
  case h_1 => cases constructed
  case h_2 =>
    cases constructed
    rw [taskArguments, Dict.insertAll, List.foldl_append]
    simp only [List.foldl_cons, List.foldl_nil]
    rw [get_insert_ne _ _ (by decide), get_insert_ne _ _ (by decide), Record.get,
      Dict.get?_insert_self]
    rfl

/-- A task reads its plain fields from the record, with the default for a field
that the record does not have. -/
theorem toTask_get {data : Record} (rebuilt : toTask clock data = .ok task)
    {key : String} (plain : key ∉ ["contract", "execution_binding", "evidence"]) :
    task.get key =
      (data.get? key).getD (Record.get (Dict.ofEntries (taskDefaults clock)) key) := by
  simp only [List.mem_cons, List.not_mem_nil, or_false, not_or] at plain
  obtain ⟨notContract, notBinding, notEvidence⟩ := plain
  obtain ⟨binding, evidence, constructed⟩ := toTask_ok rebuilt
  unfold construct at constructed
  split at constructed
  case h_1 => cases constructed
  case h_2 =>
    cases constructed
    rw [taskArguments, Dict.insertAll, List.foldl_append]
    simp only [List.foldl_cons, List.foldl_nil]
    rw [get_insert_ne _ _ notEvidence, get_insert_ne _ _ notBinding, get_insert_ne _ _ notContract]
    refine (get_update (Dict.ofEntries (taskDefaults clock))
      (((data.erase "contract").erase "execution_binding").erase "evidence") key).trans ?_
    rw [Dict.get?_erase, Dict.get?_erase, Dict.get?_erase, if_neg notEvidence, if_neg notBinding,
      if_neg notContract]

theorem construct_ok_iff (className : String) (defaults arguments : List (String × Json)) :
    (∃ record, construct className defaults arguments = .ok record) ↔
      ∀ argument ∈ arguments, argument.1 ∈ defaults.map Prod.fst := by
  unfold construct
  split
  case h_1 argument found =>
    have unknown := List.find?_some found
    refine iff_of_false (fun ⟨_, impossible⟩ => by cases impossible) fun known => ?_
    simp only [Bool.not_eq_true', decide_eq_false_iff_not] at unknown
    exact unknown (known argument (List.mem_of_find?_eq_some found))
  case h_2 found =>
    refine iff_of_true ⟨_, rfl⟩ fun argument member => ?_
    simpa using List.find?_eq_none.mp found argument member

/-- The stored binding has no unknown field. -/
def bindingReads (value : Json) : Prop :=
  ∀ entry ∈ value.fields, entry.1 ∈ bindingFields.map Prod.fst

/-- The stored evidence has no unknown field. -/
def evidenceReads : Json → Prop
  | .obj fields => ∀ entry ∈ fields, entry.1 ∈ evidenceFields.map Prod.fst
  | value => value.truthy = false

theorem taskArguments_known (clock : Clock) (data binding : Record) (evidence : Json) :
    (∀ argument ∈ taskArguments data binding evidence,
      argument.1 ∈ (taskDefaults clock).map Prod.fst) ↔
      ∀ key, data.contains key = true → key ∈ (taskDefaults clock).map Prod.fst := by
  have plain : ∀ key value, (key, value) ∈
      (((data.erase "contract").erase "execution_binding").erase "evidence").entries ↔
        key ≠ "evidence" ∧ key ≠ "execution_binding" ∧ key ≠ "contract" ∧
          data.get? key = some value := by
    intro key value
    rw [← Dict.get?_eq_some_iff, Dict.get?_erase, Dict.get?_erase, Dict.get?_erase]
    split_ifs <;> simp_all
  constructor
  · intro known key present
    obtain ⟨value, found⟩ := Option.isSome_iff_exists.mp present
    by_cases special : key = "evidence" ∨ key = "execution_binding" ∨ key = "contract"
    · rcases special with rfl | rfl | rfl
      all_goals simp [taskDefaults]
    · simp only [not_or] at special
      exact known (key, value) (List.mem_append_left _
        ((plain key value).mpr ⟨special.1, special.2.1, special.2.2, found⟩))
  · intro known entry member
    rcases List.mem_append.mp member with stored | special
    · obtain ⟨_, _, _, found⟩ := (plain entry.1 entry.2).mp stored
      exact known entry.1 (by rw [Dict.contains, found]; rfl)
    · simp only [List.mem_cons, List.not_mem_nil, or_false] at special
      rcases special with rfl | rfl | rfl
      all_goals simp [taskDefaults]

theorem readBinding_ok_iff (value : Json) :
    (∃ binding, readBinding value = .ok binding) ↔ bindingReads value := by
  cases value with
  | obj fields => exact construct_ok_iff _ _ _
  | _ => exact iff_of_true ⟨_, rfl⟩ fun _ member => absurd member List.not_mem_nil

theorem readEvidence_ok_iff (value : Json) :
    (∃ evidence, readEvidence value = .ok evidence) ↔ evidenceReads value := by
  unfold readEvidence evidenceReads
  split
  · split
    case isTrue empty => simp [empty]
    case isFalse =>
      rw [← construct_ok_iff "TaskEvidence"]
      cases construct "TaskEvidence" evidenceFields _ with
      | error error => simp [Except.map]
      | ok record => simp [Except.map]
  · split
    case isTrue truthy => simp [truthy]
    case isFalse falsy => simp [falsy]

/-- A record reads as a task if none of its parts has an unknown field. -/
theorem toTask_ok_iff (clock : Clock) (data : Record) :
    (∃ task, toTask clock data = .ok task) ↔
      bindingReads (data.get "execution_binding") ∧ evidenceReads (data.get "evidence") ∧
        ∀ key, data.contains key = true → key ∈ (taskDefaults clock).map Prod.fst := by
  rw [toTask_eq]
  refine Fallible.bind_ok_iff (readBinding_ok_iff _) fun binding =>
    Fallible.bind_ok_iff (readEvidence_ok_iff _) ?_
  intro evidence
  exact (construct_ok_iff _ _ _).trans (taskArguments_known clock data binding evidence)
/-- Applying a contract keeps a record readable, at any later time. -/
theorem toTask_applyContract {update : ContractUpdate} {record : Record}
    (rebuilt : toTask clock record = .ok task)
    (bound : bindingReads (Json.ofDict update.executionBinding))
    (plain : update.taskUpdates.entries = []) (later : Clock) :
    ∃ task, toTask later (applyContract update record) = .ok task := by
  obtain ⟨_, evidence, known⟩ := (toTask_ok_iff clock record).mp ⟨task, rebuilt⟩
  have changed : applyContract update record =
      (((record.insert "contract" (Json.ofDict update.contract)).insert
        "execution_binding" (Json.ofDict update.executionBinding)).insert
        "contract_authority_revision" (.str update.contractAuthorityRevision)).insert
        "contract_authority_sequence" (.int update.contractAuthoritySequence) := by
    rw [applyContract, Dict.update, plain]
    rfl
  rw [toTask_ok_iff, changed]
  refine ⟨?_, ?_, fun key present => ?_⟩
  · rw [get_insert_ne _ _ (by decide), get_insert_ne _ _ (by decide), Record.get,
      Dict.get?_insert_self]
    exact bound
  · rw [get_insert_ne _ _ (by decide), get_insert_ne _ _ (by decide), get_insert_ne _ _ (by decide),
      get_insert_ne _ _ (by decide)]
    exact evidence
  · change key ∈ (taskDefaults clock).map Prod.fst
    rw [Dict.contains, Dict.get?_insert, Dict.get?_insert, Dict.get?_insert, Dict.get?_insert]
      at present
    split_ifs at present with sequence revision binding contract
    · exact sequence ▸ by simp [taskDefaults]
    · exact revision ▸ by simp [taskDefaults]
    · exact binding ▸ by simp [taskDefaults]
    · exact contract ▸ by simp [taskDefaults]
    · exact known key present

end ZaofuFormal.Tasks
