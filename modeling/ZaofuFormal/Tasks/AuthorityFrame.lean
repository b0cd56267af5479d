import ZaofuFormal.Tasks.LatestRecord
import ZaofuFormal.Tasks.MetadataMerge

/-!
# The contract authority as a frame condition

Once a task carries an authority revision, its binding, its revision and the
semantic fields of its contract are to change in a contract update with the
current revision alone.  Each way to write a record is compared with this rule;
`ensure` is the one that takes the protected fields without a check.
-/

namespace ZaofuFormal.Tasks

open Foundation

/-- A field of a stored contract, as the store itself reads the contract. -/
def contractField (record : Record) (field : String) : Json :=
  match dictOf (record.get "contract") with
  | .ok contract => contract.get field
  | .error _ => .null

/-- The two records agree on all that the contract authority protects. -/
structure SameAuthority (record changed : Record) : Prop where
  binding : changed.get "execution_binding" = record.get "execution_binding"
  revision : changed.get "contract_authority_revision" = record.get "contract_authority_revision"
  sequence : changed.get "contract_authority_sequence" = record.get "contract_authority_sequence"
  contract : ∀ field, field ∉ contractMetadataFields →
    contractField changed field = contractField record field

theorem SameAuthority.refl (record : Record) : SameAuthority record record :=
  ⟨rfl, rfl, rfl, fun _ _ => rfl⟩

/-- A change of other fields alone. -/
theorem sameAuthority_of_get {record changed : Record}
    (same : ∀ key ∈ authorityFields, changed.get key = record.get key) :
    SameAuthority record changed := by
  refine ⟨same _ (by decide), same _ (by decide), same _ (by decide), fun field _ => ?_⟩
  rw [contractField, contractField, same "contract" (by decide)]

theorem get?_of_attemptedFields {updates : Record} (none : attemptedFields updates = [])
    {key : String} (member : key ∈ authorityFields) : updates.get? key = Option.none := by
  have absent := List.filter_eq_nil_iff.mp none key member
  rw [Dict.contains, Bool.not_eq_true, Option.isSome_eq_false_iff, Option.isNone_iff_eq_none]
    at absent
  exact absent

theorem sameAuthority_update {record updates : Record} (none : attemptedFields updates = []) :
    SameAuthority record (record.update updates) := by
  refine sameAuthority_of_get fun key member => ?_
  rw [get_update, get?_of_attemptedFields none member, Option.getD_none]

theorem sameAuthority_patch {record updates changed : Record}
    (known : unknownMetadata updates = []) (patched : patchContract record updates = .ok changed) :
    SameAuthority record changed := by
  refine ⟨patchContract_get patched (by decide), patchContract_get patched (by decide),
    patchContract_get patched (by decide), fun field semantic => ?_⟩
  unfold patchContract at patched
  obtain ⟨loaded, read, patched⟩ := Fallible.bind_eq_ok patched
  obtain ⟨contract, applied, patched⟩ := Fallible.bind_eq_ok patched
  cases patched
  have absent : field ∉ updates.entries.map Prod.fst := by
    intro listed
    have inside : field ∈ updates.sortKeys.keys := by
      obtain ⟨entry, member, rfl⟩ := List.mem_map.mp listed
      exact List.mem_map.mpr ⟨entry, updates.sortKeys_perm.mem_iff.mpr member, rfl⟩
    have refused := List.filter_eq_nil_iff.mp known field inside
    simp [semantic] at refused
  have shown : Record.get (record.insert "contract" (Json.ofDict contract)) "contract" =
      Json.ofDict contract := by
    rw [Record.get, Dict.get?_insert_self, Option.getD_some]
  obtain ⟨reread, same⟩ : ∃ reread, dictOf (Json.ofDict contract) = .ok reread := by
    unfold dictOf Json.ofDict
    split
    · exact ⟨_, rfl⟩
    · exact ⟨_, rfl⟩
  rw [contractField, contractField, shown, same, read]
  exact (dictOf_ofDict contract same field).trans (foldlM_patchField_other absent applied)

/-- The contract update of this task that names the revision of the record. -/
def CurrentUpdate (taskId : String) (record : Record) (operation : Operation) : Prop :=
  ∃ clock request, operation = .compareAndUpdateContract clock request ∧
    request.taskId = taskId ∧ request.expectedAuthorityRevision = authorityRevision record

/-- `ensure` does not give a stamped record protected fields. -/
def LeavesStamped (record kwargs : Record) : Prop :=
  attemptedFields kwargs = [] ∨ authorityRevision record = ""

variable {operation : Operation}

theorem changes_authority {record changed : Record} {taskId : String}
    (changes : Changes operation record changed) (stamped : authorityRevision record ≠ "")
    (identified : hasId taskId record = true) (selected : operation.selects record = true)
    (leaves : ∀ clock key title kwargs, operation = .ensure clock key title kwargs →
      LeavesStamped record kwargs) :
    SameAuthority record changed ∨ CurrentUpdate taskId record operation := by
  cases changes with
  | update free => exact .inl (sameAuthority_update (free.resolve_right stamped))
  | @contract clock request record matched =>
      right
      refine ⟨clock, request, rfl, ?_, (contractMatches_revision matched).symm⟩
      rw [hasId_iff] at identified
      exact Json.str.inj (((hasId_iff _ _).mp selected).symm.trans identified)
  | fields unprotected current => exact .inl (sameAuthority_update unprotected)
  | patch known patched => exact .inl (sameAuthority_patch known patched)
  | @ensure clock key title kwargs record =>
      left
      have none := (leaves clock key title kwargs rfl).resolve_right stamped
      refine sameAuthority_of_get fun name member => ?_
      have notTitle : name ≠ "title" := by
        rintro rfl
        exact absurd member (by decide)
      rw [get_update, get?_of_attemptedFields none member, Option.getD_none,
        get_insert_ne _ _ notTitle]

/-- The record of the board, or the last one of the indexed day. -/
def indexedRecord (disk : Disk) (taskId : String) : Option Record :=
  (disk.active.find? (hasId taskId)).or
    ((disk.terminalIndex.get? taskId).bind fun date =>
      (archiveFile disk date).reverse.find? (hasId taskId))

/-- Every task is on the board once, or indexed under a day, or unknown. -/
structure Placed (disk : Disk) : Prop where
  sole : ∀ taskId, Sole taskId disk
  dated : ∀ taskId, disk.terminalIndex.get? taskId ≠ some ""
  complete : ∀ taskId, OnBoard taskId disk ∨ disk.terminalIndex.get? taskId ≠ none ∨
    ∀ record, OnDisk disk record → hasId taskId record = false

theorem Placed.currentRecord_eq {disk : Disk} (placed : Placed disk) (taskId : String) :
    currentRecord disk taskId = indexedRecord disk taskId := by
  cases active : disk.active.find? (hasId taskId) with
  | some record => rw [currentRecord, indexedRecord, active, Option.some_or, Option.some_or]
  | none =>
      rw [currentRecord, indexedRecord, active, Option.none_or, Option.none_or]
      cases indexed : disk.terminalIndex.get? taskId with
      | some date =>
          have dated : date ≠ "" := fun empty => placed.dated taskId (empty ▸ indexed)
          rw [archivedRecord, indexed, Option.bind_some]
          simp [dated]
      | none =>
          rw [Option.bind_none]
          by_contra present
          obtain ⟨record, found⟩ := Option.ne_none_iff_exists'.mp present
          have inside := onDisk_of_archived found
          have identified := (hasId_iff _ _).mpr (archivedRecord_id found)
          rcases placed.complete taskId with onBoard | listed | unknown
          · obtain ⟨other, member, hit⟩ := onBoard
            exact absurd hit (List.find?_eq_none.mp active other member)
          · exact listed indexed
          · rw [unknown record inside] at identified
            cases identified

section Moves

variable {disk : Disk} {before after : List Record} {record changed : Record}

variable {taskId : String}

theorem indexedRecord_of_active (active : disk.active.find? (hasId taskId) = some record) :
    indexedRecord disk taskId = some record := by
  rw [indexedRecord, active, Option.some_or]

theorem find?_sole (sole : ∀ taskId, Sole taskId disk)
    (located : disk.active = before ++ record :: after)
    (identified : hasId taskId record = true) : disk.active.find? (hasId taskId) = some record := by
  have alone := (sole_split_iff located identified).mp (sole taskId)
  rw [located]
  exact find?_append_cons (fun other member => Bool.not_eq_true _ ▸ fun hit =>
    alone ⟨other, List.mem_append_left _ member, hit⟩) identified

theorem onBoard_rewrite (located : disk.active = before ++ record :: after)
    (sameId : changed.get "id" = record.get "id")
    (onBoard : OnBoard taskId disk) :
    OnBoard taskId { disk with active := before ++ changed :: after } := by
  obtain ⟨other, member, hit⟩ := onBoard
  rw [located, List.mem_append, List.mem_cons] at member
  rcases member with left | rfl | right
  · exact ⟨other, List.mem_append_left _ left, hit⟩
  · refine ⟨changed, List.mem_append_right _ List.mem_cons_self, ?_⟩
    rw [hasId, sameId]
    exact hit
  · exact ⟨other, List.mem_append_right _ (List.mem_cons_of_mem _ right), hit⟩

theorem Placed.rewrite (placed : Placed disk) (located : disk.active = before ++ record :: after)
    (sameId : changed.get "id" = record.get "id") :
    Placed { disk with active := before ++ changed :: after } := by
  refine ⟨sole_rewrite placed.sole located sameId, placed.dated, fun taskId => ?_⟩
  rcases placed.complete taskId with onBoard | indexed | unknown
  · exact .inl (onBoard_rewrite located sameId onBoard)
  · exact .inr (.inl indexed)
  · refine .inr (.inr ?_)
    rintro other (active | archived)
    · rcases List.mem_append.mp active with left | right
      · exact unknown other (.inl (located ▸ List.mem_append_left _ left))
      · rcases List.mem_cons.mp right with rfl | later
        · have old := unknown record
            (.inl (located ▸ List.mem_append_right _ List.mem_cons_self))
          rw [hasId, sameId]
          exact old
        · exact unknown other
            (.inl (located ▸ List.mem_append_right _ (List.mem_cons_of_mem _ later)))
    · exact unknown other (.inr archived)

/-- A record that is rewritten is the one that its task had, and no other task changes. -/
theorem indexedRecord_rewrite (placed : Placed disk)
    (located : disk.active = before ++ record :: after)
    (sameId : changed.get "id" = record.get "id") (taskId : String) :
    (hasId taskId record = true ∧ indexedRecord disk taskId = some record ∧
      indexedRecord { disk with active := before ++ changed :: after } taskId = some changed) ∨
    indexedRecord { disk with active := before ++ changed :: after } taskId =
      indexedRecord disk taskId := by
  have sameTest : hasId taskId changed = hasId taskId record := by rw [hasId, hasId, sameId]
  cases hit : hasId taskId record with
  | true =>
      have now := find?_sole (sole_rewrite placed.sole located sameId) rfl (sameTest.trans hit)
      exact .inl ⟨rfl, indexedRecord_of_active (find?_sole placed.sole located hit),
        indexedRecord_of_active now⟩
  | false =>
      right
      have same : (before ++ changed :: after).find? (hasId taskId) =
          disk.active.find? (hasId taskId) := by
        rw [located]
        exact find?_split hit (sameTest.trans hit)
      rw [indexedRecord, indexedRecord, ← same]
      rfl

theorem Placed.retire (placed : Placed disk) (located : disk.active = before ++ record :: after)
    {taskId date : String} (identified : hasId taskId record = true)
    (keepsId : hasId taskId changed = true) (dated : date ≠ "") :
    Placed (Tasks.retire disk taskId date changed (before ++ after)) := by
  refine ⟨sole_remove placed.sole located, fun other => ?_, fun other => ?_⟩
  · change (disk.terminalIndex.insert taskId date).get? other ≠ some ""
    rw [Dict.get?_insert]
    split
    case isTrue => exact fun same => dated (Option.some.inj same)
    case isFalse => exact placed.dated other
  · by_cases same : other = taskId
    · right
      left
      change (disk.terminalIndex.insert taskId date).get? other ≠ none
      rw [same, Dict.get?_insert_self]
      exact Option.some_ne_none date
    · have old : hasId other record = false := by
        rw [hasId_iff] at identified
        simp [hasId, identified, Ne.symm same]
      have new : hasId other changed = false := by
        rw [hasId_iff] at keepsId
        simp [hasId, keepsId, Ne.symm same]
      rcases placed.complete other with ⟨item, member, hit⟩ | indexed | unknown
      · refine .inl ⟨item, ?_, hit⟩
        rw [located, List.mem_append, List.mem_cons] at member
        refine List.mem_append.mpr (member.imp id fun right => right.resolve_left ?_)
        rintro rfl
        rw [old] at hit
        cases hit
      · right
        left
        change (disk.terminalIndex.insert taskId date).get? other ≠ none
        rw [Dict.get?_insert_ne _ _ same]
        exact indexed
      · refine .inr (.inr ?_)
        rintro item (active | ⟨day, archived⟩)
        · refine unknown item (.inl ?_)
          rw [located, List.mem_append, List.mem_cons]
          exact (List.mem_append.mp active).imp id .inr
        · rw [archiveFile_retire] at archived
          split at archived
          case isTrue =>
            rcases List.mem_append.mp archived with held | added
            · exact unknown item (.inr ⟨date, held⟩)
            · rw [List.mem_singleton.mp added]
              exact new
          case isFalse => exact unknown item (.inr ⟨day, archived⟩)

theorem indexedRecord_retire (placed : Placed disk)
    (located : disk.active = before ++ record :: after) {date : String}
    (identified : hasId taskId record = true) (keepsId : hasId taskId changed = true)
    (other : String) :
    (other = taskId ∧ indexedRecord disk other = some record ∧
      indexedRecord (retire disk taskId date changed (before ++ after)) other = some changed) ∨
    indexedRecord (retire disk taskId date changed (before ++ after)) other =
      indexedRecord disk other := by
  by_cases same : other = taskId
  · subst same
    left
    refine ⟨rfl, indexedRecord_of_active (find?_sole placed.sole located identified), ?_⟩
    have gone : (before ++ after).find? (hasId other) = none :=
      List.find?_eq_none.mpr fun item member hit =>
        (sole_split_iff located identified).mp (placed.sole other) ⟨item, member, hit⟩
    have indexed : (retire disk other date changed (before ++ after)).terminalIndex.get? other =
        some date := Dict.get?_insert_self _ _ _
    change ((before ++ after).find? (hasId other)).or _ = some changed
    rw [gone, Option.none_or, indexed, Option.bind_some, archiveFile_retire, if_pos rfl,
      List.reverse_append, List.reverse_singleton, List.singleton_append,
      List.find?_cons_of_pos keepsId]
  · right
    have old : hasId other record = false := by
      rw [hasId_iff] at identified
      simp [hasId, identified, Ne.symm same]
    have new : hasId other changed = false := by
      rw [hasId_iff] at keepsId
      simp [hasId, keepsId, Ne.symm same]
    have index : (retire disk taskId date changed (before ++ after)).terminalIndex.get? other =
        disk.terminalIndex.get? other := Dict.get?_insert_ne _ _ same
    have file : ∀ day, (archiveFile (retire disk taskId date changed (before ++ after))
        day).reverse.find? (hasId other) = (archiveFile disk day).reverse.find? (hasId other) := by
      intro day
      rw [archiveFile_retire]
      split
      case isTrue today =>
        rw [today, List.reverse_append, List.reverse_singleton, List.singleton_append,
          List.find?_cons_of_neg (by simp [new])]
      case isFalse => rfl
    have active : (retire disk taskId date changed (before ++ after)).active.find? (hasId other) =
        disk.active.find? (hasId other) := by
      rw [located]
      exact find?_remove old
    rw [indexedRecord, indexedRecord, active, index]
    simp only [file]

theorem Placed.create (placed : Placed disk) {records : List Record}
    (fresh : FreshIds disk records) :
    Placed { disk with active := disk.active ++ records } := by
  refine ⟨sole_create placed.sole fresh, placed.dated, fun taskId => ?_⟩
  by_cases new : ∃ record ∈ records, hasId taskId record = true
  · obtain ⟨record, member, hit⟩ := new
    exact .inl ⟨record, List.mem_append_right _ member, hit⟩
  · rcases placed.complete taskId with ⟨record, member, hit⟩ | indexed | unknown
    · exact .inl ⟨record, List.mem_append_left _ member, hit⟩
    · exact .inr (.inl indexed)
    · refine .inr (.inr ?_)
      rintro record (active | archived)
      · rcases List.mem_append.mp active with old | added
        · exact unknown record (.inl old)
        · exact Bool.not_eq_true _ ▸ fun hit => new ⟨record, added, hit⟩
      · exact unknown record (.inr archived)

/-- A known task keeps its record when records without its id, or ids that the
index does not have, are added. -/
theorem indexedRecord_create {records : List Record} (fresh : FreshIds disk records)
    (found : indexedRecord disk taskId = some record)
    (unlisted : ∀ other ∈ records, hasId taskId other = true →
      disk.terminalIndex.get? taskId = none) :
    indexedRecord { disk with active := disk.active ++ records } taskId = some record := by
  have absent : records.find? (hasId taskId) = none := by
    rw [List.find?_eq_none]
    intro other member hit
    rw [indexedRecord, unlisted other member hit, Option.bind_none, Option.or_none] at found
    have empty := (fresh taskId).2
      ⟨record, List.mem_of_find?_eq_some found, List.find?_some found⟩
    have listed := List.mem_filter.mpr ⟨member, hit⟩
    rw [empty] at listed
    exact List.not_mem_nil listed
  rw [← found, indexedRecord, indexedRecord]
  change ((disk.active ++ records).find? (hasId taskId)).or _ = _
  rw [List.find?_append, absent, Option.or_none]
  rfl

theorem Placed.forget (placed : Placed disk) (onBoard : OnBoard taskId disk) :
    Placed { disk with terminalIndex := disk.terminalIndex.erase taskId } := by
  refine ⟨placed.sole, fun other => ?_, fun other => ?_⟩
  · change (disk.terminalIndex.erase taskId).get? other ≠ some ""
    rw [Dict.get?_erase]
    split
    case isTrue => exact Option.some_ne_none "" ∘ Eq.symm
    case isFalse => exact placed.dated other
  · by_cases same : other = taskId
    · exact .inl (same ▸ onBoard)
    · rcases placed.complete other with here | indexed | unknown
      · exact .inl here
      · refine .inr (.inl ?_)
        change (disk.terminalIndex.erase taskId).get? other ≠ none
        rw [Dict.get?_erase, if_neg same]
        exact indexed
      · exact .inr (.inr fun record inside => unknown record (inside.imp id id))

/-- The index entry of a task on the board is not read. -/
theorem indexedRecord_forget (onBoard : OnBoard taskId disk) (other : String) :
    indexedRecord { disk with terminalIndex := disk.terminalIndex.erase taskId } other =
      indexedRecord disk other := by
  by_cases same : other = taskId
  · subst same
    obtain ⟨record, active⟩ : ∃ record, disk.active.find? (hasId other) = some record :=
      Option.isSome_iff_exists.mp ((onBoard_iff_find? other disk).mp onBoard)
    have same : indexedRecord
        { disk with terminalIndex := disk.terminalIndex.erase other } other = some record :=
      indexedRecord_of_active active
    exact same.trans (indexedRecord_of_active active).symm
  · have index : (disk.terminalIndex.erase taskId).get? other =
        disk.terminalIndex.get? other := by
      rw [Dict.get?_erase, if_neg same]
    rw [indexedRecord, indexedRecord, index]
    rfl

end Moves

/-- No two tasks get one id, a task finishes on a day that has a name, and `ensure`
does not give a stamped record protected fields. -/
def Operation.Guarded (disk : Disk) : Operation → Prop
  | .add task => ¬OnBoard task.id disk ∧ disk.terminalIndex.get? task.id = none
  | .addMany _ => True
  | .reopen _ => False
  | .update clock taskId kwargs => KeepsId taskId kwargs ∧ clock.today ≠ ""
  | .compareAndUpdateContract _ request => KeepsId request.taskId request.taskUpdates
  | .compareAndUpdateFields clock taskId _ updates => KeepsId taskId updates ∧ clock.today ≠ ""
  | .patchContractFields _ _ _ => True
  | .ensure clock key _ kwargs =>
      match disk.active.find? (hasKey key) with
      | some record => (∀ id ∈ kwargs.get? "id", id = record.get "id") ∧ LeavesStamped record kwargs
      | none => ∀ taskId, (kwargs.get? "id").getD (.str clock.newTaskId) = .str taskId →
          ¬OnBoard taskId disk ∧ disk.terminalIndex.get? taskId = none

theorem Operation.Guarded.identified {disk : Disk}
    (guarded : operation.Guarded disk) : operation.Identified disk := by
  cases operation with
  | add task => exact guarded.1
  | update clock taskId kwargs => exact guarded.1
  | compareAndUpdateFields clock taskId expected updates => exact guarded.1
  | ensure clock key title kwargs =>
      cases found : disk.active.find? (hasKey key) with
      | some record =>
          simp only [Operation.Guarded, found] at guarded
          simp only [Operation.Identified, found]
          exact guarded.1
      | none =>
          simp only [Operation.Guarded, found] at guarded
          simp only [Operation.Identified, found]
          exact fun taskId same => (guarded taskId same).1
  | compareAndUpdateContract clock request => exact guarded
  | reopen task => exact guarded.elim
  | addMany tasks => trivial
  | patchContractFields clock taskId updates => trivial

theorem guarded_leaves {disk : Disk} {record : Record}
    (guarded : operation.Guarded disk) (found : disk.active.find? operation.selects = some record) :
    ∀ clock key title kwargs, operation = .ensure clock key title kwargs →
      LeavesStamped record kwargs := by
  rintro clock key title kwargs rfl
  change disk.active.find? (hasKey key) = some record at found
  simp only [Operation.Guarded, found] at guarded
  exact guarded.2

/-- The stamped records have the same authority after the operation, or it is an
update of the contract that names the current revision. -/
def AuthorityKept (operation : Operation) (disk after : Disk) : Prop :=
  ∀ taskId record, indexedRecord disk taskId = some record → authorityRevision record ≠ "" →
    ∃ changed, indexedRecord after taskId = some changed ∧
      (SameAuthority record changed ∨ CurrentUpdate taskId record operation)

/-- The index does not have the ids of new tasks. -/
theorem guarded_unlisted {disk : Disk} {records : List Record}
    (guarded : operation.Guarded disk) (creates : Creates disk operation records)
    {taskId : String} {record : Record} (member : record ∈ records)
    (hit : hasId taskId record = true) : disk.terminalIndex.get? taskId = none := by
  cases creates with
  | @add task =>
      rw [List.mem_singleton.mp member, hasId_iff, asdict_id] at hit
      exact Json.str.inj hit ▸ guarded.2
  | @addMany tasks news part fresh distinct =>
      obtain ⟨task, listed, rfl⟩ := List.mem_map.mp member
      rw [hasId_iff, asdict_id] at hit
      have absent := (fresh task listed).2
      rw [Json.str.inj hit, Dict.contains, Option.isSome_eq_false_iff, Option.isNone_iff_eq_none]
        at absent
      exact absent
  | @ensure clock key title kwargs created absent made =>
      simp only [Operation.Guarded, absent] at guarded
      rw [List.mem_singleton.mp member, hasId_iff, construct_get made (by decide) (by decide),
        get_ofEntries (taskDefaults_distinct clock), taskDefaults_id] at hit
      exact (guarded taskId hit).2

theorem Placed.step {disk : Disk} (placed : Placed disk) {operation : Operation}
    (guarded : operation.Guarded disk) :
    Placed (Tasks.step disk operation) ∧ AuthorityKept operation disk (Tasks.step disk operation) := by
  rw [← perform_writes]
  have effect := effect_writes disk operation
  generalize writes disk operation = performed at effect
  cases effect with
  | stay =>
      exact ⟨placed, fun taskId record found _ => ⟨record, found, .inl (SameAuthority.refl record)⟩⟩
  | @rewrite before after record changed located earlier selected changes =>
      have found : disk.active.find? operation.selects = some record :=
        located ▸ find?_append_cons earlier selected
      have sameId := changes_id guarded.identified found changes
      refine ⟨placed.rewrite located sameId, fun taskId old held stamped => ?_⟩
      rcases indexedRecord_rewrite placed located sameId taskId with ⟨identified, before, now⟩ | same
      · obtain rfl := Option.some.inj (before.symm.trans held)
        exact ⟨changed, now, changes_authority changes stamped identified selected
          (guarded_leaves guarded found)⟩
      · exact ⟨old, same.trans held, .inl (SameAuthority.refl old)⟩
  | @retire before after record changed taskId date retires located earlier selected changes
      finished =>
      have found : disk.active.find? operation.selects = some record :=
        located ▸ find?_append_cons earlier selected
      have sameId := changes_id guarded.identified found changes
      obtain ⟨identified, dated⟩ : hasId taskId record = true ∧ date ≠ "" := by
        cases changes with
        | update free =>
            cases retires
            exact ⟨selected, guarded.2⟩
        | fields unprotected current =>
            cases retires
            exact ⟨selected, guarded.2⟩
        | _ => cases retires
      have keepsId : hasId taskId changed = true := by
        rw [hasId, sameId]
        exact identified
      refine ⟨placed.retire located identified keepsId dated, fun other old held stamped => ?_⟩
      rcases indexedRecord_retire placed located identified keepsId other with
        ⟨rfl, before, now⟩ | same
      · obtain rfl := Option.some.inj (before.symm.trans held)
        exact ⟨changed, now, changes_authority changes stamped identified selected
          (guarded_leaves guarded found)⟩
      · exact ⟨old, same.trans held, .inl (SameAuthority.refl old)⟩
  | create creates =>
      have fresh := fresh_created guarded.identified creates
      exact ⟨placed.create fresh, fun taskId record held _ =>
        ⟨record, indexedRecord_create fresh held fun other member hit =>
          guarded_unlisted guarded creates member hit, .inl (SameAuthority.refl record)⟩⟩
  | reopen reopens =>
      subst reopens
      exact guarded.elim
  | @reopenArchived clock request record updates absent archived _ changes =>
      subst updates
      have identified : hasId request.taskId (applyContract request record) = true := by
        have old := (hasId_iff request.taskId record).mpr (archivedRecord_id archived)
        rw [hasId_iff, applyContract_id, update_id guarded old, archivedRecord_id archived]
      have others : ∀ other, other ≠ request.taskId →
          hasId other (applyContract request record) = false := by
        intro other different
        rw [hasId_iff] at identified
        simp [hasId, identified, Ne.symm different]
      have fresh : FreshIds disk [applyContract request record] :=
        fresh_singleton fun taskId hit => by
          rw [hasId_iff] at hit identified
          obtain rfl := Json.str.inj (hit.symm.trans identified)
          rintro ⟨other, member, same⟩
          exact List.find?_eq_none.mp absent other member same
      have onBoard : OnBoard request.taskId
          { disk with active := disk.active ++ [applyContract request record] } :=
        ⟨_, List.mem_append_right _ (List.mem_singleton_self _), identified⟩
      refine ⟨(placed.create fresh).forget onBoard, fun other old held stamped => ?_⟩
      have forgotten := indexedRecord_forget onBoard other
      by_cases same : other = request.taskId
      · subst same
        rw [← placed.currentRecord_eq, currentRecord, absent, Option.none_or, archived] at held
        obtain rfl := Option.some.inj held
        refine ⟨applyContract request record, forgotten.trans (indexedRecord_of_active ?_), .inr ?_⟩
        · change (disk.active ++ [applyContract request record]).find? _ = _
          rw [List.find?_append, absent, Option.none_or, List.find?_cons_of_pos identified]
        · cases changes with
          | contract matched =>
              exact ⟨clock, request, rfl, rfl, (contractMatches_revision matched).symm⟩
      · refine ⟨old, forgotten.trans (indexedRecord_create fresh held fun item member hit => ?_),
          .inl (SameAuthority.refl old)⟩
        rw [List.mem_singleton.mp member, others other same] at hit
        cases hit

theorem placed_empty : Placed Disk.empty where
  sole := fun _ => Nat.zero_le 1
  dated := fun _ impossible => by cases impossible
  complete := by
    refine fun taskId => .inr (.inr ?_)
    rintro record (active | ⟨date, archived⟩)
    · exact absurd active List.not_mem_nil
    · exact absurd archived List.not_mem_nil

/-- In every run of guarded operations, the record that a task has keeps its
authority at each step, but for updates of its contract with the current revision. -/
theorem authority_changes_in_contract_updates {operations : List Operation} {operation : Operation}
    (guarded : Runs.Along step (fun disk operation => operation.Guarded disk) Disk.empty
      (operations ++ [operation]))
    {taskId : String} {record : Record}
    (current : currentRecord (Runs.run step Disk.empty operations) taskId = some record)
    (stamped : authorityRevision record ≠ "") :
    ∃ changed, currentRecord (Runs.run step Disk.empty (operations ++ [operation])) taskId =
        some changed ∧
      (SameAuthority record changed ∨ CurrentUpdate taskId record operation) := by
  obtain ⟨earlier, last, _⟩ := (Runs.along_append _ _ _).mp guarded
  have placed : Placed (Runs.run step Disk.empty operations) :=
    earlier.invariant Placed (fun _ _ placed guarded => (placed.step guarded).1) placed_empty
  obtain ⟨placedAfter, kept⟩ := placed.step last
  rw [placed.currentRecord_eq] at current
  obtain ⟨changed, now, law⟩ := kept taskId record current stamped
  refine ⟨changed, ?_, law⟩
  rw [Runs.run_append, Runs.run_cons, Runs.run_nil, placedAfter.currentRecord_eq]
  exact now

def protectedTask : Task :=
  { firstTask with key := "K1", contractAuthorityRevision := "authority-r1" }

theorem protectedTask_finished :
    ∃ changed,
      currentRecord (Runs.run step Disk.empty ([.add protectedTask] ++ [finishTask])) "T1" =
        some changed ∧
      (SameAuthority (asdict protectedTask) changed ∨
        CurrentUpdate "T1" (asdict protectedTask) finishTask) := by
  have guarded : Runs.Along step (fun disk operation => operation.Guarded disk) Disk.empty
      ([.add protectedTask] ++ [finishTask]) :=
    ⟨⟨(by decide : ¬OnBoard "T1" Disk.empty), rfl⟩, ⟨keepsId_statusUpdate _ _, by decide⟩, trivial⟩
  exact authority_changes_in_contract_updates guarded rfl (by decide +kernel)

/-- The keyword arguments of `ensure` with an empty revision. -/
def unstamp : Record := Dict.ofEntries [("contract_authority_revision", .str "")]

/-- `ensure` takes the authority revision off a stamped record. -/
theorem ensure_unstamps :
    ¬∀ (operations : List Operation) (operation : Operation) (taskId : String) (record : Record),
      (∀ task, .reopen task ∉ operations ++ [operation]) →
      currentRecord (Runs.run step Disk.empty operations) taskId = some record →
      authorityRevision record ≠ "" →
      ∃ changed, currentRecord (Runs.run step Disk.empty (operations ++ [operation])) taskId =
          some changed ∧
        (SameAuthority record changed ∨ CurrentUpdate taskId record operation) := by
  intro claimed
  obtain ⟨changed, now, same | ⟨clock, request, impossible, _⟩⟩ :=
    claimed [.add protectedTask] (.ensure sampleClock "K1" "renamed" unstamp) "T1"
      (asdict protectedTask) (by simp) rfl (by decide +kernel)
  · have bare : (currentRecord (Runs.run step Disk.empty ([.add protectedTask] ++
        [.ensure sampleClock "K1" "renamed" unstamp])) "T1").map authorityRevision = some "" := by
      decide +kernel
    rw [now, Option.map_some, authorityRevision, same.revision] at bare
    revert bare
    decide +kernel
  · cases impossible

end ZaofuFormal.Tasks
