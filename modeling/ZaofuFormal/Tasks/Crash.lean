import ZaofuFormal.Tasks.Writes

/-!
# Crashes between two writes

A crash leaves the files after some of the writes of an operation.  The order of
the writes keeps every task reachable, but a crash during a terminal transition
can leave a task both on the board and in the terminal index, and only another
terminal transition takes it out of this state.
-/

namespace ZaofuFormal.Tasks

open Foundation

/-- The first archived record with the id, the indexed day before the other days. -/
def archivedFirst (disk : Disk) (taskId : String) : Option Record :=
  ((disk.terminalIndex.get? taskId).bind fun date =>
    (archiveFile disk date).find? (hasId taskId)).or
      ((archiveDays disk).findSome? fun date => (archiveFile disk date).find? (hasId taskId))

/-- The record that `get` reads a task from. -/
def stored (disk : Disk) (taskId : String) : Option Record :=
  (disk.active.find? (hasId taskId)).or (archivedFirst disk taskId)

/-- The task of a record, if there is one. -/
def taskOf (clock : Clock) : Option Record → Except StoreError (Option Record)
  | some record => (toTask clock record).map some
  | none => .ok none

theorem get_eq (clock : Clock) (taskId : String) (disk : Disk) :
    get clock taskId disk = taskOf clock (stored disk taskId) := by
  unfold get stored archivedFirst
  rcases disk.active.find? (hasId taskId) with _ | record
  · simp only [Option.none_or]
    generalize Option.or _ _ = archived
    cases archived <;> rfl
  · rfl

theorem mem_archiveDays {disk : Disk} {date : String} {record : Record}
    (member : record ∈ archiveFile disk date) : date ∈ archiveDays disk := by
  rw [archiveFile] at member
  cases found : disk.archives.get? date with
  | none =>
      rw [found] at member
      exact absurd member List.not_mem_nil
  | some records =>
      have listed := (disk.archives.get?_eq_some_iff date records).mp found
      exact List.mem_map.mpr ⟨(date, records), disk.archives.sortKeys_perm.mem_iff.mpr listed, rfl⟩

/-- A task is found exactly when a record with its id is on the disk. -/
theorem stored_ne_none_iff (disk : Disk) (taskId : String) :
    stored disk taskId ≠ none ↔ ∃ record, OnDisk disk record ∧ hasId taskId record = true := by
  constructor
  · intro found
    obtain ⟨record, same⟩ := Option.ne_none_iff_exists'.mp found
    refine ⟨record, ?_⟩
    rw [stored, archivedFirst, Option.or_eq_some_iff, Option.or_eq_some_iff] at same
    rcases same with active | ⟨_, indexed | ⟨_, scanned⟩⟩
    · exact ⟨.inl (List.mem_of_find?_eq_some active), List.find?_some active⟩
    · obtain ⟨date, _, inside⟩ := Option.bind_eq_some_iff.mp indexed
      exact ⟨.inr ⟨date, List.mem_of_find?_eq_some inside⟩, List.find?_some inside⟩
    · obtain ⟨date, _, inside⟩ := List.exists_of_findSome?_eq_some scanned
      exact ⟨.inr ⟨date, List.mem_of_find?_eq_some inside⟩, List.find?_some inside⟩
  · rintro ⟨record, active | ⟨date, archived⟩, identified⟩ missing
    · rw [stored, Option.or_eq_none_iff] at missing
      exact absurd identified (List.find?_eq_none.mp missing.1 record active)
    · rw [stored, archivedFirst, Option.or_eq_none_iff, Option.or_eq_none_iff] at missing
      have here := List.findSome?_eq_none_iff.mp missing.2.2 date (mem_archiveDays archived)
      exact absurd identified (List.find?_eq_none.mp here record archived)

def OnBoard (taskId : String) (disk : Disk) : Prop :=
  ∃ record ∈ disk.active, hasId taskId record = true

/-- The board or the terminal index knows the id. -/
def Known (disk : Disk) (taskId : String) : Prop :=
  OnBoard taskId disk ∨ disk.terminalIndex.contains taskId = true

theorem onBoard_iff_find? (taskId : String) (disk : Disk) :
    OnBoard taskId disk ↔ (disk.active.find? (hasId taskId)).isSome = true := by
  rw [List.find?_isSome]
  exact Iff.rfl

/-- Off the board, only the index entry of the task and the archives count. -/
theorem stored_congr {first second : Disk} {taskId : String}
    (active : first.active.find? (hasId taskId) = second.active.find? (hasId taskId))
    (index : OnBoard taskId first ∨
      first.terminalIndex.get? taskId = second.terminalIndex.get? taskId)
    (archives : first.archives = second.archives) :
    stored first taskId = stored second taskId := by
  rw [stored, stored, ← active]
  rcases index with onBoard | sameIndex
  · obtain ⟨record, found⟩ := Option.isSome_iff_exists.mp ((onBoard_iff_find? _ _).mp onBoard)
    rw [found, Option.some_or, Option.some_or]
  · rw [archivedFirst, archivedFirst, sameIndex, archiveDays, archiveDays, archives]
    simp only [archiveFile, archives]

/-- A crash after the first `stop` writes of an operation. -/
def crashed (disk : Disk) (operation : Operation) (stop : Nat) : Disk :=
  disk.perform ((writes disk operation).take stop)

/-- After a crash the task is found with its old record or with the one that the
completed operation leaves, and its id is still known. -/
structure Kept (disk during after : Disk) (taskId : String) : Prop where
  record : ∀ record, stored disk taskId = some record → ∃ found, stored during taskId = some found ∧
    (found = record ∨ stored after taskId = some found)
  known : Known disk taskId → Known during taskId

theorem Kept.refl (disk after : Disk) (taskId : String) : Kept disk disk after taskId :=
  ⟨fun record found => ⟨record, found, .inl rfl⟩, id⟩

/-- A state in which the task is stored as after the operation, if it is stored
before, keeps the task. -/
theorem kept_of_stored_eq {disk during after : Disk} {taskId : String}
    (same : stored during taskId = stored after taskId)
    (grown : ∀ record, OnDisk disk record → hasId taskId record = true →
      ∃ other, OnDisk during other ∧ hasId taskId other = true)
    (known : Known disk taskId → Known during taskId) : Kept disk during after taskId := by
  refine ⟨fun record found => ?_, known⟩
  have present : stored disk taskId ≠ none := by simp [found]
  obtain ⟨other, inside, identified⟩ := (stored_ne_none_iff disk taskId).mp present
  have reached := (stored_ne_none_iff during taskId).mpr (grown other inside identified)
  obtain ⟨later, now⟩ := Option.ne_none_iff_exists'.mp reached
  exact ⟨later, now, .inr (same ▸ now)⟩

section Retiring

variable {disk : Disk} {before after : List Record} {record changed : Record}
  {taskId date : String}

theorem onDisk_archive (date : String) (changed : Record) {other : Record}
    (inside : OnDisk disk other) : OnDisk (disk.write (.archive date changed)) other := by
  rcases inside with active | ⟨day, archived⟩
  · exact .inl active
  · refine .inr ⟨day, ?_⟩
    rw [archiveFile, Disk.write, Dict.get?_insert]
    split
    case isTrue same =>
      subst same
      exact List.mem_append_left _ archived
    case isFalse => exact archived

/-- Retiring a task finds every other task as the archive write leaves it. -/
theorem stored_retire {other : String} (different : other ≠ taskId)
    (missing : disk.active.find? (hasId other) = none)
    (located : disk.active = before ++ record :: after) :
    stored (disk.write (.archive date changed)) other =
      stored (retire disk taskId date changed (before ++ after)) other := by
  refine stored_congr ?_ (.inr ?_) rfl
  · have absent : ∀ item ∈ disk.active, hasId other item = false := fun item member =>
      Bool.not_eq_true _ ▸ List.find?_eq_none.mp missing item member
    rw [located] at absent
    have rest : (before ++ after).find? (hasId other) = none :=
      List.find?_eq_none.mpr fun item member => by
        rw [absent item ?_]
        · exact Bool.false_ne_true
        · rw [List.mem_append] at member
          rw [List.mem_append, List.mem_cons]
          exact member.imp id .inr
    exact missing.trans rest.symm
  · exact (Dict.get?_insert_ne _ _ different).symm

theorem stored_of_onBoard {during : Disk} {other : String} {found : Record}
    (active : disk.active.find? (hasId other) = some found) (same : during.active = disk.active) :
    stored during other = stored disk other := by
  rw [stored, stored, same, active, Option.some_or, Option.some_or]

/-- While a record is being retired it is still on the board. -/
theorem kept_retire (located : disk.active = before ++ record :: after)
    (identified : hasId taskId record = true) (index : Dict String String)
    (indexed : index = disk.terminalIndex ∨ index = disk.terminalIndex.insert taskId date)
    (other : String) :
    Kept disk ((disk.write (.archive date changed)).write (.terminalIndex index))
      (retire disk taskId date changed (before ++ after)) other := by
  have known : Known disk other →
      Known ((disk.write (.archive date changed)).write (.terminalIndex index)) other := by
    rintro (board | entry)
    · exact .inl board
    · right
      change index.contains other = true
      rcases indexed with rfl | rfl
      · exact entry
      · rw [Dict.contains, Dict.get?_insert]
        split
        · rfl
        · exact entry
  cases active : disk.active.find? (hasId other) with
  | some found =>
      have same : stored ((disk.write (.archive date changed)).write (.terminalIndex index)) other =
          stored disk other := stored_of_onBoard active rfl
      exact ⟨fun current stands => ⟨current, same.trans stands, .inl rfl⟩, known⟩
  | none =>
      have different : other ≠ taskId := by
        rintro rfl
        have absent := List.find?_eq_none.mp active record
          (located ▸ List.mem_append_right _ List.mem_cons_self)
        exact absent identified
      refine kept_of_stored_eq ?_ ?_ known
      · rw [← stored_retire different active located]
        refine stored_congr rfl (.inr ?_) rfl
        change index.get? other = disk.terminalIndex.get? other
        rcases indexed with rfl | rfl
        · rfl
        · exact Dict.get?_insert_ne _ _ different
      · intro item inside hit
        exact ⟨item, onDisk_archive date changed inside, hit⟩

end Retiring

/-- Reopening publishes the record before it clears the index. -/
theorem kept_reopen {disk : Disk} {task : Task} (other : String)
    (nonTerminal : task.status ∉ terminalStates) {active : List Record} {index : List FileWrite}
    (writes : reopenWrites task disk = .board active :: index) :
    Kept disk (disk.write (.board active)) (reopen task disk).2 other := by
  rw [reopenWrites, if_neg nonTerminal] at writes
  have shape := (FileWrite.board.inj (List.cons.inj writes).1).symm
  have after : (reopen task disk).2 = { disk with
      active := active, terminalIndex := disk.terminalIndex.erase task.id } := by
    rw [reopen, if_neg nonTerminal]
    subst shape
    rfl
  have own : hasId task.id (asdict task) = true := (hasId_iff _ _).mpr (asdict_id task)
  have published : asdict task ∈ active := by
    rw [shape]
    cases locate (hasId task.id) disk.active with
    | none => exact List.mem_append_right _ (List.mem_singleton_self _)
    | some split => exact List.mem_append_right _ List.mem_cons_self
  have grown : ∀ record ∈ disk.active, ∃ later ∈ active,
      ∀ id, hasId id record = true → hasId id later = true := by
    intro record member
    rw [shape]
    cases found : locate (hasId task.id) disk.active with
    | none => exact ⟨record, List.mem_append_left _ member, fun _ => id⟩
    | some split =>
        obtain ⟨before, replaced, rest⟩ := split
        obtain ⟨located, _⟩ := locate_some found
        rw [located, List.mem_append, List.mem_cons] at member
        rcases member with left | rfl | right
        · exact ⟨record, List.mem_append_left _ left, fun _ => id⟩
        · refine ⟨asdict task, List.mem_append_right _ List.mem_cons_self, fun id same => ?_⟩
          have identified := (locate_before found).2
          rw [hasId_iff] at identified same ⊢
          rw [asdict_id, ← identified, same]
        · exact ⟨record, List.mem_append_right _ (List.mem_cons_of_mem _ right), fun _ => id⟩
  refine kept_of_stored_eq ?_ ?_ ?_
  · rw [after]
    refine stored_congr rfl ?_ rfl
    by_cases same : other = task.id
    · exact .inl ⟨asdict task, published, same ▸ own⟩
    · right
      change disk.terminalIndex.get? other = (disk.terminalIndex.erase task.id).get? other
      rw [Dict.get?_erase, if_neg same]
  · rintro record (inside | archived) hit
    · obtain ⟨later, present, keeps⟩ := grown record inside
      exact ⟨later, .inl present, keeps other hit⟩
    · exact ⟨record, .inr archived, hit⟩
  · rintro (⟨record, member, hit⟩ | entry)
    · obtain ⟨later, present, keeps⟩ := grown record member
      exact .inl ⟨later, present, keeps other hit⟩
    · exact .inr entry

/-- The same for a contract update that takes a task back from the archive. -/
theorem kept_reopenArchived {disk : Disk} (taskId other : String) (changed : Record) :
    Kept disk (disk.write (.board (disk.active ++ [changed])))
      { disk with
        active := disk.active ++ [changed]
        terminalIndex := disk.terminalIndex.erase taskId } other := by
  have known : Known disk other → Known (disk.write (.board (disk.active ++ [changed]))) other := by
    rintro (⟨record, member, hit⟩ | entry)
    · exact .inl ⟨record, List.mem_append_left _ member, hit⟩
    · exact .inr entry
  by_cases published : OnBoard other (disk.write (.board (disk.active ++ [changed])))
  · refine kept_of_stored_eq (stored_congr rfl (.inl published) rfl) ?_ known
    rintro record (inside | archived) hit
    · exact ⟨record, .inl (List.mem_append_left _ inside), hit⟩
    · exact ⟨record, .inr archived, hit⟩
  · have absent : (disk.active ++ [changed]).find? (hasId other) = none :=
      List.find?_eq_none.mpr fun record member hit => published ⟨record, member, hit⟩
    have before : disk.active.find? (hasId other) = none := by
      rw [List.find?_append, Option.or_eq_none_iff] at absent
      exact absent.1
    refine ⟨fun record found => ⟨record, ?_, .inl rfl⟩, known⟩
    rw [← found]
    exact stored_congr (absent.trans before.symm) (.inr rfl) rfl

/-- Between two writes of any operation every task is kept, in every state of
the files, also in one that an earlier crash has left. -/
theorem crash_keeps_tasks (disk : Disk) (operation : Operation) {stop : Nat}
    (between : stop < (writes disk operation).length) (taskId : String) :
    Kept disk (crashed disk operation stop) (step disk operation) taskId := by
  rw [← perform_writes]
  unfold crashed
  have effect := effect_writes disk operation
  generalize writes disk operation = written at effect between
  cases effect with
  | stay => exact absurd between (Nat.not_lt_zero stop)
  | rewrite located earlier selected changes =>
      rw [Nat.lt_one_iff.mp between]
      exact .refl _ _ _
  | create creates =>
      rw [Nat.lt_one_iff.mp between]
      exact .refl _ _ _
  | @retire before after record changed task date retires located earlier selected changes _ =>
      have identified : hasId task record = true := by
        cases operation with
        | update clock id kwargs => cases retires; exact selected
        | compareAndUpdateFields clock id expected updates => cases retires; exact selected
        | _ => cases retires
      change stop < 3 at between
      obtain rfl | rfl | rfl : stop = 0 ∨ stop = 1 ∨ stop = 2 := by omega
      · exact .refl _ _ _
      · exact kept_retire located identified disk.terminalIndex (.inl rfl) taskId
      · exact kept_retire located identified _ (.inr rfl) taskId
  | @reopen task reopens nonTerminal =>
      rw [perform_reopenWrites]
      cases stop with
      | zero => exact .refl _ _ _
      | succ stop =>
          obtain ⟨active, index, shape, short⟩ : ∃ active index,
              reopenWrites task disk = .board active :: index ∧ index.length ≤ 1 := by
            rw [reopenWrites, if_neg nonTerminal]
            refine ⟨_, _, rfl, ?_⟩
            split <;> simp
          rw [shape, List.length_cons] at between
          have first : stop = 0 := by omega
          rw [first, shape]
          exact kept_reopen taskId nonTerminal shape
  | @reopenArchived clock request record updates absent archived _ changes =>
      change stop < 2 at between
      obtain rfl | rfl : stop = 0 ∨ stop = 1 := by omega
      · exact .refl _ _ _
      · exact kept_reopenArchived request.taskId taskId _

/-- Between two writes of any operation `get` returns every task that it returned
before, from its old record or as after the completed operation, and every known
id is still known. -/
theorem tasks_survive_crash (disk : Disk) (operation : Operation) {stop : Nat}
    (between : stop < (writes disk operation).length) (taskId : String) :
    (∀ clock task, get clock taskId disk = .ok (some task) →
      get clock taskId (crashed disk operation stop) = .ok (some task) ∨
        (get clock taskId (crashed disk operation stop) =
            get clock taskId (step disk operation) ∧
          get clock taskId (crashed disk operation stop) ≠ .ok none)) ∧
      (Known disk taskId → Known (crashed disk operation stop) taskId) := by
  have kept := crash_keeps_tasks disk operation between taskId
  refine ⟨fun clock task returned => ?_, kept.known⟩
  cases current : stored disk taskId with
  | none =>
      rw [get_eq, current] at returned
      cases returned
  | some record =>
      obtain ⟨found, now, same | later⟩ := kept.record record current
      · left
        rw [← returned, get_eq, get_eq, now, current, same]
      · right
        rw [get_eq, get_eq, now, later]
        refine ⟨rfl, ?_⟩
        cases rebuilt : toTask clock found with
        | error error => simp [taskOf, rebuilt, Except.map]
        | ok value => simp [taskOf, rebuilt, Except.map]

/-- The task is on the board and not in the index, or it is archived, indexed and
off the board. -/
def Healed (taskId : String) (disk : Disk) : Prop :=
  (OnBoard taskId disk ∧ disk.terminalIndex.get? taskId = none) ∨
    ((∃ date, ∃ record ∈ archiveFile disk date, hasId taskId record = true) ∧
      (disk.terminalIndex.get? taskId).isSome = true ∧ ¬OnBoard taskId disk)

/-- The updates leave the id of the task as it is. -/
def KeepsId (taskId : String) (updates : Record) : Prop :=
  ∀ id ∈ updates.get? "id", id = .str taskId

theorem update_id {taskId : String} {record updates : Record} (keepsId : KeepsId taskId updates)
    (identified : hasId taskId record = true) :
    Record.get (record.update updates) "id" = record.get "id" := by
  rw [get_update]
  cases given : updates.get? "id" with
  | none => rfl
  | some id => exact (keepsId id given).trans ((hasId_iff _ _).mp identified).symm

/-- An update of the task: a free one, or one with the expected authority revision. -/
inductive TaskUpdate where
  | free (kwargs : Record)
  | fields (expectedAuthorityRevision : String) (updates : Record)

def TaskUpdate.updates : TaskUpdate → Record
  | free kwargs => kwargs
  | fields _ updates => updates

def TaskUpdate.operation (clock : Clock) (taskId : String) : TaskUpdate → Operation
  | free kwargs => .update clock taskId kwargs
  | fields expected updates => .compareAndUpdateFields clock taskId expected updates

/-- The call returns the updated task. -/
def TaskUpdate.Succeeds (clock : Clock) (taskId : String) (disk : Disk) : TaskUpdate → Prop
  | free kwargs => ∃ task, (update clock taskId kwargs disk).1 = .ok (some task)
  | fields expected updates =>
      ∃ task, (compareAndUpdateFields clock taskId expected updates disk).1 = .ok (some task, true)

/-- The updated record has a terminal status, as each of the two calls decides it. -/
def TaskUpdate.Finishes (record : Record) : TaskUpdate → Prop
  | free kwargs => TerminalStatus (Record.get (record.update kwargs) "status")
  | fields _ updates => statusText (record.update updates) ∈ terminalStates

/-- What a successful update makes of the files. -/
theorem update_succeeded {clock : Clock} {taskId : String} {disk : Disk} {change : TaskUpdate}
    (succeeds : change.Succeeds clock taskId disk) :
    ∃ before record after, disk.active = before ++ record :: after ∧
      (∀ other ∈ before, hasId taskId other = false) ∧ hasId taskId record = true ∧
      ((change.Finishes record ∧ step disk (change.operation clock taskId) =
          retire disk taskId clock.today (record.update change.updates) (before ++ after)) ∨
        (¬change.Finishes record ∧ step disk (change.operation clock taskId) =
          { disk with active := before ++ Dict.update record change.updates :: after })) := by
  cases change with
  | free kwargs =>
      obtain ⟨task, returned⟩ := succeeds
      change ∃ before record after, _ ∧ _ ∧ _ ∧
        ((_ ∧ (update clock taskId kwargs disk).2 = _) ∨ (_ ∧ (update clock taskId kwargs disk).2 = _))
      unfold update at returned ⊢
      cases found : locate (fun record => !record.contains "id" || hasId taskId record)
          disk.active with
      | none =>
          rw [found] at returned
          cases returned
      | some split =>
          obtain ⟨before, record, after⟩ := split
          obtain ⟨earlier, hit⟩ := locate_before found
          simp only [found] at returned ⊢
          by_cases named : (!record.contains "id") = true
          · rw [if_pos named] at returned
            cases returned
          by_cases stamped : attemptedFields kwargs ≠ [] ∧ authorityRevision record ≠ ""
          · rw [if_neg named, if_pos stamped] at returned
            cases returned
          rw [if_neg named, if_neg stamped] at returned ⊢
          have selected : hasId taskId record = true := by
            rw [Bool.or_eq_true] at hit
            exact hit.resolve_left named
          refine ⟨before, record, after, (locate_some found).1, fun other member =>
            (Bool.or_eq_false_iff.mp (earlier other member)).2, selected, ?_⟩
          cases decided : inTerminalStates (Record.get (record.update kwargs) "status") with
          | error error =>
              rw [decided] at returned
              cases returned
          | ok terminal =>
              obtain ⟨_, meaning⟩ := inTerminalStates_ok decided
              cases terminal with
              | true => exact .inl ⟨meaning.mp rfl, rfl⟩
              | false => exact .inr ⟨fun finished => Bool.false_ne_true (meaning.mpr finished), rfl⟩
  | fields expected updates =>
      obtain ⟨task, returned⟩ := succeeds
      change ∃ before record after, _ ∧ _ ∧ _ ∧
        ((_ ∧ (compareAndUpdateFields clock taskId expected updates disk).2 = _) ∨
          (_ ∧ (compareAndUpdateFields clock taskId expected updates disk).2 = _))
      unfold compareAndUpdateFields at returned ⊢
      by_cases invalid : attemptedFields updates ≠ []
      · rw [if_pos invalid] at returned
        cases returned
      rw [if_neg invalid] at returned ⊢
      cases found : locate (hasId taskId) disk.active with
      | none =>
          rw [found] at returned
          cases returned
      | some split =>
          obtain ⟨before, record, after⟩ := split
          obtain ⟨earlier, hit⟩ := locate_before found
          simp only [found] at returned ⊢
          by_cases stale : authorityRevision record ≠ expected
          · rw [if_pos stale] at returned
            cases rebuilt : toTask clock record with
            | error error =>
                rw [rebuilt] at returned
                cases returned
            | ok value =>
                rw [rebuilt] at returned
                cases returned
          rw [if_neg stale]
          refine ⟨before, record, after, (locate_some found).1, earlier, hit, ?_⟩
          by_cases terminal : statusText (record.update updates) ∈ terminalStates
          · exact .inl ⟨terminal, by rw [if_pos terminal]; rfl⟩
          · exact .inr ⟨terminal, by rw [if_neg terminal]; rfl⟩

theorem sole_split_iff {taskId : String} {disk : Disk} {before after : List Record}
    {record : Record} (located : disk.active = before ++ record :: after)
    (identified : hasId taskId record = true) :
    Sole taskId disk ↔ ¬∃ other ∈ before ++ after, hasId taskId other = true := by
  have count : (disk.active.filter (hasId taskId)).length =
      ((before ++ after).filter (hasId taskId)).length + 1 := by
    rw [located, List.filter_append, List.filter_cons_of_pos identified, List.filter_append,
      List.length_append, List.length_append, List.length_cons]
    rfl
  have none : ((before ++ after).filter (hasId taskId)).length + 1 ≤ 1 ↔
      (before ++ after).filter (hasId taskId) = [] := by
    rw [← List.length_eq_zero_iff]
    omega
  rw [Sole, count, none, List.filter_eq_nil_iff]
  simp

/-- After a successful update the task is healed when the update finishes the task
and the board has it once, or when it does not finish and the index has no entry. -/
theorem healed_update_iff {clock : Clock} {taskId : String} {disk : Disk} {change : TaskUpdate}
    (keepsId : KeepsId taskId change.updates) (succeeds : change.Succeeds clock taskId disk) :
    ∃ record, disk.active.find? (hasId taskId) = some record ∧
      (Healed taskId (step disk (change.operation clock taskId)) ↔
        (change.Finishes record ∧ Sole taskId disk) ∨
          (¬change.Finishes record ∧ disk.terminalIndex.get? taskId = none)) := by
  obtain ⟨before, record, after, located, earlier, identified, effect⟩ := update_succeeded succeeds
  have sameId : hasId taskId (Dict.update record change.updates) = true := by
    rw [hasId_iff, update_id keepsId identified]
    exact (hasId_iff _ _).mp identified
  refine ⟨record, located ▸ find?_append_cons earlier identified, ?_⟩
  rcases effect with ⟨finishes, reached⟩ | ⟨stays, reached⟩
  · rw [reached, sole_split_iff located identified]
    let retired := retire disk taskId clock.today (Dict.update record change.updates)
      (before ++ after)
    have indexed : retired.terminalIndex.get? taskId = some clock.today :=
      Dict.get?_insert_self _ _ _
    have archived : ∃ date, ∃ other ∈ archiveFile retired date, hasId taskId other = true := by
      refine ⟨clock.today, Dict.update record change.updates, ?_, sameId⟩
      rw [archiveFile_retire, if_pos rfl]
      exact List.mem_append_right _ (List.mem_singleton_self _)
    constructor
    · rintro (⟨_, unindexed⟩ | ⟨_, _, gone⟩)
      · exact absurd (indexed.symm.trans unindexed) (by simp)
      · exact .inl ⟨finishes, gone⟩
    · rintro (⟨_, gone⟩ | ⟨unfinished, _⟩)
      · exact .inr ⟨archived, by rw [indexed]; rfl, gone⟩
      · exact absurd finishes unfinished
  · rw [reached]
    have live : OnBoard taskId
        { disk with active := before ++ Dict.update record change.updates :: after } :=
      ⟨_, List.mem_append_right _ List.mem_cons_self, sameId⟩
    constructor
    · rintro (⟨_, unindexed⟩ | ⟨_, _, gone⟩)
      · exact .inr ⟨stays, unindexed⟩
      · exact absurd live gone
    · rintro (⟨finishes, _⟩ | ⟨_, unindexed⟩)
      · exact absurd finishes stays
      · exact .inl ⟨live, unindexed⟩

/-- The update archives, indexes and takes the task off the board, in three writes. -/
def Retires (disk : Disk) (operation : Operation) (taskId date : String) : Prop :=
  ∃ record rest, writes disk operation = retireWrites disk taskId date record rest

/-- A crash during a terminal transition is healed by the next successful update
when this update finishes the task, or does not and the crash came before the
terminal index was written. -/
theorem crash_duplicate_healed_iff {disk : Disk} {taskId date : String} {transition : Operation}
    (retires : Retires disk transition taskId date) {stop : Nat} (started : 0 < stop)
    (unfinished : stop < 3) {clock : Clock} {next : TaskUpdate}
    (keepsId : KeepsId taskId next.updates)
    (succeeds : next.Succeeds clock taskId (crashed disk transition stop)) :
    ∃ record, disk.active.find? (hasId taskId) = some record ∧
      (Healed taskId (step (crashed disk transition stop) (next.operation clock taskId)) ↔
        (next.Finishes record ∧ Sole taskId disk) ∨
          (¬next.Finishes record ∧ stop = 1 ∧ disk.terminalIndex.get? taskId = none)) := by
  obtain ⟨changed, rest, written⟩ := retires
  obtain ⟨record, found, healed⟩ := healed_update_iff keepsId succeeds
  have shape : stop = 1 ∨ stop = 2 := by omega
  unfold crashed at *
  rw [written] at *
  rcases shape with rfl | rfl
  · refine ⟨record, found, healed.trans ?_⟩
    change _ ∨ (_ ∧ disk.terminalIndex.get? taskId = none) ↔ _
    simp only [true_and]
    exact Iff.rfl
  · refine ⟨record, found, healed.trans ?_⟩
    have indexed : (disk.terminalIndex.insert taskId date).get? taskId = some date :=
      Dict.get?_insert_self _ _ _
    change _ ∨ (_ ∧ (disk.terminalIndex.insert taskId date).get? taskId = none) ↔ _
    rw [indexed]
    simp only [reduceCtorEq, and_false, or_false, OfNat.ofNat_ne_one, false_and]
    exact Iff.rfl

def firstTask : Task := { id := "T1", createdAt := "2026-07-09T08:00:00+00:00" }

def firstDisk : Disk := step Disk.empty (.add firstTask)

def statusUpdate (status : String) : Record := Dict.ofEntries [("status", .str status)]

def finishTask : Operation := .update sampleClock "T1" (statusUpdate "done")

def returned : Except StoreError (Option Record) → Bool
  | .ok (some _) => true
  | _ => false

theorem exists_of_returned {answer : Except StoreError (Option Record)}
    (isReturned : returned answer = true) : ∃ task, answer = .ok (some task) := by
  cases answer with
  | error error => cases isReturned
  | ok value =>
      cases value with
      | none => cases isReturned
      | some task => exact ⟨task, rfl⟩

theorem retires_finishTask : Retires firstDisk finishTask "T1" "2026-07-09" := by
  refine ⟨(asdict firstTask).update (statusUpdate "done"), [], ?_⟩
  rfl

theorem firstTask_survives :
    (∀ clock task, get clock "T1" firstDisk = .ok (some task) →
      get clock "T1" (crashed firstDisk finishTask 2) = .ok (some task) ∨
        (get clock "T1" (crashed firstDisk finishTask 2) =
            get clock "T1" (step firstDisk finishTask) ∧
          get clock "T1" (crashed firstDisk finishTask 2) ≠ .ok none)) ∧
      (Known firstDisk "T1" → Known (crashed firstDisk finishTask 2) "T1") := by
  have between : 2 < (writes firstDisk finishTask).length := by
    obtain ⟨record, rest, written⟩ := retires_finishTask
    rw [written]
    exact Nat.lt_succ_self 2
  exact tasks_survive_crash firstDisk finishTask between "T1"

theorem keepsId_statusUpdate (taskId status : String) : KeepsId taskId (statusUpdate status) := by
  intro id given
  have absent : (statusUpdate status).get? "id" = none := by
    rw [statusUpdate, Dict.get?_ofEntries (by simp)]
    simp [Dict.find]
  rw [absent] at given
  cases given

theorem statusUpdate_status (record : Record) (status : String) :
    Record.get (record.update (statusUpdate status)) "status" = .str status := by
  have given : (statusUpdate status).get? "status" = some (.str status) := by
    rw [statusUpdate, Dict.get?_ofEntries (by simp)]
    simp [Dict.find]
  rw [get_update, given]
  rfl

/-- Finishing the task once more heals what the crash has left. -/
theorem firstTask_finished_again :
    Healed "T1" (step (crashed firstDisk finishTask 2) finishTask) := by
  have succeeds : (TaskUpdate.free (statusUpdate "done")).Succeeds sampleClock "T1"
      (crashed firstDisk finishTask 2) := exists_of_returned (by decide +kernel)
  have keepsId : KeepsId "T1" (TaskUpdate.free (statusUpdate "done")).updates :=
    keepsId_statusUpdate "T1" "done"
  obtain ⟨record, _, healed⟩ := crash_duplicate_healed_iff retires_finishTask (by decide)
    (by decide : 2 < 3) keepsId succeeds
  refine healed.mpr (.inl ⟨?_, Nat.le_refl 1⟩)
  change TerminalStatus (Record.get (record.update (statusUpdate "done")) "status")
  rw [statusUpdate_status]
  decide

/-- A crash before the last write, and the task is taken up again: it is on the
board and the terminal index still has it. -/
theorem duplicate_stays_indexed :
    ¬∀ (operations : List Operation) (transition : Operation) (taskId date : String) (stop : Nat)
        (clock : Clock) (next : TaskUpdate),
      Retires (Runs.run step Disk.empty operations) transition taskId date → 0 < stop → stop < 3 →
      KeepsId taskId next.updates →
      next.Succeeds clock taskId (crashed (Runs.run step Disk.empty operations) transition stop) →
      Healed taskId (step (crashed (Runs.run step Disk.empty operations) transition stop)
        (next.operation clock taskId)) := by
  intro claimed
  have succeeds : (TaskUpdate.free (statusUpdate "in_progress")).Succeeds sampleClock "T1"
      (crashed firstDisk finishTask 2) := exists_of_returned (by decide +kernel)
  rcases claimed [.add firstTask] finishTask "T1" "2026-07-09" 2 sampleClock
    (.free (statusUpdate "in_progress")) retires_finishTask (by decide) (by decide)
    (keepsId_statusUpdate "T1" "in_progress") succeeds with ⟨_, unindexed⟩ | ⟨_, _, gone⟩
  · have indexed : ((step (crashed firstDisk finishTask 2) (.update sampleClock "T1"
        (statusUpdate "in_progress"))).terminalIndex.get? "T1").isSome = true := by
      decide +kernel
    change (step (crashed firstDisk finishTask 2) (.update sampleClock "T1"
      (statusUpdate "in_progress"))).terminalIndex.get? "T1" = none at unindexed
    rw [unindexed] at indexed
    cases indexed
  · apply gone
    rw [onBoard_iff_find?]
    decide +kernel

end ZaofuFormal.Tasks
