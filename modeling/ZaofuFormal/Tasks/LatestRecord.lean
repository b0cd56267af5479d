import ZaofuFormal.Tasks.Crash

/-!
# The latest record of a task

The store keeps every archived version of a task, and `get` returns the first
one of the indexed day.  This is the version that was written last as long as no
task finishes twice on a day and no two tasks are given one id.
-/

namespace ZaofuFormal.Tasks

open Foundation

/-- The records that an operation writes, new records as they were appended. -/
def written (disk : Disk) (operation : Operation) : List Record :=
  if (writes disk operation).isEmpty then []
  else
    match operation with
    | .add _ => (step disk operation).active.drop disk.active.length
    | .addMany _ => (step disk operation).active.drop disk.active.length
    | .reopen task => [asdict task]
    | .update _ taskId kwargs =>
        ((disk.active.find? (hasId taskId)).map fun record => Dict.update record kwargs).toList
    | .compareAndUpdateContract _ request =>
        ((currentRecord disk request.taskId).map (applyContract request)).toList
    | .compareAndUpdateFields _ taskId _ updates =>
        ((disk.active.find? (hasId taskId)).map fun record => Dict.update record updates).toList
    | .patchContractFields _ taskId updates =>
        ((disk.active.find? (hasId taskId)).bind fun record =>
          (patchContract record updates).toOption).toList
    | .ensure _ key title kwargs =>
        match disk.active.find? (hasKey key) with
        | some record => [Dict.update (record.insert "title" (.str title)) kwargs]
        | none => (step disk operation).active.drop disk.active.length

/-- The files, and for each id the record that was written to it last. -/
structure History where
  disk : Disk
  latest : String → Option Record

def History.empty : History := ⟨Disk.empty, fun _ => none⟩

def History.step (history : History) (operation : Operation) : History where
  disk := Tasks.step history.disk operation
  latest taskId := ((written history.disk operation).find? (hasId taskId)).or (history.latest taskId)

variable {operation : Operation} {record : Record}

theorem written_of_changes {disk : Disk} {changed : Record}
    (found : disk.active.find? operation.selects = some record)
    (changes : Changes operation record changed)
    (writing : (writes disk operation).isEmpty = false) : written disk operation = [changed] := by
  unfold written
  rw [writing, if_neg Bool.false_ne_true]
  cases changes with
  | update free =>
      change ((disk.active.find? (hasId _)).map _).toList = _
      rw [show disk.active.find? (hasId _) = some record from found]
      rfl
  | contract matched =>
      change ((currentRecord disk _).map _).toList = _
      rw [currentRecord, show disk.active.find? (hasId _) = some record from found]
      rfl
  | fields unprotected current =>
      change ((disk.active.find? (hasId _)).map _).toList = _
      rw [show disk.active.find? (hasId _) = some record from found]
      rfl
  | patch known patched =>
      change ((disk.active.find? (hasId _)).bind _).toList = _
      rw [show disk.active.find? (hasId _) = some record from found, Option.bind_some, patched]
      rfl
  | ensure =>
      simp only [show disk.active.find? (hasKey _) = some record from found]

theorem written_of_creates {disk : Disk} {records : List Record}
    (creates : Creates disk operation records)
    (writing : writes disk operation = [.board (disk.active ++ records)]) :
    written disk operation = records := by
  have appended : (step disk operation).active.drop disk.active.length = records := by
    rw [← perform_writes, writing]
    exact List.drop_left
  unfold written
  rw [writing, if_neg (by simp)]
  cases creates with
  | add => exact appended
  | addMany part fresh distinct => exact appended
  | ensure absent made =>
      simp only [absent]
      exact appended

/-- Where `get` finds the record: on the board, or else first in the indexed day. -/
def Located (disk : Disk) (taskId : String) (record : Record) : Prop :=
  disk.active.find? (hasId taskId) = some record ∨
    (¬OnBoard taskId disk ∧ ∃ date, disk.terminalIndex.get? taskId = some date ∧
      (archiveFile disk date).find? (hasId taskId) = some record)

/-- Every task is found where its latest record is. -/
structure Tracks (disk : Disk) (latest : String → Option Record) : Prop where
  sole : ∀ taskId, Sole taskId disk
  located : ∀ taskId record, latest taskId = some record → Located disk taskId record
  absent : ∀ taskId, latest taskId = none →
    ∀ record, OnDisk disk record → hasId taskId record = false

theorem Located.stored_eq {disk : Disk} {taskId : String}
    (located : Located disk taskId record) : stored disk taskId = some record := by
  rcases located with active | ⟨offBoard, date, indexed, archived⟩
  · rw [stored, active, Option.some_or]
  · have missing : disk.active.find? (hasId taskId) = none :=
      List.find?_eq_none.mpr fun other member hit => offBoard ⟨other, member, hit⟩
    rw [stored, missing, Option.none_or, archivedFirst, indexed, Option.bind_some, archived,
      Option.some_or]

theorem Tracks.stored_eq {disk : Disk} {latest : String → Option Record}
    (tracks : Tracks disk latest) (taskId : String) : stored disk taskId = latest taskId := by
  cases last : latest taskId with
  | some record => exact (tracks.located taskId record last).stored_eq
  | none =>
      by_contra present
      obtain ⟨record, inside, hit⟩ := (stored_ne_none_iff disk taskId).mp present
      rw [tracks.absent taskId last record inside] at hit
      cases hit

theorem tracks_empty : Tracks Disk.empty fun _ => none where
  sole := fun _ => Nat.zero_le 1
  located := fun _ _ impossible => by cases impossible
  absent := by
    rintro taskId _ record (active | ⟨date, archived⟩)
    · exact absurd active List.not_mem_nil
    · exact absurd archived List.not_mem_nil

section Moves

variable {disk : Disk} {latest : String → Option Record}

/-- The latest records once these have been written. -/
def noted (records : List Record) (latest : String → Option Record) (taskId : String) :
    Option Record := (records.find? (hasId taskId)).or (latest taskId)

variable {record : Record} {taskId : String} {after before : List Record}

theorem noted_singleton_self (identified : hasId taskId record = true) :
    noted [record] latest taskId = some record := by
  rw [noted, List.find?_cons_of_pos identified, Option.some_or]

theorem noted_singleton_other
    (other : hasId taskId record = false) : noted [record] latest taskId = latest taskId := by
  rw [noted, List.find?_cons_of_neg (by simp [other]), List.find?_nil, Option.none_or]

/-- An id that the two records of a split list do not have is found as before. -/
theorem find?_split {test : Record → Bool} {changed : Record}
    (old : test record = false) (new : test changed = false) :
    (before ++ changed :: after).find? test = (before ++ record :: after).find? test := by
  rw [List.find?_append, List.find?_append, List.find?_cons_of_neg (by simp [new]),
    List.find?_cons_of_neg (by simp [old])]

theorem find?_remove {test : Record → Bool} (old : test record = false) :
    (before ++ after).find? test = (before ++ record :: after).find? test := by
  rw [List.find?_append, List.find?_append, List.find?_cons_of_neg (by simp [old])]

/-- A change of the board that does not concern a task keeps where it is found. -/
theorem Located.board (located : Located disk taskId record) {active : List Record}
    (same : active.find? (hasId taskId) = disk.active.find? (hasId taskId)) :
    Located { disk with active := active } taskId record := by
  rcases located with found | ⟨offBoard, date, indexed, archived⟩
  · exact .inl (same.trans found)
  · refine .inr ⟨fun onBoard => offBoard ?_, date, indexed, archived⟩
    rw [onBoard_iff_find?] at onBoard ⊢
    exact same ▸ onBoard

/-- No id is twice on the board. -/
theorem sole_rewrite (sole : ∀ taskId, Sole taskId disk)
    {changed : Record} (located : disk.active = before ++ record :: after)
    (sameId : changed.get "id" = record.get "id") (taskId : String) :
    Sole taskId { disk with active := before ++ changed :: after } := by
  have sameTest : hasId taskId changed = hasId taskId record := by rw [hasId, hasId, sameId]
  have count := sole taskId
  rw [Sole, located] at count
  change ((before ++ changed :: after).filter (hasId taskId)).length ≤ 1
  rw [List.filter_append, List.length_append] at count ⊢
  cases hit : hasId taskId record with
  | true =>
      rw [List.filter_cons_of_pos hit] at count
      rw [List.filter_cons_of_pos (sameTest ▸ hit)]
      exact count
  | false =>
      rw [List.filter_cons_of_neg (by simp [hit])] at count
      rw [List.filter_cons_of_neg (by simp [sameTest, hit])]
      exact count

theorem sole_remove (sole : ∀ taskId, Sole taskId disk)
    (located : disk.active = before ++ record :: after) (taskId : String) :
    ((before ++ after).filter (hasId taskId)).length ≤ 1 := by
  have count := sole taskId
  rw [Sole, located, List.filter_append, List.length_append] at count
  rw [List.filter_append, List.length_append]
  have shorter := ((List.sublist_cons_self record after).filter (hasId taskId)).length_le
  omega

/-- New records have ids that are not on the board, each its own. -/
def FreshIds (disk : Disk) (records : List Record) : Prop :=
  ∀ taskId, (records.filter (hasId taskId)).length ≤ 1 ∧
    (OnBoard taskId disk → records.filter (hasId taskId) = [])

theorem sole_create (sole : ∀ taskId, Sole taskId disk) {records : List Record}
    (fresh : FreshIds disk records) (taskId : String) :
    Sole taskId { disk with active := disk.active ++ records } := by
  change ((disk.active ++ records).filter (hasId taskId)).length ≤ 1
  rw [List.filter_append, List.length_append]
  by_cases onBoard : OnBoard taskId disk
  · rw [(fresh taskId).2 onBoard]
    exact sole taskId
  · have none : disk.active.filter (hasId taskId) = [] :=
      List.filter_eq_nil_iff.mpr fun record member hit => onBoard ⟨record, member, hit⟩
    rw [none, List.length_nil, Nat.zero_add]
    exact (fresh taskId).1

theorem Tracks.rewrite (tracks : Tracks disk latest)
    {changed : Record} (located : disk.active = before ++ record :: after)
    (sameId : changed.get "id" = record.get "id") :
    Tracks { disk with active := before ++ changed :: after } (noted [changed] latest) := by
  have sameTest : ∀ taskId, hasId taskId changed = hasId taskId record := fun taskId => by
    rw [hasId, hasId, sameId]
  refine ⟨sole_rewrite tracks.sole located sameId, fun taskId found last => ?_,
    fun taskId last other inside => ?_⟩
  · cases hit : hasId taskId changed with
    | true =>
        rw [noted_singleton_self hit] at last
        obtain rfl := Option.some.inj last
        left
        have alone := (sole_split_iff located (sameTest taskId ▸ hit)).mp (tracks.sole taskId)
        exact find?_append_cons (fun other member => Bool.not_eq_true _ ▸ fun other_hit =>
          alone ⟨other, List.mem_append_left _ member, other_hit⟩) hit
    | false =>
        rw [noted_singleton_other hit] at last
        refine (tracks.located taskId found last).board ?_
        rw [located]
        exact find?_split (sameTest taskId ▸ hit) hit
  · cases hit : hasId taskId changed with
    | true =>
        rw [noted_singleton_self hit] at last
        cases last
    | false =>
        rw [noted_singleton_other hit] at last
        rcases inside with active | archived
        · rcases List.mem_append.mp active with left | right
          · exact tracks.absent taskId last other (.inl (located ▸ List.mem_append_left _ left))
          · rcases List.mem_cons.mp right with rfl | later
            · exact hit
            · exact tracks.absent taskId last other
                (.inl (located ▸ List.mem_append_right _ (List.mem_cons_of_mem _ later)))
        · exact tracks.absent taskId last other (.inr archived)

theorem Tracks.create (tracks : Tracks disk latest) {records : List Record}
    (fresh : FreshIds disk records) :
    Tracks { disk with active := disk.active ++ records } (noted records latest) := by
  refine ⟨sole_create tracks.sole fresh, fun taskId found last => ?_,
    fun taskId last other inside => ?_⟩
  · cases new : records.find? (hasId taskId) with
    | some record =>
        rw [noted, new, Option.some_or] at last
        obtain rfl := Option.some.inj last
        left
        have offBoard : disk.active.find? (hasId taskId) = none := by
          rw [List.find?_eq_none]
          intro other member hit
          have empty := (fresh taskId).2 ⟨other, member, hit⟩
          have listed := List.mem_filter.mpr
            ⟨List.mem_of_find?_eq_some new, List.find?_some new⟩
          rw [empty] at listed
          exact List.not_mem_nil listed
        change (disk.active ++ records).find? (hasId taskId) = _
        rw [List.find?_append, offBoard, Option.none_or, new]
    | none =>
        rw [noted, new, Option.none_or] at last
        refine (tracks.located taskId found last).board ?_
        rw [List.find?_append, new, Option.or_none]
  · rw [noted, Option.or_eq_none_iff] at last
    rcases inside with active | archived
    · rcases List.mem_append.mp active with old | added
      · exact tracks.absent taskId last.2 other (.inl old)
      · exact Bool.not_eq_true _ ▸ List.find?_eq_none.mp last.1 other added
    · exact tracks.absent taskId last.2 other (.inr archived)

/-- The index entry of a task on the board is not read. -/
theorem Tracks.forget (tracks : Tracks disk latest) (onBoard : OnBoard taskId disk) :
    Tracks { disk with terminalIndex := disk.terminalIndex.erase taskId } latest := by
  refine ⟨tracks.sole, fun other record last => ?_, fun other last record inside =>
    tracks.absent other last record (inside.imp id id)⟩
  rcases tracks.located other record last with found | ⟨offBoard, date, indexed, archived⟩
  · exact .inl found
  · have different : other ≠ taskId := fun same => offBoard (same ▸ onBoard)
    refine .inr ⟨offBoard, date, ?_, archived⟩
    change (disk.terminalIndex.erase taskId).get? other = some date
    rw [Dict.get?_erase, if_neg different]
    exact indexed

/-- The archive of the day does not hold the task yet. -/
def NotArchived (disk : Disk) (date taskId : String) : Prop :=
  ∀ record ∈ archiveFile disk date, hasId taskId record = false

theorem Tracks.retire (tracks : Tracks disk latest) {before after : List Record}
    {record changed : Record} (located : disk.active = before ++ record :: after)
    {taskId date : String} (identified : hasId taskId record = true)
    (keepsId : hasId taskId changed = true) (fresh : NotArchived disk date taskId) :
    Tracks (Tasks.retire disk taskId date changed (before ++ after)) (noted [changed] latest) := by
  have gone := (sole_split_iff located identified).mp (tracks.sole taskId)
  have others : ∀ other, other ≠ taskId → hasId other record = false ∧
      hasId other changed = false := by
    intro other different
    rw [hasId_iff] at identified keepsId
    simp [hasId, identified, keepsId, Ne.symm different]
  refine ⟨sole_remove tracks.sole located, fun other found last => ?_,
    fun other last item inside => ?_⟩
  · by_cases same : other = taskId
    · subst same
      rw [noted_singleton_self keepsId] at last
      obtain rfl := Option.some.inj last
      refine .inr ⟨gone, date, Dict.get?_insert_self _ _ _, ?_⟩
      rw [archiveFile_retire, if_pos rfl, List.find?_append, List.find?_cons_of_pos keepsId]
      have none : (archiveFile disk date).find? (hasId other) = none :=
        List.find?_eq_none.mpr fun item member => by simp [fresh item member]
      rw [none, Option.none_or]
    · obtain ⟨old, new⟩ := others other same
      rw [noted_singleton_other new] at last
      have kept := (tracks.located other found last).board
        ((find?_remove old).trans (congrArg (List.find? (hasId other)) located.symm))
      rcases kept with active | ⟨offBoard, day, indexed, archived⟩
      · exact .inl active
      · refine .inr ⟨offBoard, day, ?_, ?_⟩
        · exact (Dict.get?_insert_ne _ _ same).trans indexed
        · rw [archiveFile_retire]
          split
          case isTrue today =>
            subst today
            change (archiveFile disk day).find? (hasId other) = some found at archived
            rw [List.find?_append, archived, Option.some_or]
          case isFalse => exact archived
  · by_cases same : other = taskId
    · subst same
      rw [noted_singleton_self keepsId] at last
      cases last
    · obtain ⟨_, new⟩ := others other same
      rw [noted_singleton_other new] at last
      rcases inside with active | ⟨day, archived⟩
      · refine tracks.absent other last item (.inl ?_)
        rw [located, List.mem_append, List.mem_cons]
        exact (List.mem_append.mp active).imp id .inr
      · rw [archiveFile_retire] at archived
        split at archived
        case isTrue =>
          rcases List.mem_append.mp archived with old | added
          · exact tracks.absent other last item (.inr ⟨date, old⟩)
          · rw [List.mem_singleton.mp added]
            exact new
        case isFalse => exact tracks.absent other last item (.inr ⟨day, archived⟩)

end Moves

/-- The update is not one that finishes a task on a day that has archived it. -/
def FinishesOnce (disk : Disk) (clock : Clock) (taskId : String) (updates : Record) : Prop :=
  ∀ record ∈ disk.active.find? (hasId taskId),
    statusText (record.update updates) ∈ terminalStates → NotArchived disk clock.today taskId

/-- No task is given the id of a task on the board. -/
def Operation.Identified (disk : Disk) : Operation → Prop
  | .add task => ¬OnBoard task.id disk
  | .addMany _ => True
  | .reopen _ => True
  | .update _ taskId kwargs => KeepsId taskId kwargs
  | .compareAndUpdateContract _ request => KeepsId request.taskId request.taskUpdates
  | .compareAndUpdateFields _ taskId _ updates => KeepsId taskId updates
  | .patchContractFields _ _ _ => True
  | .ensure clock key _ kwargs =>
      match disk.active.find? (hasKey key) with
      | some record => ∀ id ∈ kwargs.get? "id", id = record.get "id"
      | none => ∀ taskId, (kwargs.get? "id").getD (.str clock.newTaskId) = .str taskId →
          ¬OnBoard taskId disk

/-- No task is given the id of a task on the board, and none finishes on a day
whose archive holds it already. -/
def Operation.Plain (disk : Disk) : Operation → Prop
  | .add task => ¬OnBoard task.id disk
  | .addMany _ => True
  | .reopen _ => True
  | .update clock taskId kwargs => KeepsId taskId kwargs ∧ FinishesOnce disk clock taskId kwargs
  | .compareAndUpdateContract _ request => KeepsId request.taskId request.taskUpdates
  | .compareAndUpdateFields clock taskId _ updates =>
      KeepsId taskId updates ∧ FinishesOnce disk clock taskId updates
  | .patchContractFields _ _ _ => True
  | .ensure clock key _ kwargs =>
      match disk.active.find? (hasKey key) with
      | some record => ∀ id ∈ kwargs.get? "id", id = record.get "id"
      | none => ∀ taskId, (kwargs.get? "id").getD (.str clock.newTaskId) = .str taskId →
          ¬OnBoard taskId disk

theorem Operation.Plain.identified {disk : Disk}
    (plain : operation.Plain disk) : operation.Identified disk := by
  cases operation with
  | update clock taskId kwargs => exact plain.1
  | compareAndUpdateFields clock taskId expected updates => exact plain.1
  | _ => exact plain

theorem changes_id {disk : Disk} {changed : Record}
    (identifies : operation.Identified disk)
    (found : disk.active.find? operation.selects = some record)
    (changes : Changes operation record changed) : changed.get "id" = record.get "id" := by
  have identified := List.find?_some found
  cases changes with
  | update free => exact update_id identifies identified
  | contract matched =>
      rw [applyContract_id]
      exact update_id identifies identified
  | fields unprotected current => exact update_id identifies identified
  | patch known patched => exact patchContract_get patched (by decide)
  | @ensure clock key title kwargs =>
      change disk.active.find? (hasKey key) = some record at found
      simp only [Operation.Identified, found] at identifies
      rw [get_update, get_insert_ne _ _ (by decide)]
      cases given : kwargs.get? "id" with
      | none => rfl
      | some id => exact identifies id given

theorem fresh_singleton {disk : Disk}
    (unused : ∀ taskId, hasId taskId record = true → ¬OnBoard taskId disk) :
    FreshIds disk [record] := by
  intro taskId
  refine ⟨List.length_filter_le _ _, fun onBoard => List.filter_eq_nil_iff.mpr ?_⟩
  intro other member hit
  rw [List.mem_singleton.mp member] at hit
  exact unused taskId hit onBoard

theorem fresh_created {disk : Disk} {records : List Record}
    (identifies : operation.Identified disk) (creates : Creates disk operation records) :
    FreshIds disk records := by
  cases creates with
  | @add task =>
      refine fresh_singleton fun taskId hit => ?_
      rw [hasId_iff, asdict_id] at hit
      exact Json.str.inj hit ▸ identifies
  | @addMany tasks news part fresh distinct =>
      intro taskId
      have test : ∀ task : Task, hasId taskId (asdict task) = decide (task.id = taskId) :=
        fun task => by
          rw [Bool.eq_iff_iff, hasId_iff, asdict_id, decide_eq_true_iff, Json.str.injEq]
      have filtered : (news.map asdict).filter (hasId taskId) =
          (news.filter fun task => decide (task.id = taskId)).map asdict := by
        rw [List.filter_map]
        exact congrArg _ (List.filter_congr fun task _ => test task)
      constructor
      · rw [filtered, List.length_map]
        refine Nat.le_trans ?_ (List.nodup_iff_count_le_one.mp distinct taskId)
        rw [List.count, List.countP_map, List.countP_eq_length_filter]
        exact Nat.le_of_eq (congrArg List.length (List.filter_congr fun task _ => rfl))
      · rintro ⟨record, member, hit⟩
        rw [filtered, List.map_eq_nil_iff, List.filter_eq_nil_iff]
        intro task listed same
        refine (fresh task listed).1 (List.mem_map.mpr ⟨record, member, ?_⟩)
        rw [(hasId_iff _ _).mp hit, Json.text_str]
        exact (of_decide_eq_true same).symm
  | @ensure clock key title kwargs created absent made =>
      refine fresh_singleton fun taskId hit => ?_
      simp only [Operation.Identified, absent] at identifies
      rw [hasId_iff, construct_get made (by decide) (by decide),
        get_ofEntries (taskDefaults_distinct clock), taskDefaults_id] at hit
      exact identifies taskId hit

theorem Tracks.reopen {disk : Disk} {latest : String → Option Record} (tracks : Tracks disk latest)
    {task : Task} (nonTerminal : task.status ∉ terminalStates) :
    Tracks (Tasks.reopen task disk).2 (noted [asdict task] latest) := by
  have own : hasId task.id (asdict task) = true := (hasId_iff _ _).mpr (asdict_id task)
  rw [Tasks.reopen, if_neg nonTerminal]
  cases found : locate (hasId task.id) disk.active with
  | some split =>
      obtain ⟨before, record, after⟩ := split
      obtain ⟨located, _⟩ := locate_some found
      have identified := (hasId_iff _ _).mp (locate_before found).2
      have sameId : (asdict task).get "id" = record.get "id" := by rw [asdict_id, identified]
      exact (tracks.rewrite located sameId).forget
        ⟨asdict task, List.mem_append_right _ List.mem_cons_self, own⟩
  | none =>
      have missing := List.find?_eq_none.mp (locate_none found)
      have fresh : FreshIds disk [asdict task] := fresh_singleton fun taskId hit => by
        rw [hasId_iff, asdict_id] at hit
        obtain rfl := Json.str.inj hit
        rintro ⟨record, member, same⟩
        exact missing record member same
      exact (tracks.create fresh).forget
        ⟨asdict task, List.mem_append_right _ (List.mem_singleton_self _), own⟩

/-- Every allowed operation keeps the latest records where they are found. -/
theorem Tracks.step {history : History} (tracks : Tracks history.disk history.latest)
    {operation : Operation} (plain : operation.Plain history.disk) :
    Tracks (history.step operation).disk (history.step operation).latest := by
  obtain ⟨disk, latest⟩ := history
  change Tracks (Tasks.step disk operation) (noted (written disk operation) latest)
  rw [← perform_writes]
  have effect := effect_writes disk operation
  generalize writing : writes disk operation = performed at effect
  cases effect with
  | stay =>
      have nothing : written disk operation = [] := by
        unfold written
        rw [writing, if_pos List.isEmpty_nil]
      rw [nothing]
      exact tracks
  | @rewrite before after record changed located earlier selected changes =>
      have found : disk.active.find? operation.selects = some record :=
        located ▸ find?_append_cons earlier selected
      rw [written_of_changes found changes (by rw [writing]; rfl)]
      exact tracks.rewrite located (changes_id plain.identified found changes)
  | @retire before after record changed taskId date retires located earlier selected changes
      finished =>
      have found : disk.active.find? operation.selects = some record :=
        located ▸ find?_append_cons earlier selected
      rw [written_of_changes found changes (by rw [writing]; rfl)]
      have sameId := changes_id plain.identified found changes
      have keepsId : hasId taskId record = true → hasId taskId changed = true := by
        rw [hasId_iff, hasId_iff, sameId]
        exact id
      cases changes with
      | update free =>
          cases retires
          exact tracks.retire located selected (keepsId selected) (plain.2 record found finished)
      | fields unprotected current =>
          cases retires
          exact tracks.retire located selected (keepsId selected) (plain.2 record found finished)
      | _ => cases retires
  | create creates =>
      rw [written_of_creates creates writing]
      exact tracks.create (fresh_created plain.identified creates)
  | @reopen task reopens nonTerminal =>
      subst reopens
      have noticed : written disk (.reopen task) = [asdict task] := by
        unfold written
        rw [writing, reopenWrites, if_neg nonTerminal, List.isEmpty_cons,
          if_neg Bool.false_ne_true]
      rw [noticed, perform_reopenWrites]
      exact tracks.reopen nonTerminal
  | @reopenArchived clock request record updates absent archived _ changes =>
      subst updates
      have noticed : written disk (.compareAndUpdateContract clock request) =
          [applyContract request record] := by
        unfold written
        rw [writing, List.isEmpty_cons, if_neg Bool.false_ne_true]
        simp only
        rw [currentRecord, absent, Option.none_or, archived]
        rfl
      have identified : hasId request.taskId (applyContract request record) = true := by
        have old := (hasId_iff request.taskId record).mpr (archivedRecord_id archived)
        rw [hasId_iff, applyContract_id, update_id plain old, archivedRecord_id archived]
      rw [noticed]
      have fresh : FreshIds disk [applyContract request record] := fresh_singleton fun taskId hit => by
        rw [hasId_iff] at hit identified
        obtain rfl := Json.str.inj (hit.symm.trans identified)
        rintro ⟨other, member, same⟩
        exact List.find?_eq_none.mp absent other member same
      exact (tracks.create fresh).forget
        ⟨_, List.mem_append_right _ (List.mem_singleton_self _), identified⟩

/-- The record that a sequence of operations on an empty store writes last to an id. -/
def lastWritten (operations : List Operation) : String → Option Record :=
  (Runs.run History.step History.empty operations).latest

theorem run_history_disk (history : History) (operations : List Operation) :
    (Runs.run History.step history operations).disk = Runs.run step history.disk operations := by
  induction operations generalizing history with
  | nil => rfl
  | cons operation rest ih => exact ih (history.step operation)

theorem run_tracks {history : History} (tracks : Tracks history.disk history.latest)
    {operations : List Operation}
    (plain : Runs.Along step (fun disk operation => operation.Plain disk) history.disk operations) :
    Tracks (Runs.run History.step history operations).disk
      (Runs.run History.step history operations).latest := by
  induction operations generalizing history with
  | nil => exact tracks
  | cons operation rest ih => exact ih (tracks.step plain.1) plain.2

/-- `get` returns a task from the record that was written to it last, in every
state that a run of allowed operations reaches. -/
theorem get_latest {operations : List Operation}
    (plain : Runs.Along step (fun disk operation => operation.Plain disk) Disk.empty operations)
    (clock : Clock) (taskId : String) :
    get clock taskId (Runs.run step Disk.empty operations) =
      taskOf clock (lastWritten operations taskId) := by
  have start : Tracks History.empty.disk History.empty.latest := tracks_empty
  have tracks := run_tracks start plain
  rw [run_history_disk] at tracks
  have found : stored (Runs.run step Disk.empty operations) taskId =
      lastWritten operations taskId := tracks.stored_eq taskId
  rw [get_eq, found]

instance (taskId : String) (disk : Disk) : Decidable (OnBoard taskId disk) :=
  inferInstanceAs (Decidable (∃ record ∈ _, _))

instance (disk : Disk) (clock : Clock) (taskId : String) (updates : Record) :
    Decidable (FinishesOnce disk clock taskId updates) :=
  inferInstanceAs (Decidable (∀ record ∈ _, _ → ∀ other ∈ _, _))

def secondTask : Task := { firstTask with title := "second version" }

def finishOn (today : String) : Operation :=
  .update { sampleClock with today := today } "T1" (statusUpdate "done")

/-- The task is finished, reopened with a new title and finished again. -/
def finishedTwice (second : String) : List Operation :=
  [.add firstTask, finishOn "2026-07-09", .reopen secondTask, finishOn second]

/-- The title of the task that `get` returns. -/
def title (answer : Except StoreError (Option Record)) : Option Json :=
  match answer with
  | .ok (some task) => some (task.get "title")
  | _ => none

theorem finished_on_two_days :
    title (get sampleClock "T1"
      (Runs.run step Disk.empty (finishedTwice "2026-07-10"))) =
      some (.str "second version") := by
  have plain : Runs.Along step (fun disk operation => operation.Plain disk) Disk.empty
      (finishedTwice "2026-07-10") :=
    ⟨(by decide : ¬OnBoard "T1" Disk.empty), ⟨keepsId_statusUpdate _ _, by decide +kernel⟩, trivial,
      ⟨keepsId_statusUpdate _ _, by decide +kernel⟩, trivial⟩
  rw [get_latest plain]
  decide +kernel

/-- On one day, the first version is returned. -/
theorem finished_twice_on_a_day :
    ¬∀ (operations : List Operation) (clock : Clock) (taskId : String),
      get clock taskId (Runs.run step Disk.empty operations) =
        taskOf clock (lastWritten operations taskId) := by
  intro claimed
  have shown := congrArg title (claimed (finishedTwice "2026-07-09") sampleClock "T1")
  have old : title (get sampleClock "T1"
      (Runs.run step Disk.empty (finishedTwice "2026-07-09"))) = some (.str "") := by
    decide +kernel
  rw [old] at shown
  revert shown
  decide +kernel

end ZaofuFormal.Tasks
