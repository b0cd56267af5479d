import ZaofuFormal.Tasks.CurrentRecord

/-!
# The file writes of the task store

Every operation writes its files one after the other, each of them atomically.
`writes` lists these writes in the order of the source, and performing all of
them is the step of the store.  `Effect` says once which lists there are: a
record is rewritten in place, retired, added or reopened.
-/

namespace ZaofuFormal.Tasks

open Foundation

inductive FileWrite where
  | board (records : List Record)
  | archive (date : String) (record : Record)
  | terminalIndex (index : Dict String String)

def Disk.write (disk : Disk) : FileWrite → Disk
  | .board records => { disk with active := records }
  | .archive date record =>
      { disk with archives := disk.archives.insert date (archiveFile disk date ++ [record]) }
  | .terminalIndex index => { disk with terminalIndex := index }

def Disk.perform (disk : Disk) (writes : List FileWrite) : Disk := writes.foldl Disk.write disk

/-- Archive and index a record before it leaves the board. -/
def retireWrites (disk : Disk) (taskId date : String) (record : Record) (rest : List Record) :
    List FileWrite :=
  [.archive date record, .terminalIndex (disk.terminalIndex.insert taskId date), .board rest]

def reopenWrites (task : Task) (disk : Disk) : List FileWrite :=
  if task.status ∈ terminalStates then []
  else
    let active :=
      match locate (hasId task.id) disk.active with
      | some (before, _, after) => before ++ asdict task :: after
      | none => disk.active ++ [asdict task]
    .board active ::
      if disk.terminalIndex.contains task.id then
        [.terminalIndex (disk.terminalIndex.erase task.id)]
      else []

def updateWrites (clock : Clock) (taskId : String) (kwargs : Record) (disk : Disk) : List FileWrite :=
  match locate (fun record => !record.contains "id" || hasId taskId record) disk.active with
  | none => []
  | some (before, record, after) =>
      if !record.contains "id" then []
      else if attemptedFields kwargs ≠ [] ∧ authorityRevision record ≠ "" then []
      else
        let changed : Record := record.update kwargs
        match inTerminalStates (changed.get "status") with
        | .error _ => []
        | .ok true => retireWrites disk taskId clock.today changed (before ++ after)
        | .ok false => [.board (before ++ changed :: after)]

def contractWrites (request : ContractUpdate) (disk : Disk) : List FileWrite :=
  match locate (hasId request.taskId) disk.active with
  | some (before, record, after) =>
      match contractMatches request record with
      | .ok true => [.board (before ++ applyContract request record :: after)]
      | _ => []
  | none =>
      match if request.reopenTerminal then archivedRecord disk request.taskId else none with
      | none => []
      | some record =>
          match contractMatches request record with
          | .ok true =>
              let changed := applyContract request record
              if statusText changed ∈ terminalStates then []
              else
                [.board (disk.active ++ [changed]),
                  .terminalIndex (disk.terminalIndex.erase request.taskId)]
          | _ => []

def fieldsWrites (clock : Clock) (taskId expectedAuthorityRevision : String) (updates : Record)
    (disk : Disk) : List FileWrite :=
  if attemptedFields updates ≠ [] then []
  else
    match locate (hasId taskId) disk.active with
    | none => []
    | some (before, record, after) =>
        if authorityRevision record ≠ expectedAuthorityRevision then []
        else
          let changed : Record := record.update updates
          if statusText changed ∈ terminalStates then
            retireWrites disk taskId clock.today changed (before ++ after)
          else [.board (before ++ changed :: after)]

def patchFieldsWrites (taskId : String) (updates : Record) (disk : Disk) : List FileWrite :=
  if updates.entries = [] ∨ unknownMetadata updates ≠ [] then []
  else
    match locate (hasId taskId) disk.active with
    | none => []
    | some (before, record, after) =>
        match patchContract record updates with
        | .error _ => []
        | .ok changed => [.board (before ++ changed :: after)]

def ensureWrites (clock : Clock) (key title : String) (kwargs : Record) (disk : Disk) :
    List FileWrite :=
  if kwargs.contains "key" ∨ kwargs.contains "title" then []
  else
    match locate (hasKey key) disk.active with
    | some (before, record, after) =>
        [.board (before ++ Dict.update (record.insert "title" (.str title)) kwargs :: after)]
    | none =>
        match construct "Task" (taskDefaults clock)
            ([("title", .str title), ("key", .str key)] ++ kwargs.entries) with
        | .error _ => []
        | .ok created => [.board (disk.active ++ [created])]

/-- The files that an operation writes, in order. -/
def writes (disk : Disk) : Operation → List FileWrite
  | .add task =>
      match (add task disk).1 with
      | .error _ => []
      | .ok _ => [.board (disk.active ++ [asdict task])]
  | .addMany tasks =>
      match (addMany tasks disk).1 with
      | .error _ => []
      | .ok (created, _) =>
          if created = [] then []
          else
            [.board (appendNew disk.terminalIndex disk.active
              (disk.active.map fun record => (record.get "id").text) tasks).1]
  | .reopen task => reopenWrites task disk
  | .update clock taskId kwargs => updateWrites clock taskId kwargs disk
  | .compareAndUpdateContract _ request => contractWrites request disk
  | .compareAndUpdateFields clock taskId expectedAuthorityRevision updates =>
      fieldsWrites clock taskId expectedAuthorityRevision updates disk
  | .patchContractFields _ taskId updates => patchFieldsWrites taskId updates disk
  | .ensure clock key title kwargs => ensureWrites clock key title kwargs disk

theorem perform_reopenWrites (task : Task) (disk : Disk) :
    disk.perform (reopenWrites task disk) = (reopen task disk).2 := by
  by_cases terminal : task.status ∈ terminalStates
  · rw [reopenWrites, reopen, if_pos terminal, if_pos terminal]
    rfl
  · rw [reopenWrites, reopen, if_neg terminal, if_neg terminal]
    by_cases indexed : disk.terminalIndex.contains task.id = true
    · simp only [indexed, if_true]
      rfl
    · have absent := Bool.eq_false_iff.mpr indexed
      simp only [Dict.erase_of_not_contains absent, indexed]
      rfl

theorem perform_updateWrites (clock : Clock) (taskId : String) (kwargs : Record) (disk : Disk) :
    disk.perform (updateWrites clock taskId kwargs disk) = (update clock taskId kwargs disk).2 := by
  unfold updateWrites update
  rcases locate (fun record => !record.contains "id" || hasId taskId record) disk.active with
    _ | ⟨before, record, after⟩
  · rfl
  · simp only
    by_cases named : (!record.contains "id") = true
    · rw [if_pos named, if_pos named]
      rfl
    · rw [if_neg named, if_neg named]
      by_cases stamped : attemptedFields kwargs ≠ [] ∧ authorityRevision record ≠ ""
      · rw [if_pos stamped, if_pos stamped]
        rfl
      · rw [if_neg stamped, if_neg stamped]
        rcases inTerminalStates (Record.get (record.update kwargs) "status") with _ | _ | _ <;> rfl

theorem perform_contractWrites (clock : Clock) (request : ContractUpdate) (disk : Disk) :
    disk.perform (contractWrites request disk) =
      (compareAndUpdateContract clock request disk).2 := by
  unfold contractWrites compareAndUpdateContract
  rcases locate (hasId request.taskId) disk.active with _ | ⟨before, record, after⟩
  · simp only
    rcases (if request.reopenTerminal = true then archivedRecord disk request.taskId else none) with
      _ | record
    · rfl
    · simp only
      rcases contractMatches request record with _ | _ | _
      · rfl
      · rfl
      · simp only
        by_cases terminal : statusText (applyContract request record) ∈ terminalStates
        · rw [if_pos terminal, if_pos terminal]
          rfl
        · rw [if_neg terminal, if_neg terminal]
          rfl
  · simp only
    rcases contractMatches request record with _ | _ | _ <;> rfl

theorem perform_fieldsWrites (clock : Clock) (taskId expected : String) (updates : Record)
    (disk : Disk) :
    disk.perform (fieldsWrites clock taskId expected updates disk) =
      (compareAndUpdateFields clock taskId expected updates disk).2 := by
  unfold fieldsWrites compareAndUpdateFields
  by_cases protectedField : attemptedFields updates ≠ []
  · rw [if_pos protectedField, if_pos protectedField]
    rfl
  · rw [if_neg protectedField, if_neg protectedField]
    rcases locate (hasId taskId) disk.active with _ | ⟨before, record, after⟩
    · rfl
    · simp only
      by_cases stale : authorityRevision record ≠ expected
      · rw [if_pos stale, if_pos stale]
        rfl
      · rw [if_neg stale, if_neg stale]
        by_cases terminal : statusText (record.update updates) ∈ terminalStates
        · rw [if_pos terminal, if_pos terminal]
          rfl
        · rw [if_neg terminal, if_neg terminal]
          rfl

theorem perform_patchFieldsWrites (clock : Clock) (taskId : String) (updates : Record)
    (disk : Disk) :
    disk.perform (patchFieldsWrites taskId updates disk) =
      (patchContractFields clock taskId updates disk).2 := by
  unfold patchFieldsWrites patchContractFields
  by_cases empty : updates.entries = []
  · rw [if_pos (Or.inl empty), if_pos empty]
    rfl
  · by_cases unknown : unknownMetadata updates ≠ []
    · rw [if_pos (Or.inr unknown), if_neg empty, if_pos unknown]
      rfl
    · rw [if_neg (not_or.mpr ⟨empty, unknown⟩), if_neg empty, if_neg unknown]
      rcases locate (hasId taskId) disk.active with _ | ⟨before, record, after⟩
      · rfl
      · simp only
        rcases patchContract record updates with _ | _ <;> rfl

theorem perform_ensureWrites (clock : Clock) (key title : String) (kwargs : Record) (disk : Disk) :
    disk.perform (ensureWrites clock key title kwargs disk) =
      (ensure clock key title kwargs disk).2 := by
  unfold ensureWrites ensure
  by_cases repeated : kwargs.contains "key" ∨ kwargs.contains "title"
  · rw [if_pos repeated, if_pos repeated]
    rfl
  · rw [if_neg repeated, if_neg repeated]
    generalize construct "Task" (taskDefaults clock)
      ([("title", .str title), ("key", .str key)] ++ kwargs.entries) = made
    rcases locate (hasKey key) disk.active with _ | ⟨before, record, after⟩
    · cases made <;> rfl
    · rfl

theorem add_cases (task : Task) (disk : Disk) :
    (∃ error, add task disk = (.error error, disk)) ∨
      add task disk = (.ok task, { disk with active := disk.active ++ [asdict task] }) := by
  unfold add
  rcases loadedIds disk.active with error | ids
  · exact Or.inl ⟨error, rfl⟩
  · simp only
    rcases task.blockedBy.find? fun ref =>
      !decide (Json.str ref ∈ ids) && !disk.terminalIndex.contains ref with _ | ref
    · exact Or.inr rfl
    · exact Or.inl ⟨_, rfl⟩

/-- What `addMany` does once the batch is accepted. -/
theorem addMany_cases (tasks : List Task) (disk : Disk) :
    (∃ error, addMany tasks disk = (.error error, disk)) ∨
      addMany tasks disk = (.ok ([], []), disk) ∨
      ∃ records created skipped,
        appendNew disk.terminalIndex disk.active
          (disk.active.map fun record => (record.get "id").text) tasks =
            (records, created, skipped) ∧
        (tasks.map Task.id).Nodup ∧
        addMany tasks disk = (.ok (created, skipped),
          if created = [] then disk else { disk with active := records }) := by
  unfold addMany
  by_cases empty : tasks = []
  · right
    left
    rw [if_pos empty]
  · rw [if_neg empty]
    by_cases repeated : ¬(tasks.map Task.id).Nodup
    · left
      rw [if_pos repeated]
      exact ⟨_, rfl⟩
    · rw [if_neg repeated]
      simp only
      rcases missingReference _ tasks with _ | ⟨taskId, ref⟩
      · right
        right
        exact ⟨_, _, _, rfl, not_not.mp repeated, rfl⟩
      · exact Or.inl ⟨_, rfl⟩

theorem perform_writes (disk : Disk) (operation : Operation) :
    disk.perform (writes disk operation) = step disk operation := by
  cases operation with
  | add task =>
      rw [writes, step]
      rcases add_cases task disk with ⟨error, refused⟩ | accepted
      · rw [refused]
        rfl
      · rw [accepted]
        rfl
  | addMany tasks =>
      rw [writes, step]
      rcases addMany_cases tasks disk with ⟨error, refused⟩ | empty |
        ⟨records, created, skipped, appended, _, accepted⟩
      · rw [refused]
        rfl
      · rw [empty]
        rfl
      · rw [accepted, appended]
        simp only
        by_cases none : created = []
        · rw [if_pos none, if_pos none]
          rfl
        · rw [if_neg none, if_neg none]
          rfl
  | reopen task => exact perform_reopenWrites task disk
  | update clock taskId kwargs => exact perform_updateWrites clock taskId kwargs disk
  | compareAndUpdateContract clock request => exact perform_contractWrites clock request disk
  | compareAndUpdateFields clock taskId expected updates =>
      exact perform_fieldsWrites clock taskId expected updates disk
  | patchContractFields clock taskId updates =>
      exact perform_patchFieldsWrites clock taskId updates disk
  | ensure clock key title kwargs => exact perform_ensureWrites clock key title kwargs disk

/-- The record of the board that an operation acts on is the first one it selects. -/
def Operation.selects : Operation → Record → Bool
  | .add _ => fun _ => false
  | .addMany _ => fun _ => false
  | .reopen task => hasId task.id
  | .update _ taskId _ => hasId taskId
  | .compareAndUpdateContract _ request => hasId request.taskId
  | .compareAndUpdateFields _ taskId _ _ => hasId taskId
  | .patchContractFields _ taskId _ => hasId taskId
  | .ensure _ key _ _ => hasKey key

/-- The task and the day of an operation that may retire a record. -/
def Operation.retires : Operation → Option (String × String)
  | .update clock taskId _ => some (taskId, clock.today)
  | .compareAndUpdateFields clock taskId _ _ => some (taskId, clock.today)
  | _ => none

/-- What an operation makes of a record, and the check that lets it. -/
inductive Changes : Operation → Record → Record → Prop
  | update {clock : Clock} {taskId : String} {kwargs record : Record}
      (free : attemptedFields kwargs = [] ∨ authorityRevision record = "") :
      Changes (.update clock taskId kwargs) record (record.update kwargs)
  | contract {clock : Clock} {request : ContractUpdate} {record : Record}
      (matched : contractMatches request record = .ok true) :
      Changes (.compareAndUpdateContract clock request) record (applyContract request record)
  | fields {clock : Clock} {taskId expected : String} {updates record : Record}
      (unprotected : attemptedFields updates = []) (current : authorityRevision record = expected) :
      Changes (.compareAndUpdateFields clock taskId expected updates) record
        (record.update updates)
  | patch {clock : Clock} {taskId : String} {updates record changed : Record}
      (known : unknownMetadata updates = []) (patched : patchContract record updates = .ok changed) :
      Changes (.patchContractFields clock taskId updates) record changed
  | ensure {clock : Clock} {key title : String} {kwargs record : Record} :
      Changes (.ensure clock key title kwargs) record
        (Dict.update (record.insert "title" (.str title)) kwargs)

/-- The records that an operation adds to the board. -/
inductive Creates (disk : Disk) : Operation → List Record → Prop
  | add {task : Task} : Creates disk (.add task) [asdict task]
  | addMany {tasks news : List Task} (part : news.Sublist tasks)
      (fresh : ∀ task ∈ news, task.id ∉ (disk.active.map fun record => (record.get "id").text) ∧
        disk.terminalIndex.contains task.id = false)
      (distinct : (news.map Task.id).Nodup) :
      Creates disk (.addMany tasks) (news.map asdict)
  | ensure {clock : Clock} {key title : String} {kwargs created : Record}
      (absent : disk.active.find? (hasKey key) = none)
      (made : construct "Task" (taskDefaults clock)
        ([("title", .str title), ("key", .str key)] ++ kwargs.entries) = .ok created) :
      Creates disk (.ensure clock key title kwargs) [created]

/-- The lists of writes that an operation can perform. -/
inductive Effect (disk : Disk) (operation : Operation) : List FileWrite → Prop
  | stay : Effect disk operation []
  | rewrite {before after : List Record} {record changed : Record}
      (located : disk.active = before ++ record :: after)
      (earlier : ∀ other ∈ before, operation.selects other = false)
      (selected : operation.selects record = true) (changes : Changes operation record changed) :
      Effect disk operation [.board (before ++ changed :: after)]
  | retire {before after : List Record} {record changed : Record} {taskId date : String}
      (retires : operation.retires = some (taskId, date))
      (located : disk.active = before ++ record :: after)
      (earlier : ∀ other ∈ before, operation.selects other = false)
      (selected : operation.selects record = true) (changes : Changes operation record changed)
      (finished : statusText changed ∈ terminalStates) :
      Effect disk operation (retireWrites disk taskId date changed (before ++ after))
  | create {records : List Record} (creates : Creates disk operation records) :
      Effect disk operation [.board (disk.active ++ records)]
  | reopen {task : Task} (reopens : operation = .reopen task)
      (nonTerminal : task.status ∉ terminalStates) :
      Effect disk operation (reopenWrites task disk)
  | reopenArchived {clock : Clock} {request : ContractUpdate} {record : Record}
      (updates : operation = .compareAndUpdateContract clock request)
      (absent : disk.active.find? (hasId request.taskId) = none)
      (archived : archivedRecord disk request.taskId = some record)
      (applies : contractApplies request disk = true)
      (changes : Changes operation record (applyContract request record)) :
      Effect disk operation [.board (disk.active ++ [applyContract request record]),
        .terminalIndex (disk.terminalIndex.erase request.taskId)]

theorem effect_updateWrites (clock : Clock) (taskId : String) (kwargs : Record) (disk : Disk) :
    Effect disk (.update clock taskId kwargs) (updateWrites clock taskId kwargs disk) := by
  unfold updateWrites
  cases found : locate (fun record => !record.contains "id" || hasId taskId record) disk.active with
  | none => exact .stay
  | some split =>
      obtain ⟨before, record, after⟩ := split
      obtain ⟨located, _⟩ := locate_some found
      obtain ⟨earlier, hit⟩ := locate_before found
      simp only
      by_cases named : (!record.contains "id") = true
      · rw [if_pos named]
        exact .stay
      rw [if_neg named]
      by_cases stamped : attemptedFields kwargs ≠ [] ∧ authorityRevision record ≠ ""
      · rw [if_pos stamped]
        exact .stay
      rw [if_neg stamped]
      have free : attemptedFields kwargs = [] ∨ authorityRevision record = "" := by
        by_contra neither
        exact stamped (not_or.mp neither)
      have selected : hasId taskId record = true := by
        rw [Bool.or_eq_true] at hit
        exact hit.resolve_left named
      have others : ∀ other ∈ before, hasId taskId other = false := fun other member =>
        (Bool.or_eq_false_iff.mp (earlier other member)).2
      cases decided : inTerminalStates (Record.get (record.update kwargs) "status") with
      | error error => exact .stay
      | ok terminal =>
          cases terminal with
          | false => exact .rewrite located others selected (.update free)
          | true =>
              have finished := terminalStatus_text ((inTerminalStates_ok decided).2.mp rfl)
              exact .retire rfl located others selected (.update free) finished

theorem effect_contractWrites (clock : Clock) (request : ContractUpdate) (disk : Disk) :
    Effect disk (.compareAndUpdateContract clock request) (contractWrites request disk) := by
  unfold contractWrites
  cases found : locate (hasId request.taskId) disk.active with
  | none =>
      simp only
      cases source : (if request.reopenTerminal then archivedRecord disk request.taskId
        else none) with
      | none => exact .stay
      | some record =>
          simp only
          cases matched : contractMatches request record with
          | error error => exact .stay
          | ok answer =>
              cases answer with
              | false => exact .stay
              | true =>
                  simp only
                  by_cases terminal : statusText (applyContract request record) ∈ terminalStates
                  · rw [if_pos terminal]
                    exact .stay
                  · rw [if_neg terminal]
                    have archived : archivedRecord disk request.taskId = some record := by
                      by_cases asked : request.reopenTerminal = true
                      · rwa [if_pos asked] at source
                      · rw [if_neg asked] at source
                        cases source
                    have applies : contractApplies request disk = true := by
                      simp [contractApplies, locate_none found, source, matched, terminal]
                    exact .reopenArchived rfl (locate_none found) archived applies
                      (.contract matched)
  | some split =>
      obtain ⟨before, record, after⟩ := split
      obtain ⟨earlier, hit⟩ := locate_before found
      simp only
      cases matched : contractMatches request record with
      | error error => exact .stay
      | ok answer =>
          cases answer with
          | false => exact .stay
          | true => exact .rewrite (locate_some found).1 earlier hit (.contract matched)

theorem effect_fieldsWrites (clock : Clock) (taskId expected : String) (updates : Record)
    (disk : Disk) :
    Effect disk (.compareAndUpdateFields clock taskId expected updates)
      (fieldsWrites clock taskId expected updates disk) := by
  unfold fieldsWrites
  by_cases invalid : attemptedFields updates ≠ []
  · rw [if_pos invalid]
    exact .stay
  rw [if_neg invalid]
  cases found : locate (hasId taskId) disk.active with
  | none => exact .stay
  | some split =>
      obtain ⟨before, record, after⟩ := split
      obtain ⟨earlier, hit⟩ := locate_before found
      have located := (locate_some found).1
      simp only
      by_cases stale : authorityRevision record ≠ expected
      · rw [if_pos stale]
        exact .stay
      rw [if_neg stale]
      have changes : Changes (.compareAndUpdateFields clock taskId expected updates) record
          (record.update updates) := .fields (not_not.mp invalid) (not_not.mp stale)
      by_cases terminal : statusText (record.update updates) ∈ terminalStates
      · rw [if_pos terminal]
        exact .retire rfl located earlier hit changes terminal
      · rw [if_neg terminal]
        exact .rewrite located earlier hit changes

theorem effect_patchFieldsWrites (clock : Clock) (taskId : String) (updates : Record)
    (disk : Disk) :
    Effect disk (.patchContractFields clock taskId updates)
      (patchFieldsWrites taskId updates disk) := by
  unfold patchFieldsWrites
  by_cases refused : updates.entries = [] ∨ unknownMetadata updates ≠ []
  · rw [if_pos refused]
    exact .stay
  rw [if_neg refused]
  have known : unknownMetadata updates = [] := not_not.mp (not_or.mp refused).2
  cases found : locate (hasId taskId) disk.active with
  | none => exact .stay
  | some split =>
      obtain ⟨before, record, after⟩ := split
      obtain ⟨earlier, hit⟩ := locate_before found
      simp only
      cases patched : patchContract record updates with
      | error error => exact .stay
      | ok changed => exact .rewrite (locate_some found).1 earlier hit (.patch known patched)

theorem effect_ensureWrites (clock : Clock) (key title : String) (kwargs : Record) (disk : Disk) :
    Effect disk (.ensure clock key title kwargs) (ensureWrites clock key title kwargs disk) := by
  unfold ensureWrites
  by_cases repeated : kwargs.contains "key" ∨ kwargs.contains "title"
  · rw [if_pos repeated]
    exact .stay
  rw [if_neg repeated]
  cases made : construct "Task" (taskDefaults clock)
    ([("title", .str title), ("key", .str key)] ++ kwargs.entries) with
  | error error =>
      cases found : locate (hasKey key) disk.active with
      | none => exact .stay
      | some split =>
          obtain ⟨earlier, hit⟩ := locate_before found
          exact .rewrite (locate_some found).1 earlier hit .ensure
  | ok created =>
      cases found : locate (hasKey key) disk.active with
      | none => exact .create (.ensure (locate_none found) made)
      | some split =>
          obtain ⟨earlier, hit⟩ := locate_before found
          exact .rewrite (locate_some found).1 earlier hit .ensure

/-- The records that a batch appends are those of tasks with new and distinct ids. -/
theorem appendNew_eq (index : Dict String String) (tasks : List Task) (raw : List Record)
    (existingIds : List String) :
    ∃ news : List Task, news.Sublist tasks ∧
      (appendNew index raw existingIds tasks).1 = raw ++ news.map asdict ∧
      (appendNew index raw existingIds tasks).2.1 = news.map Task.id ∧
      (∀ task ∈ news, task.id ∉ existingIds ∧ index.contains task.id = false) ∧
      (news.map Task.id).Nodup := by
  induction tasks generalizing raw existingIds with
  | nil => exact ⟨[], List.Sublist.refl [], by simp [appendNew], rfl, by simp, List.nodup_nil⟩
  | cons task rest ih =>
      by_cases skipped : task.id ∈ existingIds ∨ index.contains task.id
      · obtain ⟨news, part, records, created, fresh, distinct⟩ := ih raw existingIds
        refine ⟨news, part.cons task, ?_, ?_, fresh, distinct⟩
        · rw [appendNew, if_pos skipped]
          exact records
        · rw [appendNew, if_pos skipped]
          exact created
      · obtain ⟨news, part, records, created, fresh, distinct⟩ :=
          ih (raw ++ [asdict task]) (existingIds ++ [task.id])
        obtain ⟨unlisted, unindexed⟩ := not_or.mp skipped
        refine ⟨task :: news, part.cons_cons task, ?_, ?_, ?_, ?_⟩
        · rw [appendNew, if_neg skipped]
          simpa using records
        · rw [appendNew, if_neg skipped]
          simpa using created
        · intro other member
          rcases List.mem_cons.mp member with rfl | later
          · exact ⟨unlisted, Bool.eq_false_iff.mpr unindexed⟩
          · obtain ⟨outside, notIndexed⟩ := fresh other later
            exact ⟨fun inside => outside (List.mem_append_left _ inside), notIndexed⟩
        · rw [List.map_cons, List.nodup_cons]
          refine ⟨fun member => ?_, distinct⟩
          obtain ⟨other, later, same⟩ := List.mem_map.mp member
          exact (fresh other later).1 (by simp [same])

theorem effect_writes (disk : Disk) (operation : Operation) :
    Effect disk operation (writes disk operation) := by
  cases operation with
  | add task =>
      rw [writes]
      rcases add_cases task disk with ⟨error, refused⟩ | accepted
      · rw [refused]
        exact .stay
      · rw [accepted]
        exact .create .add
  | addMany tasks =>
      rw [writes]
      rcases addMany_cases tasks disk with ⟨error, refused⟩ | empty |
        ⟨records, created, skipped, appended, _, accepted⟩
      · rw [refused]
        exact .stay
      · rw [empty]
        exact .stay
      · rw [accepted, appended]
        simp only
        by_cases none : created = []
        · rw [if_pos none]
          exact .stay
        · rw [if_neg none]
          obtain ⟨news, part, spelled, _, fresh, distinct⟩ := appendNew_eq disk.terminalIndex tasks
            disk.active (disk.active.map fun record => (record.get "id").text)
          rw [appended] at spelled
          rw [show records = disk.active ++ news.map asdict from spelled]
          exact .create (.addMany part fresh distinct)
  | reopen task =>
      by_cases terminal : task.status ∈ terminalStates
      · rw [writes, reopenWrites, if_pos terminal]
        exact .stay
      · exact .reopen rfl terminal
  | update clock taskId kwargs => exact effect_updateWrites clock taskId kwargs disk
  | compareAndUpdateContract clock request => exact effect_contractWrites clock request disk
  | compareAndUpdateFields clock taskId expected updates =>
      exact effect_fieldsWrites clock taskId expected updates disk
  | patchContractFields clock taskId updates =>
      exact effect_patchFieldsWrites clock taskId updates disk
  | ensure clock key title kwargs => exact effect_ensureWrites clock key title kwargs disk

end ZaofuFormal.Tasks
