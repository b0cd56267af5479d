import ZaofuFormal.Tasks.Board

/-!
# Runs of the task store

The condition under which each call keeps the board, the proof for every
operation, and the run that leaves a finished task on the board.
-/

namespace ZaofuFormal.Tasks

open Foundation

/-- The updates set the status to a terminal one. -/
def SetsTerminal (updates : Record) : Prop :=
  ∃ status ∈ updates.get? "status", TerminalStatus status

instance (updates : Record) : Decidable (SetsTerminal updates) :=
  inferInstanceAs (Decidable (∃ status ∈ _, _))

/-- The updates keep the id of the record or give it an unused one. -/
def SafeId (disk : Disk) (current : Json) (updates : Record) : Prop :=
  ∀ id ∈ updates.get? "id", id = current ∨ Unused disk id

instance (disk : Disk) (current : Json) (updates : Record) :
    Decidable (SafeId disk current updates) :=
  inferInstanceAs (Decidable (∀ id ∈ _, _))

/-- The updates set a status that `status in TERMINAL_STATES` accepts or cannot decide. -/
def LeavesBoard (updates : Record) : Prop :=
  ∃ status ∈ updates.get? "status", TerminalStatus status ∨ status.hashable = false

instance (updates : Record) : Decidable (LeavesBoard updates) :=
  inferInstanceAs (Decidable (∃ status ∈ _, _))

/-- The record that a contract update starts from. -/
def contractSource (disk : Disk) (request : ContractUpdate) : Option Record :=
  match disk.active.find? (hasId request.taskId) with
  | some record => some record
  | none => if request.reopenTerminal then archivedRecord disk request.taskId else none

/-- Every keyword argument names a field of the task dataclass. -/
def KnownFields (clock : Clock) (kwargs : Record) : Prop :=
  ∀ name ∈ kwargs.keys, name ∈ (taskDefaults clock).map Prod.fst

instance (clock : Clock) (kwargs : Record) : Decidable (KnownFields clock kwargs) :=
  inferInstanceAs (Decidable (∀ name ∈ _, _))

/-- The calls that keep the board: new tasks are not terminal and have unused
ids, no changed id is in use, and neither `ensure` nor the contract update of
an active task sets a terminal status. -/
def Operation.Allowed (disk : Disk) : Operation → Prop
  | .add task => task.status ∉ terminalStates ∧ Unused disk (.str task.id)
  | .addMany tasks => ∀ task ∈ tasks, task.status ∉ terminalStates
  | .reopen _ => True
  | .update _ taskId kwargs =>
      ∀ record ∈ disk.active, hasId taskId record = true →
        (attemptedFields kwargs = [] ∨ authorityRevision record = "") →
        SafeId disk (.str taskId) kwargs ∨ LeavesBoard kwargs
  | .compareAndUpdateContract _ request =>
      ∀ record ∈ contractSource disk request, contractMatches request record = .ok true →
        SafeId disk (.str request.taskId) request.taskUpdates ∧
          (record ∈ disk.active → ¬ SetsTerminal request.taskUpdates)
  | .compareAndUpdateFields _ taskId expectedAuthorityRevision updates =>
      ∀ record ∈ disk.active, hasId taskId record = true →
        authorityRevision record = expectedAuthorityRevision →
        SafeId disk (.str taskId) updates ∨ SetsTerminal updates
  | .patchContractFields _ _ _ => True
  | .ensure clock key _ kwargs =>
      (∀ record ∈ disk.active.find? (hasKey key),
        ¬ SetsTerminal kwargs ∧ SafeId disk (record.get "id") kwargs) ∧
      (disk.active.find? (hasKey key) = none → KnownFields clock kwargs →
        ¬ SetsTerminal kwargs ∧ Unused disk ((kwargs.get? "id").getD (.str clock.newTaskId)))

instance decidableAllowed (disk : Disk) : ∀ operation : Operation,
    Decidable (operation.Allowed disk)
  | .add _ => inferInstanceAs (Decidable (_ ∧ _))
  | .addMany _ => inferInstanceAs (Decidable (∀ task ∈ _, _))
  | .reopen _ => .isTrue trivial
  | .update _ _ _ => inferInstanceAs (Decidable (∀ record ∈ _, _))
  | .compareAndUpdateContract _ _ => inferInstanceAs (Decidable (∀ record ∈ _, _))
  | .compareAndUpdateFields _ _ _ _ => inferInstanceAs (Decidable (∀ record ∈ _, _))
  | .patchContractFields _ _ _ => .isTrue trivial
  | .ensure _ _ _ _ => inferInstanceAs (Decidable (_ ∧ _))

theorem get_update (record updates : Record) (key : String) :
    Record.get (record.update updates) key = (updates.get? key).getD (record.get key) := by
  unfold Record.get
  rw [Dict.get?_update]
  cases updates.get? key <;> rfl

variable {key : String} {record updates kwargs : Record} {records : List Record} {disk : Disk}
  {clock : Clock}

theorem get_insert_ne (record : Record) {other : String} (value : Json)
    (different : other ≠ key) : Record.get (record.insert key value) other = record.get other := by
  unfold Record.get
  rw [Dict.get?_insert_ne record value different]

/-- A record built from a field table reads each field as the table has it. -/
theorem get_ofEntries {entries : List (String × Json)} (distinct : (entries.map Prod.fst).Nodup)
    (key : String) :
    Record.get (Dict.ofEntries entries) key = (Dict.find key entries).getD .null := by
  rw [Record.get, Dict.get?_ofEntries distinct]

theorem taskEntries_distinct (task : Task) : ((taskEntries task).map Prod.fst).Nodup := by
  simp [taskEntries]

theorem asdict_id (task : Task) : (asdict task).get "id" = .str task.id := by
  rw [asdict, get_ofEntries (taskEntries_distinct task)]
  simp [taskEntries, Dict.find]

theorem asdict_status (task : Task) : (asdict task).get "status" = .str task.status := by
  rw [asdict, get_ofEntries (taskEntries_distinct task)]
  simp [taskEntries, Dict.find]

theorem terminalStatus_str (status : String) :
    TerminalStatus (.str status) ↔ status ∈ terminalStates := by
  simp [TerminalStatus]

theorem locate_some {test : Record → Bool} {before after : List Record}
    (found : locate test records = some (before, record, after)) :
    records = before ++ record :: after ∧ records.find? test = some record := by
  induction records generalizing before with
  | nil => cases found
  | cons head rest ih =>
      rw [locate] at found
      split at found
      · cases found
        rename_i hit
        exact ⟨rfl, List.find?_cons_of_pos hit⟩
      · rename_i miss
        rw [Option.map_eq_some_iff] at found
        obtain ⟨⟨left, inner, right⟩, later, same⟩ := found
        cases same
        obtain ⟨split, first⟩ := ih later
        exact ⟨by rw [split]; rfl, by rw [List.find?_cons_of_neg miss, first]⟩

theorem locate_none {test : Record → Bool}
    (missing : locate test records = none) : records.find? test = none := by
  induction records with
  | nil => rfl
  | cons head rest ih =>
      rw [locate] at missing
      split at missing
      · cases missing
      · rename_i miss
        rw [List.find?_cons_of_neg miss]
        exact ih (Option.map_eq_none_iff.mp missing)

theorem hasId_iff (taskId : String) (record : Record) :
    hasId taskId record = true ↔ record.get "id" = .str taskId := by
  simp [hasId]

theorem mem_of_located {before after : List Record}
    (located : records = before ++ record :: after) : record ∈ records := by
  rw [located]
  exact List.mem_append_right before List.mem_cons_self

theorem updated_id (safe : SafeId disk (record.get "id") updates) :
    Record.get (record.update updates) "id" = record.get "id" ∨
      Unused disk (Record.get (record.update updates) "id") := by
  rw [get_update]
  cases given : updates.get? "id" with
  | none => exact Or.inl rfl
  | some id => exact safe id given

theorem updated_status
    (nonTerminal : ¬ TerminalStatus (record.get "status")) (keeps : ¬ SetsTerminal updates) :
    ¬ TerminalStatus (Record.get (record.update updates) "status") := by
  rw [get_update]
  cases given : updates.get? "status" with
  | none => exact nonTerminal
  | some status => exact fun terminal => keeps ⟨status, given, terminal⟩

theorem add_board (board : Board disk) {task : Task}
    (nonTerminal : task.status ∉ terminalStates) (unused : Unused disk (.str task.id)) :
    Board (add task disk).2 := by
  unfold add
  split
  · exact board
  · split
    · exact board
    · apply board.publish
      · rw [asdict_status, terminalStatus_str]
        exact nonTerminal
      · rw [asdict_id]
        exact unused

/-- The appended tasks have ids that neither the board nor the index knew. -/
theorem appendNew_board (board : Board disk) {tasks : List Task}
    (nonTerminal : ∀ task ∈ tasks, task.status ∉ terminalStates) (existingIds : List String)
    (known : ∀ record ∈ disk.active, ∀ taskId, record.get "id" = .str taskId →
      taskId ∈ existingIds) :
    Board { disk with
      active := (appendNew disk.terminalIndex disk.active existingIds tasks).1 } := by
  induction tasks generalizing disk existingIds with
  | nil => exact board
  | cons task rest ih =>
      have restNonTerminal : ∀ other ∈ rest, other.status ∉ terminalStates :=
        fun other member => nonTerminal other (List.mem_cons_of_mem task member)
      rw [appendNew]
      split
      · exact ih board restNonTerminal existingIds known
      · rename_i fresh
        obtain ⟨notActive, notTerminal⟩ := not_or.mp fresh
        have unused : Unused disk (.str task.id) := by
          refine ⟨?_, ?_⟩
          · intro member
            obtain ⟨record, present, same⟩ := List.mem_map.mp member
            exact notActive (known record present task.id same)
          · simpa [Dict.contains, Unindexed] using notTerminal
        have published : Board { disk with active := disk.active ++ [asdict task] } := by
          apply board.publish
          · rw [asdict_status, terminalStatus_str]
            exact nonTerminal task List.mem_cons_self
          · rw [asdict_id]
            exact unused
        apply ih published restNonTerminal
        intro record member taskId same
        rcases List.mem_append.mp member with present | added
        · exact List.mem_append_left _ (known record present taskId same)
        · rw [List.mem_singleton.mp added, asdict_id] at same
          rw [← Json.str.inj same]
          exact List.mem_append_right _ List.mem_cons_self

theorem addMany_board (board : Board disk) {tasks : List Task}
    (nonTerminal : ∀ task ∈ tasks, task.status ∉ terminalStates) :
    Board (addMany tasks disk).2 := by
  unfold addMany
  dsimp only
  split
  · exact board
  split
  · exact board
  split
  · exact board
  · dsimp only
    split
    · exact board
    · apply appendNew_board board nonTerminal
      intro record member taskId same
      refine List.mem_map.mpr ⟨record, member, ?_⟩
      rw [same, Json.text_str]

theorem reopen_board (board : Board disk) (task : Task) : Board (reopen task disk).2 := by
  unfold reopen
  split
  · exact board
  · rename_i nonTerminal
    have forgotten := board.forget task.id
    have status : ¬ TerminalStatus ((asdict task).get "status") := by
      rw [asdict_status, terminalStatus_str]
      exact nonTerminal
    dsimp only
    split
    · rename_i before record after found
      obtain ⟨located, first⟩ := locate_some found
      have identified := (hasId_iff _ _).mp (List.find?_some first)
      apply forgotten.rewrite located status
      rw [asdict_id, identified]
      exact Or.inl rfl
    · rename_i missing
      apply forgotten.publish status
      rw [asdict_id]
      refine ⟨?_, ?_⟩
      · intro member
        obtain ⟨record, present, same⟩ := List.mem_map.mp member
        exact List.find?_eq_none.mp (locate_none missing) record present ((hasId_iff _ _).mpr same)
      · change (disk.terminalIndex.erase task.id).get? task.id = none
        rw [Dict.get?_erase, if_pos rfl]

theorem inTerminalStates_ok {status : Json} {terminal : Bool}
    (decided : inTerminalStates status = .ok terminal) :
    status.hashable = true ∧ (terminal = true ↔ TerminalStatus status) := by
  unfold inTerminalStates at decided
  split at decided
  · cases decided
  · rename_i hashable
    cases decided
    exact ⟨by simpa using hashable, decide_eq_true_iff⟩

theorem update_board (board : Board disk) {taskId : String}
    (allowed : (Operation.update clock taskId kwargs).Allowed disk) :
    Board (update clock taskId kwargs disk).2 := by
  unfold update
  split
  · exact board
  rename_i before record after found
  obtain ⟨located, first⟩ := locate_some found
  split
  · exact board
  rename_i hasIdField
  split
  · exact board
  rename_i unstamped
  have identified : record.get "id" = .str taskId := by
    have matched := List.find?_some first
    rw [Bool.or_eq_true] at matched
    exact (hasId_iff _ _).mp (matched.resolve_left hasIdField)
  dsimp only
  split
  · exact board
  · exact board.retire located identified _ _
  · rename_i decided
    obtain ⟨hashable, terminal⟩ := inTerminalStates_ok decided
    have nonTerminal : ¬ TerminalStatus (Record.get (record.update kwargs) "status") :=
      fun hit => absurd (terminal.mpr hit) (by decide)
    have admitted : attemptedFields kwargs = [] ∨ authorityRevision record = "" := by
      by_contra neither
      exact unstamped (not_or.mp neither)
    apply board.rewrite located nonTerminal
    apply updated_id
    rw [identified]
    have safe := allowed record (mem_of_located located) ((hasId_iff _ _).mpr identified) admitted
    refine safe.resolve_right ?_
    rintro ⟨status, given, leaves⟩
    rw [get_update, show kwargs.get? "status" = some status from given] at hashable nonTerminal
    rcases leaves with terminalStatus | unhashable
    · exact nonTerminal terminalStatus
    · rw [Option.getD_some, unhashable] at hashable
      cases hashable

/-- The contract update changes id and status only through the further updates. -/
theorem applyContract_get (request : ContractUpdate) (record : Record)
    (plain : key ∉ authorityFields) :
    (applyContract request record).get key =
      (request.taskUpdates.get? key).getD (record.get key) := by
  simp only [authorityFields, List.mem_cons, List.not_mem_nil, or_false, not_or] at plain
  obtain ⟨notContract, notRevision, notSequence, notBinding⟩ := plain
  rw [applyContract, get_update, get_insert_ne _ _ notSequence, get_insert_ne _ _ notRevision,
    get_insert_ne _ _ notBinding, get_insert_ne _ _ notContract]

theorem applyContract_id (request : ContractUpdate) (record : Record) :
    (applyContract request record).get "id" =
      Record.get (record.update request.taskUpdates) "id" := by
  rw [applyContract_get request record (by decide), get_update]

theorem applyContract_status (request : ContractUpdate) (record : Record) :
    (applyContract request record).get "status" =
      Record.get (record.update request.taskUpdates) "status" := by
  rw [applyContract_get request record (by decide), get_update]

theorem terminalStatus_text (terminal : TerminalStatus (record.get "status")) :
    statusText record ∈ terminalStates := by
  obtain ⟨status, member, same⟩ := List.mem_map.mp terminal
  rw [statusText, ← same, Json.text_str]
  exact member

theorem archivedRecord_id {taskId : String}
    (found : archivedRecord disk taskId = some record) : record.get "id" = .str taskId := by
  obtain ⟨date, _, inside⟩ := List.exists_of_findSome?_eq_some found
  exact (hasId_iff _ _).mp (List.find?_some inside)

theorem compareAndUpdateContract_board (board : Board disk) {request : ContractUpdate}
    (allowed : (Operation.compareAndUpdateContract clock request).Allowed disk) :
    Board (compareAndUpdateContract clock request disk).2 := by
  unfold compareAndUpdateContract
  split
  · rename_i before record after found
    obtain ⟨located, first⟩ := locate_some found
    have identified := (hasId_iff _ _).mp (List.find?_some first)
    have member := mem_of_located located
    split
    · exact board
    · exact board
    · rename_i matched
      have source : record ∈ contractSource disk request := by
        rw [contractSource, first]
        rfl
      obtain ⟨safe, keeps⟩ := allowed record source matched
      rw [← identified] at safe
      apply board.rewrite located
      · rw [applyContract_status]
        exact updated_status (board.nonTerminal record member) (keeps member)
      · rw [applyContract_id]
        exact updated_id safe
  · rename_i missing
    have absent := locate_none missing
    split
    · exact board
    · rename_i record found
      split
      · exact board
      · exact board
      · rename_i matched
        dsimp only
        split
        · exact board
        · rename_i nonTerminal
          have source : record ∈ contractSource disk request := by
            rw [contractSource, absent]
            exact found
          have identified : record.get "id" = .str request.taskId := by
            split at found
            · exact archivedRecord_id found
            · cases found
          obtain ⟨safe, _⟩ := allowed record source matched
          have notActive : Json.str request.taskId ∉ disk.active.map fun other => other.get "id" := by
            intro member
            obtain ⟨other, present, same⟩ := List.mem_map.mp member
            exact List.find?_eq_none.mp absent other present ((hasId_iff _ _).mpr same)
          apply (board.forget request.taskId).publish
          · exact fun terminal => nonTerminal (terminalStatus_text terminal)
          · rw [← identified] at safe
            rw [applyContract_id]
            rcases updated_id safe with kept | unused
            · rw [kept, identified]
              refine ⟨notActive, ?_⟩
              change (disk.terminalIndex.erase request.taskId).get? request.taskId = none
              rw [Dict.get?_erase, if_pos rfl]
            · exact ⟨unused.1, unindexed_erase _ unused.2⟩

theorem compareAndUpdateFields_board (board : Board disk)
    {taskId expectedAuthorityRevision : String}
    (allowed : (Operation.compareAndUpdateFields clock taskId expectedAuthorityRevision
      updates).Allowed disk) :
    Board (compareAndUpdateFields clock taskId expectedAuthorityRevision updates disk).2 := by
  unfold compareAndUpdateFields
  split
  · exact board
  split
  · exact board
  rename_i before record after found
  obtain ⟨located, first⟩ := locate_some found
  have matched := List.find?_some first
  have identified := (hasId_iff _ _).mp matched
  split
  · exact board
  rename_i sameRevision
  dsimp only
  split
  · exact board.retire located identified _ _
  · rename_i active
    have nonTerminal : ¬ TerminalStatus (Record.get (record.update updates) "status") :=
      fun terminal => active (terminalStatus_text terminal)
    have safe := allowed record (mem_of_located located) matched (not_not.mp sameRevision)
    apply board.rewrite located nonTerminal
    apply updated_id
    rw [identified]
    refine safe.resolve_right ?_
    rintro ⟨status, given, terminal⟩
    rw [get_update, show updates.get? "status" = some status from given] at nonTerminal
    exact nonTerminal terminal

theorem patchContract_get {changed : Record} (patched : patchContract record updates = .ok changed)
    (different : key ≠ "contract") : changed.get key = record.get key := by
  unfold patchContract at patched
  cases loaded : dictOf (record.get "contract") with
  | error error =>
      rw [loaded] at patched
      cases patched
  | ok contract =>
      rw [loaded] at patched
      change (updates.entries.foldlM patchField contract >>= fun merged =>
        pure (record.insert "contract" (Json.ofDict merged))) = .ok changed at patched
      cases folded : updates.entries.foldlM patchField contract with
      | error error =>
          rw [folded] at patched
          cases patched
      | ok merged =>
          rw [folded] at patched
          cases patched
          exact get_insert_ne record _ different

theorem patchContractFields_board (board : Board disk) (clock : Clock)
    (taskId : String) (updates : Record) :
    Board (patchContractFields clock taskId updates disk).2 := by
  unfold patchContractFields
  split
  · exact board
  split
  · exact board
  split
  · exact board
  rename_i before record after found
  obtain ⟨located, _⟩ := locate_some found
  split
  · exact board
  · rename_i changed patched
    apply board.rewrite located
    · rw [patchContract_get patched (by decide)]
      exact board.nonTerminal record (mem_of_located located)
    · left
      exact patchContract_get patched (by decide)

/-- A task that `ensure` creates reads its fields from the keyword arguments first. -/
theorem construct_get {title : String} {created : Record}
    (constructed : construct "Task" (taskDefaults clock)
      ([("title", .str title), ("key", .str key)] ++ kwargs.entries) = .ok created)
    {name : String} (notTitle : name ≠ "title") (notKey : name ≠ "key") :
    created.get name =
      (kwargs.get? name).getD (Record.get (Dict.ofEntries (taskDefaults clock)) name) := by
  unfold construct at constructed
  split at constructed
  · cases constructed
  · cases constructed
    have split : (Dict.ofEntries (taskDefaults clock)).insertAll
        ([("title", .str title), ("key", .str key)] ++ kwargs.entries) =
        (((Dict.ofEntries (taskDefaults clock)).insert "title" (.str title)).insert
          "key" (.str key)).update kwargs := by
      rw [Dict.insertAll, List.foldl_append]
      rfl
    rw [split, get_update, get_insert_ne _ _ notKey, get_insert_ne _ _ notTitle]

theorem construct_known {title : String} {created : Record}
    (constructed : construct "Task" (taskDefaults clock)
      ([("title", .str title), ("key", .str key)] ++ kwargs.entries) = .ok created) :
    KnownFields clock kwargs := by
  unfold construct at constructed
  split at constructed
  · cases constructed
  · rename_i known
    intro name member
    obtain ⟨entry, present, rfl⟩ := List.mem_map.mp member
    have inside := List.find?_eq_none.mp known entry (List.mem_append_right _ present)
    simpa using inside

theorem taskDefaults_distinct (clock : Clock) : ((taskDefaults clock).map Prod.fst).Nodup := by
  simp [taskDefaults]

theorem taskDefaults_id (clock : Clock) :
    (Dict.find "id" (taskDefaults clock)).getD .null = .str clock.newTaskId := by
  simp [taskDefaults, Dict.find]

theorem ensure_board (board : Board disk) {title : String}
    (allowed : (Operation.ensure clock key title kwargs).Allowed disk) :
    Board (ensure clock key title kwargs disk).2 := by
  unfold ensure
  split
  · exact board
  split
  · rename_i before record after found
    obtain ⟨located, first⟩ := locate_some found
    obtain ⟨keeps, safe⟩ := allowed.1 record first
    have idKept : Record.get (record.insert "title" (.str title)) "id" = record.get "id" :=
      get_insert_ne record _ (by decide)
    have statusKept :
        Record.get (record.insert "title" (.str title)) "status" = record.get "status" :=
      get_insert_ne record _ (by decide)
    apply board.rewrite located
    · apply updated_status _ keeps
      rw [statusKept]
      exact board.nonTerminal record (mem_of_located located)
    · rw [← idKept] at safe ⊢
      exact updated_id safe
  · rename_i missing
    split
    · exact board
    · rename_i created constructed
      obtain ⟨keeps, unused⟩ := allowed.2 (locate_none missing) (construct_known constructed)
      apply board.publish
      · rw [construct_get constructed (by decide) (by decide),
          get_ofEntries (taskDefaults_distinct clock)]
        cases given : kwargs.get? "status" with
        | none =>
            change ¬ TerminalStatus ((Dict.find "status" (taskDefaults clock)).getD .null)
            simp [taskDefaults, Dict.find, TerminalStatus, terminalStates]
        | some status => exact fun terminal => keeps ⟨status, given, terminal⟩
      · rw [construct_get constructed (by decide) (by decide),
          get_ofEntries (taskDefaults_distinct clock), taskDefaults_id]
        exact unused

theorem step_board (board : Board disk) {operation : Operation}
    (allowed : operation.Allowed disk) : Board (step disk operation) := by
  cases operation with
  | add task => exact add_board board allowed.1 allowed.2
  | addMany tasks => exact addMany_board board allowed
  | reopen task => exact reopen_board board task
  | update clock taskId kwargs => exact update_board board allowed
  | compareAndUpdateContract clock request => exact compareAndUpdateContract_board board allowed
  | compareAndUpdateFields clock taskId expectedAuthorityRevision updates =>
      exact compareAndUpdateFields_board board allowed
  | patchContractFields clock taskId updates =>
      exact patchContractFields_board board clock taskId updates
  | ensure clock key title kwargs => exact ensure_board board allowed

/-- Every state that a run of allowed calls reaches satisfies the board invariant. -/
theorem run_board {operations reached : List Operation}
    (allowed : Runs.Along step (fun disk operation => operation.Allowed disk)
      Disk.empty operations)
    (passed : reached <+: operations) : Board (Runs.run step Disk.empty reached) := by
  obtain ⟨remaining, rfl⟩ := passed
  exact allowed.initial.invariant Board
    (fun _ _ board admitted => step_board board admitted) board_empty

def sampleClock : Clock where
  today := "2026-07-09"
  now := "2026-07-09T08:00:00+00:00"
  newTaskId := "TASK-00A1B2"

/-- A task is finished and reopened while a keyed one is created and moved on. -/
def boardRun : List Operation :=
  [.add { id := "T1", key := "K1" },
    .update sampleClock "T1" (Dict.ofEntries [("status", .str "done")]),
    .ensure sampleClock "K2" "second" (Dict.ofEntries [("blocked_by", .arr [.str "T1"])]),
    .reopen { id := "T1", key := "K1" },
    .compareAndUpdateFields sampleClock "TASK-00A1B2" ""
      (Dict.ofEntries [("status", .str "in_progress")])]

theorem boardRun_board : Board (Runs.run step Disk.empty boardRun) := by
  have allowed : Runs.Along step (fun disk operation => operation.Allowed disk)
      Disk.empty boardRun := by
    decide +kernel
  exact run_board allowed ⟨[], List.append_nil boardRun⟩

/-- New tasks are not terminal and have fresh ids; every other call is free. -/
def Operation.AddsFresh (disk : Disk) : Operation → Prop
  | .add task => task.status ∉ terminalStates ∧ Unused disk (.str task.id)
  | .addMany tasks => ∀ task ∈ tasks,
      task.status ∉ terminalStates ∧ Unused disk (.str task.id)
  | _ => True

/-- `ensure` can finish a task and leave it on the board. -/
theorem ensure_leaves_terminal :
    ∃ operations, Runs.Along step (fun disk operation => operation.AddsFresh disk)
        Disk.empty operations ∧ ¬ Board (Runs.run step Disk.empty operations) := by
  let finish : Record := Dict.ofEntries [("status", .str "done")]
  refine ⟨[.add { id := "T1", key := "K1" }, .ensure sampleClock "K1" "first" finish],
    ⟨⟨by decide, by decide⟩, trivial, trivial⟩, ?_⟩
  intro board
  have done : ∃ record ∈ (Runs.run step Disk.empty [.add { id := "T1", key := "K1" },
      .ensure sampleClock "K1" "first" finish]).active, TerminalStatus (record.get "status") := by
    decide +kernel
  obtain ⟨record, member, terminal⟩ := done
  exact board.nonTerminal record member terminal

end ZaofuFormal.Tasks
