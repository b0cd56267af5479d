import ZaofuFormal.Tasks.AuthorityChain
import ZaofuFormal.Tasks.ChangeRequest

/-!
# The outcome of a change request under crashes

A request is processed any number of times, and each attempt may crash after any
of its writes.  The applied event is appended after the compare-and-update, and
a later attempt knows of an applied request through that event alone.  A crash
between the two lets the next attempt reject a request that has been carried
out; if no attempt crashes there, a request has one outcome.
-/

namespace ZaofuFormal.Tasks

open Foundation Foundation.Runs Workflow

/-- The files, and whether an attempt of the request has changed the contract. -/
structure Processing where
  disk : Disk
  log : Log
  written : Bool

def Processing.perform (service : AuthorityService) (clock : Clock) (state : Processing) :
    Write → Processing
  | .event draft => { state with log := (service.writer.append draft state.log).2 }
  | .contract update =>
      { state with
        disk := (compareAndUpdateContract clock update state.disk).2
        written := state.written || contractApplies update state.disk }
  | .fields taskId expected updates =>
      { state with disk := (compareAndUpdateFields clock taskId expected updates state.disk).2 }

section Perform

variable (service : AuthorityService) (clock : Clock) (state : Processing)

@[simp] theorem perform_event_disk (draft : Draft) :
    (state.perform service clock (.event draft)).disk = state.disk := rfl

@[simp] theorem perform_contract_disk (update : ContractUpdate) :
    (state.perform service clock (.contract update)).disk =
      (compareAndUpdateContract clock update state.disk).2 := rfl

@[simp] theorem perform_contract_log (update : ContractUpdate) :
    (state.perform service clock (.contract update)).log = state.log := rfl

@[simp] theorem perform_contract_written (update : ContractUpdate) :
    (state.perform service clock (.contract update)).written =
      (state.written || contractApplies update state.disk) := rfl

end Perform

/-- One attempt, at some time, that ends after at most so many writes. -/
structure Attempt where
  clock : Clock
  writes : Nat

def Processing.attempt (service : AuthorityService) (event : ZfEvent) (state : Processing)
    (attempt : Attempt) : Processing :=
  ((changeWrites service attempt.clock event state.disk state.log).take attempt.writes).foldl
    (Processing.perform service attempt.clock) state

def Processing.start (disk : Disk) (log : Log) : Processing := ⟨disk, log, false⟩

/-- The attempt ends right after its compare-and-update has changed the contract. -/
def Torn (service : AuthorityService) (event : ZfEvent) (state : Processing) (attempt : Attempt) :
    Prop :=
  attempt.writes = 2 ∧ ∃ update,
    .contract update ∈ changeWrites service attempt.clock event state.disk state.log ∧
      contractApplies update state.disk = true

/-- The log records the request as rejected. -/
def Rejected (requestId : String) (log : Log) : Prop :=
  ∃ event ∈ log, outcomeOf requestId event = some .rejected

variable {disk : Disk} {hash : RevisionHash} {task : Record}

theorem prepare_contract {clock : Clock} {request : ReplaceRequest} {update : ContractUpdate}
    (prepared : prepare hash clock request disk = .ok (.contract update)) :
    ∃ current, get clock request.taskId disk = .ok (some current) ∧
      update.taskId = request.taskId ∧ update.reopenTerminal = request.reopenTerminal ∧
      update.executionBinding = request.executionBinding.resolve current ∧
      update.taskUpdates = effectiveTaskUpdates current request.taskUpdates := by
  unfold prepare at prepared
  split at prepared
  case h_1 => cases prepared
  case h_2 => cases prepared
  case h_3 current found =>
    simp only at prepared
    split at prepared
    case isTrue => cases prepared
    case isFalse =>
      split at prepared
      case h_1 => cases prepared
      case h_2 =>
        split at prepared
        case isTrue => split at prepared <;> cases prepared
        case isFalse =>
          cases prepared
          exact ⟨current, found, rfl, rfl, rfl, rfl⟩

/-- A replace without further updates never writes plain fields. -/
theorem prepare_ne_fields {clock : Clock} {request : ReplaceRequest}
    (plain : request.taskUpdates = Dict.empty) (updates : Record) :
    prepare hash clock request disk ≠ .ok (.fields updates) := by
  intro prepared
  unfold prepare at prepared
  split at prepared
  case h_1 => cases prepared
  case h_2 => cases prepared
  case h_3 current found =>
    simp only [plain] at prepared
    split at prepared
    case isTrue => cases prepared
    case isFalse =>
      split at prepared
      case h_1 => cases prepared
      case h_2 =>
        split at prepared
        case isTrue => cases prepared
        case isFalse => cases prepared

theorem bindingReads_insertAll {entries : List (String × Json)} {base : Record}
    (known : ∀ key ∈ base.keys, key ∈ bindingFields.map Prod.fst)
    (given : ∀ entry ∈ entries, entry.1 ∈ bindingFields.map Prod.fst) :
    bindingReads (Json.ofDict (base.insertAll entries)) := by
  intro entry member
  have present : entry.1 ∈ (base.insertAll entries).keys := List.mem_map.mpr ⟨entry, member, rfl⟩
  rcases (Dict.mem_keys_insertAll entries base entry.1).mp present with old | new
  · exact known entry.1 old
  · obtain ⟨other, inside, same⟩ := List.mem_map.mp new
    exact same ▸ given other inside

theorem bindingReads_ofEntries {entries : List (String × Json)}
    (given : ∀ entry ∈ entries, entry.1 ∈ bindingFields.map Prod.fst) :
    bindingReads (Json.ofDict (Dict.ofEntries entries)) :=
  bindingReads_insertAll (fun _ member => absurd member List.not_mem_nil) given

theorem readBinding_reads {value : Json} {binding : Record}
    (read : readBinding value = .ok binding) : bindingReads (Json.ofDict binding) := by
  have defaults : ∀ key ∈ (Dict.ofEntries bindingFields).keys, key ∈ bindingFields.map Prod.fst := by
    decide
  have known := (readBinding_ok_iff value).mp ⟨binding, read⟩
  unfold readBinding at read
  split at read
  · unfold construct at read
    split at read
    · cases read
    · cases read
      exact bindingReads_insertAll defaults known
  · cases read
    exact bindingReads_ofEntries fun entry member => List.mem_map.mpr ⟨entry, member, rfl⟩

theorem toTask_binding {clock : Clock} {data : Record} (rebuilt : toTask clock data = .ok task) :
    bindingReads (task.get "execution_binding") := by
  rw [toTask_eq] at rebuilt
  obtain ⟨binding, read, rebuilt⟩ := Fallible.bind_eq_ok rebuilt
  obtain ⟨evidence, _, constructed⟩ := Fallible.bind_eq_ok rebuilt
  unfold construct at constructed
  split at constructed
  · cases constructed
  · cases constructed
    rw [taskArguments, Dict.insertAll, List.foldl_append]
    simp only [List.foldl_cons, List.foldl_nil]
    rw [get_insert_ne _ _ (by decide), Record.get, Dict.get?_insert_self]
    exact readBinding_reads read

/-- The binding that a caller names by a mapping or not at all has no unknown field. -/
theorem resolve_reads {clock : Clock} {data : Record} (rebuilt : toTask clock data = .ok task)
    (argument : BindingArgument) (plain : ∀ value, argument ≠ .binding value) :
    bindingReads (Json.ofDict (argument.resolve task)) := by
  have defaults : ∀ key ∈ (Dict.ofEntries bindingFields).keys, key ∈ bindingFields.map Prod.fst := by
    decide
  cases argument with
  | binding value => exact absurd rfl (plain value)
  | mapping value =>
      refine bindingReads_insertAll defaults fun entry member => ?_
      exact of_decide_eq_true (List.mem_filter.mp member).2
  | absent =>
      simp only [BindingArgument.resolve, taskExecutionBinding]
      split
      · exact bindingReads_ofEntries (toTask_binding rebuilt)
      · refine bindingReads_ofEntries fun entry member => ?_
        simp only [List.mem_cons, List.not_mem_nil, or_false] at member
        rcases member with rfl | rfl | rfl | rfl | rfl | rfl
        all_goals simp [bindingFields]

/-- Without reopening, an applied update rewrites the active record. -/
theorem applied_active (clock : Clock) {update : ContractUpdate}
    (closed : update.reopenTerminal = false) (keepsId : update.taskUpdates.get? "id" = none)
    (applies : contractApplies update disk = true) :
    ∃ record, disk.active.find? (hasId update.taskId) = some record ∧
      (compareAndUpdateContract clock update disk).2.active.find? (hasId update.taskId) =
        some (applyContract update record) ∧
      (compareAndUpdateContract clock update disk).1 =
        (toTask clock (applyContract update record)).map fun task => (some task, true) := by
  unfold contractApplies at applies
  unfold compareAndUpdateContract
  split
  case h_1 before record after found =>
    obtain ⟨earlier, hit⟩ := locate_before found
    have first := (locate_some found).2
    have matched : contractMatches update record = .ok true := by
      cases compared : contractMatches update record with
      | error error => simp [first, compared] at applies
      | ok answer => simpa [first, compared] using applies
    have sameId : hasId update.taskId (applyContract update record) = true := by
      rw [hasId_iff, applyContract_id, get_update, keepsId]
      exact (hasId_iff _ _).mp hit
    refine ⟨record, first, ?_, ?_⟩
    · simp only [matched]
      exact find?_append_cons earlier sameId
    · simp only [matched]
  case h_2 missing =>
    rw [locate_none missing] at applies
    simp [closed] at applies

/-- The contract of a change request, once it is applied, is on the board and reads
back at any time. -/
theorem applied_reads {clock : Clock} {event : ZfEvent} {update : ContractUpdate}
    (prepared : prepare hash clock (changeReplace event) disk = .ok (.contract update))
    (applies : contractApplies update disk = true) :
    ∃ record, (compareAndUpdateContract clock update disk).2.active.find?
        (hasId (changeTaskId event)) = some (applyContract update record) ∧
      (∀ later, ∃ task, toTask later (applyContract update record) = .ok task) ∧
      ∃ task, (compareAndUpdateContract clock update disk).1 = .ok (some task, true) := by
  obtain ⟨current, found, target, reopens, bound, further⟩ := prepare_contract prepared
  have target : update.taskId = changeTaskId event := target
  have noUpdates : update.taskUpdates = Dict.empty := further
  obtain ⟨record, active, landed, result⟩ :=
    applied_active clock reopens (by rw [noUpdates]; rfl) applies
  have rebuilt : toTask clock record = .ok current := by
    rw [target] at active
    simp only [changeReplace, get, active] at found
    cases read : toTask clock record with
    | error error =>
        rw [read] at found
        cases found
    | ok task =>
        rw [read] at found
        cases found
        rfl
  have plain : ∀ value, (changeReplace event).executionBinding ≠ .binding value := by
    intro value
    unfold changeReplace
    simp only
    split <;> exact fun impossible => by cases impossible
  have reads := toTask_applyContract rebuilt
    (bound ▸ resolve_reads rebuilt _ plain) (by rw [noUpdates]; rfl)
  obtain ⟨task, read⟩ := reads clock
  exact ⟨record, target ▸ landed, reads, task, by rw [result, read]; rfl⟩

section Outcomes

variable {requestId : String}

theorem changeRequestOutcome_append (named : requestId ≠ "") (log : Log) (event : ZfEvent) :
    changeRequestOutcome requestId (log ++ [event]) =
      (outcomeOf requestId event).or (changeRequestOutcome requestId log) := by
  simp only [changeRequestOutcome, if_neg named, List.reverse_append, List.reverse_singleton,
    List.singleton_append, List.findSome?_cons]
  cases outcomeOf requestId event <;> rfl

theorem rejected_append (log : Log) (event : ZfEvent) :
    Rejected requestId (log ++ [event]) ↔
      Rejected requestId log ∨ outcomeOf requestId event = some .rejected := by
  simp [Rejected, or_and_right, exists_or]

theorem Rejected.outcome_ne_none (named : requestId ≠ "") {log : Log}
    (rejected : Rejected requestId log) : changeRequestOutcome requestId log ≠ none := by
  obtain ⟨event, member, recorded⟩ := rejected
  rw [changeRequestOutcome, if_neg named]
  intro missing
  have silent := List.findSome?_eq_none_iff.mp missing event (List.mem_reverse.mpr member)
  rw [recorded] at silent
  cases silent

/-- The outcome that an event records depends on its type and payload alone. -/
def Draft.outcome (requestId : String) (draft : Draft) : Option Outcome :=
  outcomeOf requestId { type := draft.type, id := "", ts := "", payload := draft.payload }

theorem outcomeOf_enrich (writer : Writer) (log : Log) (draft : Draft) :
    outcomeOf requestId (draft.enrich writer log) = Draft.outcome requestId draft := rfl

end Outcomes

section Drafts

variable (event : ZfEvent) (update : ContractUpdate) (descriptor : Descriptor)
  (causationId : String)

/-- The outcome of an emitted event, read off its type and its payload. -/
theorem emit_outcome (requestId type taskId : String) (payload : Record)
    (actor correlationId : String) :
    Draft.outcome requestId (emit type taskId payload actor causationId correlationId) =
      if Json.text (payload.get "change_request_event_id") ≠ requestId then none
      else if type = "task.contract.revision.applied" then some .applied
      else if type = "task.contract.change.rejected" then some .rejected
      else none := rfl

theorem requestRejectedDraft_outcome (reason actual : String) :
    Draft.outcome event.id (requestRejectedDraft event reason actual) = some .rejected := by
  rw [requestRejectedDraft, emit_outcome, if_neg, if_neg (by decide), if_pos rfl]
  exact not_not.mpr (Json.text_str event.id)

theorem appliedDraft_outcome :
    Draft.outcome event.id (receiptDraft "task.contract.revision.applied" "applied"
      (changeReplace event) update descriptor causationId) = some .applied := by
  rw [receiptDraft, emit_outcome, if_neg, if_pos rfl]
  rw [get_insert_ne _ _ (by decide), get_update]
  exact not_not.mpr (Json.text_str event.id)

/-- Only the applied event and a rejection can record an outcome. -/
theorem emit_outcome_of_type {requestId type : String}
    (applied : type ≠ "task.contract.revision.applied")
    (rejected : type ≠ "task.contract.change.rejected") (taskId : String) (payload : Record)
    (actor correlationId : String) :
    Draft.outcome requestId (emit type taskId payload actor causationId correlationId) = none := by
  rw [emit_outcome, if_neg applied, if_neg rejected, ite_self]

/-- A refused replace records no outcome of the request. -/
theorem rejectedDraft_outcome {requestId : String} (named : requestId ≠ "")
    (request : ReplaceRequest) (actual attempted : String) (descriptor : Option Descriptor) :
    Draft.outcome requestId (rejectedDraft request actual causationId attempted descriptor) =
      none := by
  rw [rejectedDraft, emit_outcome, if_pos]
  exact fun same => named same.symm

end Drafts

/-- The request names a task that is on the board. -/
def Present (event : ZfEvent) (disk : Disk) : Prop :=
  changeTaskId event ≠ "" ∧ (disk.active.find? (hasId (changeTaskId event))).isSome = true

/-- The writes of an attempt that gets to its compare-and-update. -/
structure Changing (service : AuthorityService) (clock : Clock) (event : ZfEvent) (disk : Disk)
    (update : ContractUpdate) (writes : List Write) : Prop where
  named : changeTaskId event ≠ ""
  prepared : prepare service.hash clock (changeReplace event) disk = .ok (.contract update)
  shape : ∃ first tail, writes = .event first :: .contract update :: tail ∧
    Draft.outcome event.id first = none ∧
    ((contractApplies update disk = true ∧ ∃ applied receipt,
        tail = [.event applied, .event receipt] ∧
        Draft.outcome event.id applied = some .applied ∧ Draft.outcome event.id receipt = none) ∨
      (contractApplies update disk = false ∧ (tail = [] ∨ ∃ refused,
        tail = [.event refused] ∧ Draft.outcome event.id refused = none)))

theorem replaceWrites_cases {service : AuthorityService} {clock : Clock} {event : ZfEvent}
    (log : Log) (identified : event.id ≠ "") (named : changeTaskId event ≠ "") :
    replaceWrites service clock (changeReplace event) disk log = [] ∨
    (∃ draft, replaceWrites service clock (changeReplace event) disk log = [.event draft] ∧
      Draft.outcome event.id draft = none) ∨
    ∃ update, Changing service clock event disk update
      (replaceWrites service clock (changeReplace event) disk log) := by
  have silent := fun causationId => rejectedDraft_outcome causationId identified
    (changeReplace event)
  unfold replaceWrites
  split
  case h_1 => exact .inl rfl
  case h_2 => exact .inr (.inl ⟨_, rfl, silent _ _ _ _⟩)
  case h_3 => exact .inl rfl
  case h_4 updates prepared => exact absurd prepared (prepare_ne_fields rfl updates)
  case h_5 update prepared =>
    refine .inr (.inr ⟨update, named, prepared, _, _, rfl,
      emit_outcome_of_type _ (by decide) (by decide) _ _ _ _, ?_⟩)
    cases applies : contractApplies update disk with
    | true =>
        obtain ⟨_, _, _, task, result⟩ := applied_reads prepared applies
        rw [result]
        exact .inl ⟨rfl, _, _, rfl, appliedDraft_outcome event update _ _,
          emit_outcome_of_type _ (by decide) (by decide) _ _ _ _⟩
    | false =>
        refine .inr ⟨rfl, ?_⟩
        have refused := (compareAndUpdateContract_refused clock applies).2
        split
        case h_1 task applied => exact absurd applied (refused (some task))
        case h_2 => exact .inr ⟨_, rfl, silent _ _ _ _⟩
        case h_3 => exact .inl rfl

theorem changeWrites_cases {service : AuthorityService} {clock : Clock} {event : ZfEvent}
    (disk : Disk) (log : Log) (identified : event.id ≠ "") :
    changeWrites service clock event disk log = [] ∨
    (∃ draft, changeWrites service clock event disk log = [.event draft] ∧
      (Draft.outcome event.id draft = none ∨
        Draft.outcome event.id draft = some .rejected ∧
          (changeRequestOutcome event.id log = none ∨ ¬Present event disk))) ∨
    (changeRequestOutcome event.id log = none ∧ ∃ update,
      Changing service clock event disk update (changeWrites service clock event disk log)) := by
  unfold changeWrites
  split
  case h_1 => exact .inl rfl
  case h_2 read =>
    rename_i task
    have absent : task = none → ¬Present event disk := by
      rintro rfl ⟨named, active⟩
      rw [if_neg named] at read
      obtain ⟨record, found⟩ := Option.isSome_iff_exists.mp active
      simp only [get, found] at read
      cases rebuilt : toTask clock record <;> rw [rebuilt] at read <;> cases read
    split
    case h_1 => exact .inl rfl
    case h_2 => exact .inl rfl
    case h_3 notRejected notApplied =>
      rename_i task _ _
      have fresh : changeRequestOutcome event.id log = none ∨ task = none := by
        cases outcome : changeRequestOutcome event.id log with
        | none => exact .inl rfl
        | some recorded =>
            right
            cases recorded with
            | rejected => exact absurd outcome notRejected
            | applied =>
                cases task with
                | none => rfl
                | some found => exact absurd rfl (notApplied found outcome)
      cases refusal : changeRefusal service event task with
      | some reason =>
          exact .inr (.inl ⟨_, rfl, .inr ⟨requestRejectedDraft_outcome event reason _,
            fresh.imp_right absent⟩⟩)
      | none =>
          have known : task ≠ none := by
            rintro rfl
            cases refusal
          have named : changeTaskId event ≠ "" := by
            intro unnamed
            rw [if_pos unnamed] at read
            exact known (Except.ok.inj read).symm
          rcases replaceWrites_cases log identified named with none | ⟨draft, one, quiet⟩ | changing
          · exact .inl none
          · exact .inr (.inl ⟨draft, one, .inl quiet⟩)
          · exact .inr (.inr ⟨fresh.resolve_right known, changing⟩)

/-- What holds after every attempt of an untorn run. -/
structure Consistent (event : ZfEvent) (start : Disk) (state : Processing) : Prop where
  written : state.written = true →
    changeRequestOutcome event.id state.log = some .applied ∧ Present event state.disk
  rejected : Rejected event.id state.log → state.written = false
  unchanged : state.written = false → state.disk = start

theorem perform_outcome (service : AuthorityService) (clock : Clock) {event : ZfEvent}
    (identified : event.id ≠ "") (draft : Draft) (state : Processing) :
    changeRequestOutcome event.id (state.perform service clock (.event draft)).log =
      (Draft.outcome event.id draft).or (changeRequestOutcome event.id state.log) := by
  simp only [Processing.perform, Writer.append, changeRequestOutcome_append identified,
    outcomeOf_enrich]

namespace Consistent

variable (service : AuthorityService) (clock : Clock) {event : ZfEvent} {start : Disk}
  {state : Processing}

theorem unwritten (consistent : Consistent event start state)
    (fresh : changeRequestOutcome event.id state.log = none) : state.written = false := by
  by_contra written
  rw [(consistent.written (Bool.not_eq_false _ ▸ written)).1] at fresh
  cases fresh

/-- An event without an outcome changes nothing. -/
theorem quiet (consistent : Consistent event start state) (identified : event.id ≠ "")
    {draft : Draft} (silent : Draft.outcome event.id draft = none) :
    Consistent event start (state.perform service clock (.event draft)) := by
  have outcome := perform_outcome service clock identified draft state
  rw [silent, Option.none_or] at outcome
  refine ⟨fun written => ?_, fun rejected => consistent.rejected ?_, consistent.unchanged⟩
  · rw [outcome]
    exact consistent.written written
  · simp only [Processing.perform, Writer.append, rejected_append, outcomeOf_enrich, silent]
      at rejected
    exact rejected.resolve_right fun impossible => by cases impossible

/-- A rejection of a request that has changed nothing. -/
theorem reject (consistent : Consistent event start state) {draft : Draft}
    (unwritten : state.written = false) :
    Consistent event start (state.perform service clock (.event draft)) :=
  ⟨fun written => absurd (unwritten.symm.trans written) Bool.false_ne_true,
    fun _ => unwritten, consistent.unchanged⟩

/-- A refused compare-and-update changes nothing. -/
theorem refuse (consistent : Consistent event start state) {update : ContractUpdate}
    (refused : contractApplies update state.disk = false) :
    Consistent event start (state.perform service clock (.contract update)) := by
  have same : state.perform service clock (.contract update) = state := by
    simp only [Processing.perform, (compareAndUpdateContract_refused clock refused).1, refused,
      Bool.or_false]
  rw [same]
  exact consistent

/-- The applied event that follows an applied compare-and-update settles the request. -/
theorem of_applied (identified : event.id ≠ "")
    (fresh : changeRequestOutcome event.id state.log = none) {update : ContractUpdate}
    {applied : Draft}
    (prepared : prepare service.hash clock (changeReplace event) state.disk =
      .ok (.contract update))
    (named : changeTaskId event ≠ "") (applies : contractApplies update state.disk = true)
    (records : Draft.outcome event.id applied = some .applied) :
    Consistent event start ((state.perform service clock (.contract update)).perform service clock
      (.event applied)) := by
  obtain ⟨record, landed, _⟩ := applied_reads prepared applies
  refine ⟨fun _ => ⟨?_, named, Option.isSome_iff_exists.mpr ⟨_, landed⟩⟩, fun rejected => ?_, fun unwritten => ?_⟩
  · rw [perform_outcome service clock identified, records, Option.some_or]
  · simp only [Processing.perform, Writer.append, rejected_append, outcomeOf_enrich, records]
      at rejected
    rcases rejected with earlier | impossible
    · exact absurd fresh (earlier.outcome_ne_none identified)
    · cases impossible
  · simp only [Processing.perform, applies, Bool.or_true] at unwritten
    cases unwritten

theorem attempt (consistent : Consistent event start state) (identified : event.id ≠ "")
    {attempt : Attempt} (intact : ¬Torn service event state attempt) :
    Consistent event start (state.attempt service event attempt) := by
  obtain ⟨clock, writes⟩ := attempt
  rw [Processing.attempt]
  rcases changeWrites_cases state.disk state.log identified with
    none | ⟨draft, one, records⟩ | ⟨fresh, update, changing⟩
  · rw [none, List.take_nil]
    exact consistent
  · rw [one]
    cases writes with
    | zero => exact consistent
    | succ more =>
        rw [List.take_succ_cons, List.take_nil]
        rcases records with silent | ⟨_, unsettled⟩
        · exact consistent.quiet service clock identified silent
        · refine consistent.reject service clock ?_
          by_contra written
          obtain ⟨applied, present⟩ := consistent.written (Bool.not_eq_false _ ▸ written)
          rcases unsettled with fresh | absent
          · rw [applied] at fresh
            cases fresh
          · exact absent present
  · obtain ⟨first, tail, shape, silent, tails⟩ := changing.shape
    have begun := consistent.quiet service clock identified silent
    have unsettled := perform_outcome service clock identified first state
    rw [silent, Option.none_or, fresh] at unsettled
    simp only at shape ⊢
    rw [shape]
    -- the crash points: before the first event, after it, after the update, and later
    rcases writes with _ | _ | _ | more
    · exact consistent
    · exact begun
    · refine begun.refuse service clock ?_
      by_contra applies
      exact intact ⟨rfl, update, by rw [shape]; simp, Bool.not_eq_false _ ▸ applies⟩
    · rcases tails with ⟨applies, applied, receipt, rfl, records, quiet⟩ | ⟨refused, tails⟩
      · have settled : Consistent event start _ := of_applied service clock identified unsettled
          changing.prepared changing.named applies records
        cases more with
        | zero => exact settled
        | succ more =>
            rw [List.take_succ_cons, List.take_succ_cons, List.take_succ_cons, List.take_succ_cons,
              List.take_nil]
            exact settled.quiet service clock identified quiet
      · have unchanged := begun.refuse service clock refused
        rcases tails with rfl | ⟨draft, rfl, quiet⟩
        · exact unchanged
        · rw [List.take_succ_cons, List.take_succ_cons, List.take_succ_cons, List.take_nil]
          exact unchanged.quiet service clock identified quiet

end Consistent

/-- The request has been carried out, and no attempt will find out. -/
structure Stranded (event : ZfEvent) (state : Processing) : Prop where
  written : state.written = true
  named : changeTaskId event ≠ ""
  unsettled : changeRequestOutcome event.id state.log = none ∨ Rejected event.id state.log ∧
    changeRequestOutcome event.id state.log = some .rejected
  stale : ∃ record, state.disk.active.find? (hasId (changeTaskId event)) = some record ∧
    (∀ clock, ∃ task, toTask clock record = .ok task) ∧
    authorityRevision record ≠ strippedAt event.body "expected_authority_revision"

theorem currentAuthorityRevision_toTask {clock : Clock} {record : Record}
    (rebuilt : toTask clock record = .ok task) :
    currentAuthorityRevision task = authorityRevision record := by
  have read := toTask_get rebuilt (by decide : "contract_authority_revision" ∉ _)
  rw [get_ofEntries (taskDefaults_distinct clock)] at read
  rw [currentAuthorityRevision, read, authorityRevision, Record.get]
  cases record.get? "contract_authority_revision" <;> rfl

theorem changeRefusal_stale (service : AuthorityService) {event : ZfEvent}
    (stale : currentAuthorityRevision task ≠
      strippedAt event.body "expected_authority_revision") :
    ∃ reason, changeRefusal service event (some task) = some reason := by
  simp only [changeRefusal, if_pos (Ne.symm stale)]
  split
  · exact ⟨_, rfl⟩
  · split
    · exact ⟨_, rfl⟩
    · split <;> exact ⟨_, rfl⟩

/-- A stranded request is rejected by the next attempt, or has been rejected. -/
theorem Stranded.writes {event : ZfEvent} {state : Processing} (stranded : Stranded event state)
    (service : AuthorityService) (clock : Clock) :
    (changeWrites service clock event state.disk state.log = [] ∧
      Rejected event.id state.log) ∨
    (changeRequestOutcome event.id state.log = none ∧ ∃ reason actual,
      changeWrites service clock event state.disk state.log =
        [.event (requestRejectedDraft event reason actual)]) := by
  obtain ⟨record, active, reads, stale⟩ := stranded.stale
  obtain ⟨task, rebuilt⟩ := reads clock
  have read : get clock (changeTaskId event) state.disk = .ok (some task) := by
    simp only [get, active, rebuilt]
    rfl
  unfold changeWrites
  rw [if_neg stranded.named, read]
  rcases stranded.unsettled with fresh | ⟨rejected, recorded⟩
  · right
    rw [← currentAuthorityRevision_toTask rebuilt] at stale
    obtain ⟨reason, refusal⟩ := changeRefusal_stale service stale
    rw [fresh]
    exact ⟨rfl, reason, revisionOf (some task), by simp only [refusal]⟩
  · left
    rw [recorded]
    exact ⟨rfl, rejected⟩

theorem Stranded.attempt {event : ZfEvent} {state : Processing} (stranded : Stranded event state)
    (service : AuthorityService) (identified : event.id ≠ "") (attempt : Attempt) :
    Stranded event (state.attempt service event attempt) ∧
      (0 < attempt.writes → Rejected event.id (state.attempt service event attempt).log) := by
  obtain ⟨clock, writes⟩ := attempt
  rw [Processing.attempt]
  simp only
  rcases stranded.writes service clock with ⟨none, rejected⟩ | ⟨fresh, reason, actual, one⟩
  · rw [none, List.take_nil]
    exact ⟨stranded, fun _ => rejected⟩
  · rw [one]
    cases writes with
    | zero => exact ⟨stranded, fun impossible => absurd impossible (lt_irrefl 0)⟩
    | succ more =>
        rw [List.take_succ_cons, List.take_nil, List.foldl_cons, List.foldl_nil]
        have outcome := perform_outcome service clock identified
          (requestRejectedDraft event reason actual) state
        rw [requestRejectedDraft_outcome, Option.some_or] at outcome
        have rejected : Rejected event.id
            (state.perform service clock (.event (requestRejectedDraft event reason actual))).log := by
          simp only [Processing.perform, Writer.append, rejected_append, outcomeOf_enrich]
          exact .inr (requestRejectedDraft_outcome event reason actual)
        exact ⟨⟨stranded.written, stranded.named, .inr ⟨rejected, outcome⟩, stranded.stale⟩,
          fun _ => rejected⟩

/-- A torn attempt was about to record the first outcome of its request. -/
theorem Torn.changing {service : AuthorityService} {event : ZfEvent} {state : Processing}
    {attempt : Attempt} (torn : Torn service event state attempt) (identified : event.id ≠ "") :
    attempt.writes = 2 ∧ changeRequestOutcome event.id state.log = none ∧ ∃ update,
      Changing service attempt.clock event state.disk update
        (changeWrites service attempt.clock event state.disk state.log) ∧
      contractApplies update state.disk = true := by
  obtain ⟨two, other, member, applies⟩ := torn
  rcases changeWrites_cases state.disk state.log identified with
    none | ⟨draft, one, _⟩ | ⟨fresh, update, changing⟩
  · rw [none] at member
    cases member
  · rw [one] at member
    cases List.mem_singleton.mp member
  · obtain ⟨first, tail, shape, _, tails⟩ := changing.shape
    have same : other = update := by
      rw [shape] at member
      rcases tails with ⟨_, applied, receipt, rfl, _⟩ | ⟨_, rfl | ⟨refused, rfl, _⟩⟩
      all_goals simpa using member
    exact ⟨two, fresh, update, changing, same ▸ applies⟩

/-- A torn attempt strands its request. -/
theorem Torn.stranded {service : AuthorityService} {event : ZfEvent} {state : Processing}
    {attempt : Attempt} (torn : Torn service event state attempt) (identified : event.id ≠ "")
    (tracked : Tracked service.hash (changeTaskId event) state.disk) :
    Stranded event (state.attempt service event attempt) := by
  obtain ⟨two, fresh, update, changing, applies⟩ := torn.changing identified
  obtain ⟨clock, writes⟩ := attempt
  simp only at two changing
  subst two
  rw [Processing.attempt]
  simp only
  obtain ⟨first, tail, shape, silent, _⟩ := changing.shape
  rw [shape]
  obtain ⟨record, landed, reads, _⟩ := applied_reads changing.prepared applies
  obtain ⟨_, expected, mechanical, stamped, contract, binding, made⟩ :=
    @prepare_sound service.hash clock (changeReplace event) state.disk _ tracked changing.prepared
  have unsettled := perform_outcome service clock identified first state
  rw [silent, Option.none_or, fresh] at unsettled
  simp only [List.take_succ_cons, List.take_zero, List.foldl_cons, List.foldl_nil]
  refine ⟨?_, changing.named, .inl ?_, applyContract update record, ?_, reads, ?_⟩
  · rw [perform_contract_written, perform_event_disk, applies, Bool.or_true]
  · rw [perform_contract_log, unsettled]
  · rw [perform_contract_disk, perform_event_disk, landed]
  · -- the new revision was made with the next sequence number
    rw [(applyContract_revision mechanical record).1, made]
    intro same
    have later : Stamped service.hash (changeTaskId event)
        (changeReplace event).expectedRevision update.contractAuthoritySequence :=
      .inr ⟨contract, binding, same.symm⟩
    have sequences := stamped.sequence_eq later
    omega

/-- A request that was carried out is not recorded as rejected, and one that is
recorded as rejected has left the tasks alone. -/
def OneOutcome (event : ZfEvent) (start : Disk) (state : Processing) : Prop :=
  (state.written = true → ¬Rejected event.id state.log) ∧
    (Rejected event.id state.log → state.disk = start)

theorem Consistent.oneOutcome {event : ZfEvent} {start : Disk} {state : Processing}
    (consistent : Consistent event start state) : OneOutcome event start state :=
  ⟨fun written rejected =>
      absurd ((consistent.rejected rejected).symm.trans written) Bool.false_ne_true,
    fun rejected => consistent.unchanged (consistent.rejected rejected)⟩

theorem consistent_start (event : ZfEvent) (disk : Disk) (log : Log) :
    Consistent event disk (Processing.start disk log) :=
  ⟨fun written => absurd written Bool.false_ne_true, fun _ => rfl, fun _ => rfl⟩

/-- Whatever crashes have come before it, a replay that completes finds one outcome
exactly if none of the attempts before it was torn. -/
theorem change_request_one_outcome_iff {service : AuthorityService} {event : ZfEvent}
    (identified : event.id ≠ "") {disk : Disk} (log : Log)
    (tracked : Tracked service.hash (changeTaskId event) disk) (attempts : List Attempt) :
    (∀ replay : Attempt, 4 ≤ replay.writes →
      OneOutcome event disk (run (Processing.attempt service event) (Processing.start disk log)
        (attempts ++ [replay]))) ↔
      Along (Processing.attempt service event)
        (fun state attempt => ¬Torn service event state attempt) (Processing.start disk log)
        attempts := by
  have reached : ∀ {attempts : List Attempt}, Along (Processing.attempt service event)
      (fun state attempt => ¬Torn service event state attempt) (Processing.start disk log) attempts →
      Consistent event disk
        (run (Processing.attempt service event) (Processing.start disk log) attempts) :=
    fun along => along.invariant _
      (fun _ _ consistent intact => consistent.attempt service identified intact)
      (consistent_start event disk log)
  constructor
  · intro outcomes
    by_contra stopped
    -- the first torn attempt strands the request, and the replay rejects it
    obtain ⟨before, attempt, after, rfl, intact, torn⟩ := exists_of_not_along stopped
    have torn := not_not.mp torn
    have consistent := reached intact
    have unwritten := consistent.unwritten (torn.changing identified).2.1
    have stranded := torn.stranded identified ((consistent.unchanged unwritten).symm ▸ tracked)
    have later := run_invariant (Stranded event)
      (fun _ attempt stranded => (stranded.attempt service identified attempt).1) stranded after
    obtain ⟨final, rejected⟩ := later.attempt service identified ⟨attempt.clock, 4⟩
    have outcome := outcomes ⟨attempt.clock, 4⟩ le_rfl
    simp only [run_append, run_cons, run_nil] at outcome
    exact outcome.1 final.written (rejected (Nat.zero_lt_succ 3))
  · intro intact replay complete
    have last : ∀ state, ¬Torn service event state replay := by
      intro state torn
      have two := torn.1
      omega
    have all : Along (Processing.attempt service event)
        (fun state attempt => ¬Torn service event state attempt) (Processing.start disk log)
        (attempts ++ [replay]) :=
      (along_append _ _ _).mpr ⟨intact, last _, True.intro⟩
    exact (reached all).oneOutcome

def sampleService : AuthorityService where
  hash := sampleHash
  writer := { stamp := fun position =>
    ⟨"evt-" ++ String.ofList (List.replicate position 'i'), "2026-07-09T08:00:00+00:00",
      "trace-1"⟩ }
  sidecar := fun _ => ⟨"artifacts/task-contract-mutations/receipt.json", "receipt"⟩
  allowedActors := ["orchestrator"]

/-- The orchestrator hands the task over to a workflow. -/
def sampleRequest : ZfEvent where
  type := "task.contract.change.requested"
  id := "evt-request"
  ts := "2026-07-09T08:00:00+00:00"
  actor := some "orchestrator"
  taskId := some "TASK-CAS"
  payload := .obj [("contract", .obj [("behavior", .str "R2")]),
    ("execution_binding", .obj [("owner", .str "workflow")]),
    ("expected_authority_revision", .str "authority-r4594e377a87e2c7d154533a0"),
    ("source", .str "orchestrator_replan")]

theorem changeTaskId_sampleRequest : changeTaskId sampleRequest = "TASK-CAS" := by decide +kernel

theorem tracked_sampleRequest :
    Tracked sampleService.hash (changeTaskId sampleRequest) (Processing.start stampedDisk []).disk := by
  rw [changeTaskId_sampleRequest]
  exact tracked_stampedDisk

/-- A crash before the compare-and-update leaves the request to the replay. -/
theorem one_outcome_after_prepared :
    OneOutcome sampleRequest stampedDisk
      (run (Processing.attempt sampleService sampleRequest) (Processing.start stampedDisk [])
        ([⟨sampleClock, 1⟩] ++ [⟨sampleClock, 4⟩])) := by
  have identified : sampleRequest.id ≠ "" := by decide
  have intact : Along (Processing.attempt sampleService sampleRequest)
      (fun state attempt => ¬Torn sampleService sampleRequest state attempt)
      (Processing.start stampedDisk []) [⟨sampleClock, 1⟩] :=
    ⟨fun torn => absurd torn.1 (by decide), True.intro⟩
  exact (change_request_one_outcome_iff identified [] tracked_sampleRequest _).mpr intact
    ⟨sampleClock, 4⟩ le_rfl

theorem get_sampleRequest :
    get sampleClock (changeTaskId sampleRequest) stampedDisk = .ok (some stampedTask) := by
  rw [changeTaskId_sampleRequest]
  exact get_stampedDisk

theorem prepare_sampleRequest :
    ∃ update, prepare sampleService.hash sampleClock (changeReplace sampleRequest) stampedDisk =
        .ok (.contract update) ∧ contractApplies update stampedDisk = true := by
  have fresh : currentAuthorityRevision stampedTask =
      (changeReplace sampleRequest).expectedRevision := by decide +kernel
  obtain ⟨update, prepared, target, expected, _, unchecked⟩ :=
    @prepare_of_rebound sampleService.hash sampleClock (changeReplace sampleRequest) stampedDisk
      stampedTask 1 get_sampleRequest fresh (by decide +kernel) (by decide +kernel)
  have stamped : (changeReplace sampleRequest).expectedRevision ≠ "" := by
    rw [← fresh]
    decide +kernel
  have active : stampedDisk.active.find? (hasId update.taskId) = some stampedRecord := by
    rw [target, show (changeReplace sampleRequest).taskId = "TASK-CAS" from
      changeTaskId_sampleRequest]
    decide +kernel
  refine ⟨update, prepared, contractApplies_of_stamped active ?_ (unchecked stamped)⟩
  rw [expected, ← fresh]
  decide +kernel

/-- An accepted request without an outcome writes the contract that it prepares. -/
theorem contract_mem_changeWrites {service : AuthorityService} {clock : Clock} {event : ZfEvent}
    {log : Log} {update : ContractUpdate}
    (named : changeTaskId event ≠ "")
    (current : get clock (changeTaskId event) disk = .ok (some task))
    (unsettled : changeRequestOutcome event.id log = none)
    (accepted : changeRefusal service event (some task) = none)
    (prepared : prepare service.hash clock (changeReplace event) disk = .ok (.contract update)) :
    .contract update ∈ changeWrites service clock event disk log := by
  simp only [changeWrites, if_neg named, current, unsettled, accepted, replaceWrites, prepared]
  exact List.mem_cons_of_mem _ List.mem_cons_self

theorem torn_sample :
    Torn sampleService sampleRequest (Processing.start stampedDisk []) ⟨sampleClock, 2⟩ := by
  obtain ⟨update, prepared, applies⟩ := prepare_sampleRequest
  refine ⟨rfl, update, ?_, applies⟩
  have accepted : changeRefusal sampleService sampleRequest (some stampedTask) = none := by
    decide +kernel
  have named : changeTaskId sampleRequest ≠ "" := by
    rw [changeTaskId_sampleRequest]
    decide
  have unsettled : changeRequestOutcome sampleRequest.id [] = none := by decide
  exact contract_mem_changeWrites named get_sampleRequest unsettled accepted prepared

/-- The replay of a torn attempt rejects the request that was carried out. -/
theorem Torn.rejected_by_replay {service : AuthorityService} {event : ZfEvent} {state : Processing}
    {attempt later : Attempt} (torn : Torn service event state attempt) (identified : event.id ≠ "")
    (tracked : Tracked service.hash (changeTaskId event) state.disk) (writes : 0 < later.writes) :
    (run (Processing.attempt service event) state [attempt, later]).written = true ∧
      Rejected event.id (run (Processing.attempt service event) state [attempt, later]).log := by
  obtain ⟨final, rejected⟩ :=
    (torn.stranded identified tracked).attempt service identified later
  simp only [run_cons, run_nil]
  exact ⟨final.written, rejected writes⟩

/-- The attempt that changes the contract crashes before it has said so, and the
replay of the request rejects it. -/
theorem carried_out_and_rejected :
    let reached := run (Processing.attempt sampleService sampleRequest)
      (Processing.start stampedDisk []) [⟨sampleClock, 2⟩, ⟨sampleClock, 4⟩]
    reached.written = true ∧ Rejected sampleRequest.id reached.log := by
  have identified : sampleRequest.id ≠ "" := by decide
  exact torn_sample.rejected_by_replay identified tracked_sampleRequest (Nat.zero_lt_succ 3)

end ZaofuFormal.Tasks
