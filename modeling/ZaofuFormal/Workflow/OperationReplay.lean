import ZaofuFormal.Foundation.Runs
import ZaofuFormal.Workflow.Operation

/-!
# Replaying one operation

The fold keeps the operations apart: the row of an operation after one more
event is its row before, its row with a call result admitted, or the outcome
of `applyToRow`.  This module proves that, and what the stages of one event
leave alone.
-/

namespace ZaofuFormal.Workflow

open Foundation

/-- The row of an operation, when the fold over the log does not raise. -/
def rowAt (scope : Scope) (log : Log) (operationId : String) : Option OperationRow :=
  match reduceWorkflowOperations scope log with
  | .ok operations => operations.get? operationId
  | .error _ => none

def StatusAt (scope : Scope) (log : Log) (operationId : String) (status : OperationStatus) :
    Prop :=
  (rowAt scope log operationId).map OperationRow.status = some status

instance (scope : Scope) (log : Log) (operationId : String) (status : OperationStatus) :
    Decidable (StatusAt scope log operationId status) :=
  inferInstanceAs (Decidable (_ = _))

theorem statusAt_iff (scope : Scope) (log : Log) (operationId : String)
    (status : OperationStatus) :
    StatusAt scope log operationId status ↔
      ∃ row, rowAt scope log operationId = some row ∧ row.status = status :=
  Option.map_eq_some_iff

/-- The log grows by one event. -/
def grow (log : Log) (event : ZfEvent) : Log := log ++ [event]

theorem run_grow (log events : Log) : Runs.run grow log events = log ++ events := by
  induction events generalizing log with
  | nil => exact (List.append_nil log).symm
  | cons event rest ih => rw [Runs.run_cons, ih, grow, List.append_assoc, List.singleton_append]

theorem reduce_append (scope : Scope) (log : Log) (event : ZfEvent) :
    reduceWorkflowOperations scope (log ++ [event]) =
      (reduceWorkflowOperations scope log).bind fun operations =>
        applyEvent scope operations event := by
  rw [reduceWorkflowOperations, List.foldl_append]
  rfl

theorem ofText?_admittedType : OperationEventType.ofText? admittedType = none := by decide

variable {event : ZfEvent} {operationId : String} {scope : Scope} {type : OperationEventType}
  {operations : Operations} {row after moved : OperationRow} {log : Log}

theorem addressed_type (address : addressed scope event = some (operationId, type)) :
    event.type = type.text ∧ operationIdOf event.body = operationId ∧ operationId ≠ "" := by
  unfold addressed at address
  cases known : OperationEventType.ofText? event.type with
  | none =>
      rw [known] at address
      cases address
  | some found =>
      rw [known] at address
      dsimp only at address
      split at address
      · rename_i accepted
        obtain ⟨sameId, rfl⟩ := Prod.mk.inj (Option.some.inj address)
        have same := List.find?_some known
        rw [sameId] at accepted
        exact ⟨(of_decide_eq_true same).symm, sameId, accepted.1⟩
      · cases address

/-- Without a scope, an operation event addresses the operation that it names. -/
theorem addressed_of_type
    (isType : event.type = type.text) (named : operationIdOf event.body ≠ "") :
    addressed {} event = some (operationIdOf event.body, type) := by
  rw [addressed, isType, OperationEventType.ofText?_text]
  exact if_pos ⟨named, Or.inl rfl, Or.inl rfl⟩

/-- What one more event makes of a row, when the fold still succeeds. -/
inductive RowStep (scope : Scope) (operationId : String) (event : ZfEvent)
    (before : Option OperationRow) : OperationRow → Prop where
  | untouched {row : OperationRow} (kept : before = some row)
      (elsewhere : ∀ type, addressed scope event ≠ some (operationId, type)) :
      RowStep scope operationId event before row
  | admitted {row : OperationRow} (found : before = some row)
      (isAdmitted : event.type = admittedType)
      (names : event.body.textAt "operation_id" = operationId) :
      RowStep scope operationId event before (admitCallResult row event)
  | moved {row : OperationRow} {type : OperationEventType}
      (address : addressed scope event = some (operationId, type))
      (applied : applyToRow (before.getD (seedRow event)) type event = .ok row) :
      RowStep scope operationId event before row

theorem applyEvent_step {next : Operations}
    (applied : applyEvent scope operations event = .ok next)
    (found : next.get? operationId = some row) :
    RowStep scope operationId event (operations.get? operationId) row := by
  unfold applyEvent at applied
  split at applied
  · rename_i isAdmitted
    have elsewhere : ∀ type, addressed scope event ≠ some (operationId, type) := by
      intro type address
      rw [addressed, isAdmitted, ofText?_admittedType] at address
      cases address
    cases applied
    unfold applyCallResultAdmission at found
    dsimp only at found
    split at found
    · exact .untouched found elsewhere
    · rename_i old present
      rw [Dict.get?_insert] at found
      split at found
      · rename_i same
        cases found
        rw [same]
        exact .admitted present isAdmitted rfl
      · exact .untouched found elsewhere
  · split at applied
    · rename_i nowhere
      cases applied
      refine .untouched found fun type address => ?_
      rw [nowhere] at address
      cases address
    · rename_i target type address
      cases result : applyToRow ((operations.get? target).getD (seedRow event)) type event with
      | error error =>
          rw [result] at applied
          cases applied
      | ok changed =>
          rw [result] at applied
          cases applied
          rw [Dict.get?_insert] at found
          split at found
          · rename_i same
            cases found
            subst same
            exact .moved address result
          · rename_i different
            refine .untouched found fun other elsewhere => ?_
            rw [address] at elsewhere
            cases elsewhere
            exact different rfl

/-- The row after one more event comes from the row before by one step. -/
theorem rowAt_step (found : rowAt scope (log ++ [event]) operationId = some row) :
    RowStep scope operationId event (rowAt scope log operationId) row := by
  unfold rowAt at found ⊢
  rw [reduce_append] at found
  cases reduced : reduceWorkflowOperations scope log with
  | error error =>
      rw [reduced] at found
      cases found
  | ok operations =>
      rw [reduced] at found
      change (match applyEvent scope operations event with
        | .ok next => next.get? operationId
        | .error _ => none) = some row at found
      cases applied : applyEvent scope operations event with
      | error error =>
          rw [applied] at found
          cases found
      | ok next =>
          rw [applied] at found
          exact applyEvent_step applied found

/-- Operations are listed under the trimmed ids of their events. -/
theorem rowAt_key (found : rowAt scope log operationId = some row) :
    PyString.strip operationId = operationId ∧ operationId ≠ "" := by
  induction log using List.reverseRecOn generalizing row with
  | nil => cases found
  | append_singleton log event ih =>
      cases rowAt_step found with
      | untouched kept elsewhere => exact ih kept
      | admitted kept isAdmitted names => exact ih kept
      | moved address applied =>
          obtain ⟨_, rfl, nonempty⟩ := addressed_type address
          exact ⟨PyString.strip_strip _, nonempty⟩

/-- The rows after one more event are those that `applyEvent` returns. -/
theorem rowAt_append {next : Operations}
    (reduced : reduceWorkflowOperations scope log = .ok operations)
    (applied : applyEvent scope operations event = .ok next) (operationId : String) :
    rowAt scope (log ++ [event]) operationId = next.get? operationId := by
  have after : reduceWorkflowOperations scope (log ++ [event]) = .ok next := by
    rw [reduce_append, reduced]
    exact applied
  rw [rowAt, after]

/-- An addressed event whose branch does not raise moves its row. -/
theorem rowAt_of_applied (reduced : reduceWorkflowOperations scope log = .ok operations)
    (address : addressed scope event = some (operationId, type))
    (applied : applyToRow ((rowAt scope log operationId).getD (seedRow event)) type event =
      .ok row) :
    rowAt scope (log ++ [event]) operationId = some row := by
  have notAdmitted : event.type ≠ admittedType := by
    intro isAdmitted
    rw [addressed, isAdmitted, ofText?_admittedType] at address
    cases address
  rw [rowAt, reduced] at applied
  have next : applyEvent scope operations event = .ok (operations.insert operationId row) := by
    unfold applyEvent
    rw [if_neg notAdmitted, address]
    dsimp only at applied ⊢
    rw [applied]
    rfl
  rw [rowAt_append reduced next]
  exact Dict.get?_insert_self operations operationId row

theorem reduce_of_rowAt (found : rowAt scope log operationId = some row) :
    ∃ operations, reduceWorkflowOperations scope log = .ok operations := by
  unfold rowAt at found
  cases reduced : reduceWorkflowOperations scope log with
  | error error =>
      rw [reduced] at found
      cases found
  | ok operations => exact ⟨operations, rfl⟩

/-- Once the fold has raised, every longer log raises too. -/
theorem reduce_error_append {error : ReduceError}
    (raised : reduceWorkflowOperations scope log = .error error) (later : Log) :
    reduceWorkflowOperations scope (log ++ later) = .error error := by
  induction later generalizing log with
  | nil => rw [List.append_nil, raised]
  | cons event rest ih =>
      rw [← List.singleton_append, ← List.append_assoc]
      apply ih
      rw [reduce_append, raised]
      rfl

theorem rowAt_of_error {error : ReduceError}
    (raised : reduceWorkflowOperations scope log = .error error) (later : Log)
    (operationId : String) : rowAt scope (log ++ later) operationId = none := by
  rw [rowAt, reduce_error_append raised later]

/-- A row never disappears. -/
theorem rowAt_persists (found : rowAt scope log operationId = some row)
    (reduced : reduceWorkflowOperations scope (log ++ [event]) = .ok operations) :
    ∃ next, rowAt scope (log ++ [event]) operationId = some next := by
  rw [rowAt, reduced]
  obtain ⟨before, earlier⟩ := reduce_of_rowAt found
  rw [rowAt, earlier] at found
  rw [reduce_append, earlier] at reduced
  change applyEvent scope before event = .ok operations at reduced
  change ∃ next, operations.get? operationId = some next
  unfold applyEvent at reduced
  split at reduced
  · cases reduced
    unfold applyCallResultAdmission
    dsimp only
    split
    · exact ⟨row, found⟩
    · rw [Dict.get?_insert]
      split
      · exact ⟨_, rfl⟩
      · exact ⟨row, found⟩
  · split at reduced
    · cases reduced
      exact ⟨row, found⟩
    · rename_i target type _
      cases result : applyToRow ((before.get? target).getD (seedRow event)) type event with
      | error error =>
          rw [result] at reduced
          cases reduced
      | ok changed =>
          rw [result] at reduced
          cases reduced
          rw [Dict.get?_insert]
          split
          · exact ⟨changed, rfl⟩
          · exact ⟨row, found⟩

/-- The row that the branch of the event's type starts from. -/
def noted (row : OperationRow) (event : ZfEvent) : OperationRow :=
  noteIdentity (compareHash row event.body) event

theorem noted_status (row : OperationRow) (event : ZfEvent) :
    (noted row event).status = if Diverges row event.body then .blocked else row.status := by
  change (compareHash row event.body).status = _
  unfold compareHash
  split
  · rfl
  · split <;> rfl

theorem noted_reason (row : OperationRow) (event : ZfEvent) :
    (noted row event).reason =
      if Diverges row event.body then divergenceReason else row.reason := by
  change (compareHash row event.body).reason = _
  unfold compareHash
  split
  · rfl
  · split <;> rfl

/-- Comparing hashes records a first hash and never replaces one. -/
theorem noted_requestHash (row : OperationRow) (event : ZfEvent) :
    (noted row event).requestHash =
      if row.requestHash = "" then requestHashOf event.body else row.requestHash := by
  change (compareHash row event.body).requestHash = _
  unfold compareHash
  split
  · rename_i diverges
    rw [if_neg diverges.1]
  · split
    · rename_i first
      rw [if_pos first.2]
    · rename_i notDivergent known
      split
      · rename_i missing
        by_contra different
        exact known ⟨fun empty => different (missing.trans empty.symm), missing⟩
      · rfl

theorem applyToRow_ok (applied : applyToRow row type event = .ok after) :
    ∃ moved, transition (noted row event) type event = .ok moved ∧
      after = noteLast (noted row event).status type event moved := by
  unfold applyToRow at applied
  change (transition (noted row event) type event).map _ = _ at applied
  cases moves : transition (noted row event) type event with
  | error error =>
      rw [moves] at applied
      cases applied
  | ok moved =>
      rw [moves] at applied
      exact ⟨moved, rfl, (Except.ok.inj applied).symm⟩

theorem applyToRow_eq (moves : transition (noted row event) type event = .ok moved) :
    applyToRow row type event = .ok (noteLast (noted row event).status type event moved) := by
  unfold applyToRow
  change (transition (noted row event) type event).map _ = _
  rw [moves]
  rfl

/-- A known row after an addressed event. -/
theorem rowAt_of_transition (found : rowAt scope log operationId = some row)
    (address : addressed scope event = some (operationId, type))
    (moves : transition (noted row event) type event = .ok moved) :
    rowAt scope (log ++ [event]) operationId =
      some (noteLast (noted row event).status type event moved) := by
  obtain ⟨operations, reduced⟩ := reduce_of_rowAt found
  refine rowAt_of_applied reduced address ?_
  rw [found]
  exact applyToRow_eq moves

/-- Recording the last event leaves the rest of the row alone. -/
theorem noteLast_cases (before : OperationStatus) (type : OperationEventType) (event : ZfEvent)
    (row : OperationRow) :
    noteLast before type event row = row ∨
      noteLast before type event row = { row with
        lastEventId := event.id, lastEventType := event.type, lastEventAt := event.ts } := by
  unfold noteLast
  split
  · exact Or.inl rfl
  · exact Or.inr rfl

theorem noteLast_status (before : OperationStatus) (type : OperationEventType) (event : ZfEvent)
    (row : OperationRow) : (noteLast before type event row).status = row.status := by
  rcases noteLast_cases before type event row with same | same <;> rw [same]

theorem noteLast_reason (before : OperationStatus) (type : OperationEventType) (event : ZfEvent)
    (row : OperationRow) : (noteLast before type event row).reason = row.reason := by
  rcases noteLast_cases before type event row with same | same <;> rw [same]

theorem noteLast_requestHash (before : OperationStatus) (type : OperationEventType)
    (event : ZfEvent) (row : OperationRow) :
    (noteLast before type event row).requestHash = row.requestHash := by
  rcases noteLast_cases before type event row with same | same <;> rw [same]

/-- The status that the branch of a type leads to. -/
def nextStatus (row : OperationRow) (type : OperationEventType) (payload : Json) :
    OperationStatus :=
  match type with
  | .requested => row.status
  | .reserved => if row.status.Terminal then row.status else .reserved
  | .started => if row.status.Terminal then row.status else .running
  | .retryStarted => if Retries row payload then .running else row.status
  | .settled => if row.status = .cancelled then row.status else .settled
  | .failed => if row.status = .cancelled then row.status else .failed
  | .blocked => if row.status = .cancelled then row.status else .blocked
  | .superseded => if row.status = .cancelled then row.status else .superseded
  | .interrupted => if row.status.Terminal then row.status else .suspended
  | .redriveAdmitted => if AcceptsRedrive row payload then .requested else row.status
  | .cancelled => if row.status.Terminal then row.status else .cancelled

/-- The reason that the branch of a type leaves behind. -/
def nextReason (row : OperationRow) (type : OperationEventType) (payload : Json) : String :=
  match type with
  | .requested | .reserved | .started => row.reason
  | .retryStarted => if Retries row payload then "" else row.reason
  | .settled | .failed | .blocked | .superseded =>
      if row.status = .cancelled then row.reason else payload.textAt "reason"
  | .interrupted | .cancelled =>
      if row.status.Terminal then row.reason else payload.textAt "reason"
  | .redriveAdmitted =>
      if AcceptsRedrive row payload then payload.textAt "reason" else row.reason

theorem transition_moves (moves : transition row type event = .ok moved) :
    moved.status = nextStatus row type event.body ∧
      moved.reason = nextReason row type event.body := by
  cases type <;> simp only [transition, nextStatus, nextReason] at moves ⊢
  case retryStarted =>
    by_cases retries : Retries row event.body
    · rw [if_pos retries] at moves
      simp only [if_pos retries]
      split at moves
      · cases moves
        exact ⟨rfl, rfl⟩
      · cases moves
    · rw [if_neg retries] at moves
      simp only [if_neg retries]
      cases moves
      exact ⟨rfl, rfl⟩
  case requested =>
    cases moves
    exact ⟨rfl, rfl⟩
  all_goals
    cases moves
    split <;> exact ⟨rfl, rfl⟩

/-- Only a transport retry can raise, and only on a bad ordinal. -/
theorem transition_succeeds (quiet : type = .retryStarted → Retries row event.body →
      ((event.body.get "retry_attempt").intOrZero?).isSome = true) :
    ∃ moved, transition row type event = .ok moved := by
  cases type <;> simp only [transition]
  case retryStarted =>
    split
    · rename_i retries
      obtain ⟨attempt, read⟩ := Option.isSome_iff_exists.mp (quiet rfl retries)
      rw [read]
      exact ⟨_, rfl⟩
    · exact ⟨row, rfl⟩
  all_goals exact ⟨_, rfl⟩

/-- The event is no transport retry, or its ordinal is a number. -/
def Readable (event : ZfEvent) : Prop :=
  event.type = OperationEventType.retryStarted.text →
    ((event.body.get "retry_attempt").intOrZero?).isSome = true

theorem readable_of_type
    (isType : event.type = type.text) (calm : type ≠ .retryStarted) : Readable event :=
  fun same => absurd (OperationEventType.text_injective (isType.symm.trans same)) calm

/-- A readable event keeps the fold from raising. -/
theorem reduce_readable
    (reduced : reduceWorkflowOperations scope log = .ok operations) (readable : Readable event) :
    ∃ next, reduceWorkflowOperations scope (log ++ [event]) = .ok next := by
  rw [reduce_append, reduced]
  change ∃ next, applyEvent scope operations event = .ok next
  unfold applyEvent
  split
  · exact ⟨_, rfl⟩
  · cases address : addressed scope event with
    | none => exact ⟨operations, rfl⟩
    | some target =>
        obtain ⟨operationId, type⟩ := target
        obtain ⟨isType, _, _⟩ := addressed_type address
        have succeeds : ∃ moved, transition
            (noted ((operations.get? operationId).getD (seedRow event)) event) type event =
              .ok moved :=
          transition_succeeds fun same _ => readable (same ▸ isType)
        obtain ⟨moved, moves⟩ := succeeds
        exact ⟨_, congrArg (Except.map (operations.insert operationId)) (applyToRow_eq moves)⟩

theorem applyToRow_status (applied : applyToRow row type event = .ok after) :
    after.status = nextStatus (noted row event) type event.body := by
  obtain ⟨moved, moves, rfl⟩ := applyToRow_ok applied
  rw [noteLast_status, (transition_moves moves).1]

theorem applyToRow_reason (applied : applyToRow row type event = .ok after) :
    after.reason = nextReason (noted row event) type event.body := by
  obtain ⟨moved, moves, rfl⟩ := applyToRow_ok applied
  rw [noteLast_reason, (transition_moves moves).2]

/-- No branch touches the recorded hash. -/
theorem transition_requestHash (moves : transition row type event = .ok moved) :
    moved.requestHash = row.requestHash := by
  cases type <;> simp only [transition] at moves
  case retryStarted =>
    split at moves
    · split at moves
      · cases moves
        rfl
      · cases moves
    · cases moves
      rfl
  case requested =>
    cases moves
    rfl
  all_goals
    cases moves
    split <;> rfl

theorem applyToRow_requestHash (applied : applyToRow row type event = .ok after) :
    after.requestHash =
      if row.requestHash = "" then requestHashOf event.body else row.requestHash := by
  obtain ⟨moved, moves, rfl⟩ := applyToRow_ok applied
  rw [noteLast_requestHash, transition_requestHash moves, noted_requestHash]

end ZaofuFormal.Workflow
