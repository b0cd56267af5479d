import ZaofuFormal.Workflow.SettledOperations

/-!
# One request for an operation

`ensure_operation` looks an operation up under the id that it was given, while
the fold lists operations under trimmed ids.  An id that trimming leaves alone
is requested once, whatever the later calls ask for: they are answered from the
row, or block it.  Under any other id the row is never found, and every call
requests the operation again.
-/

namespace ZaofuFormal.Workflow

open Foundation

/-- One call, with the writer of its process and the sidecars as they are then. -/
structure EnsureCall where
  writer : Writer
  stored : Json → Option Json
  request : EnsureRequest

/-- The answer of a call, and the log after it. -/
def EnsureCall.answer (env : ServiceEnv) (call : EnsureCall) (log : Log) :
    Except ServiceError EnsureOperationResult × Log :=
  ensureOperation { env with writer := call.writer } call.stored call.request log

def callEnsure (env : ServiceEnv) (log : Log) (call : EnsureCall) : Log :=
  (call.answer env log).2

/-- What the request hash is taken of. -/
def EnsureRequest.canonical (ensure : EnsureRequest) : Json :=
  canonicalizeOperationRequest (taskPipelineRequestHashBody ensure.body ensure.request)

theorem requestHash_of_canonical {first second : EnsureRequest} (env : ServiceEnv)
    (same : first.canonical = second.canonical) : first.requestHash env = second.requestHash env :=
  congrArg (fun canonical => env.requestDigest (.obj
    [("canonicalization_version", .str operationCanonicalization), ("request", canonical)])) same

/-- The event requests the operation. -/
def Requests (operationId : String) (event : ZfEvent) : Prop :=
  event.type = OperationEventType.requested.text ∧
    operationIdOf event.body = PyString.strip operationId

instance (operationId : String) (event : ZfEvent) : Decidable (Requests operationId event) :=
  inferInstanceAs (Decidable (_ ∧ _))

/-- The requests for an operation in a log. -/
def requestCount (operationId : String) (log : Log) : Nat :=
  log.countP fun event => decide (Requests operationId event)

/-- A run of calls requests the operation once, and answers every later call
with the canonical request of the first one as a replay. -/
structure RequestedOnce (env : ServiceEnv) (operationId : String) (log : Log)
    (first : EnsureCall) (rest : List EnsureCall) : Prop where
  once : requestCount operationId (Runs.run (callEnsure env) log (first :: rest)) = 1
  replayed : ∀ before call after, rest = before ++ call :: after →
    call.request.canonical = first.request.canonical →
    ∃ result,
      call.answer env (Runs.run (callEnsure env) log (first :: before)) =
        (.ok result, Runs.run (callEnsure env) log (first :: before)) ∧
      result.replayHit = true ∧ result.requestHash = first.request.requestHash env

theorem requestCount_append (operationId : String) (log : Log) (event : ZfEvent) :
    requestCount operationId (log ++ [event]) =
      requestCount operationId log + if Requests operationId event then 1 else 0 := by
  rw [requestCount, List.countP_append, List.countP_singleton]
  simp only [requestCount, decide_eq_true_eq]

variable {operationId : String} {operations : Operations}

/-- An event of another type is no request. -/
theorem requestCount_append_other {log : Log} {event : ZfEvent}
    {type : OperationEventType} (isType : event.type = type.text) (other : type ≠ .requested) :
    requestCount operationId (log ++ [event]) = requestCount operationId log := by
  rw [requestCount_append, if_neg, Nat.add_zero]
  rintro ⟨isRequested, _⟩
  exact other (OperationEventType.text_injective (isType.symm.trans isRequested))

/-- A log without events of the operation. -/
def Unmentioned (operationId : String) (log : Log) : Prop :=
  ∀ event ∈ log, ∀ type : OperationEventType, event.type = type.text →
    operationIdOf event.body ≠ PyString.strip operationId

theorem requestCount_unmentioned {log : Log}
    (unmentioned : Unmentioned operationId log) : requestCount operationId log = 0 := by
  rw [requestCount, List.countP_eq_zero]
  intro event present requested
  obtain ⟨isRequested, named⟩ := of_decide_eq_true requested
  exact unmentioned event present .requested isRequested named

/-- A row comes from an event of its operation. -/
theorem addressed_of_rowAt {scope : Scope} {log : Log} {row : OperationRow}
    (found : rowAt scope log operationId = some row) :
    ∃ event ∈ log, ∃ type, addressed scope event = some (operationId, type) := by
  induction log using List.reverseRecOn generalizing row with
  | nil => cases found
  | append_singleton log event ih =>
      have earlier {old : OperationRow} (kept : rowAt scope log operationId = some old) :
          ∃ source ∈ log ++ [event], ∃ type,
            addressed scope source = some (operationId, type) := by
        obtain ⟨source, present, address⟩ := ih kept
        exact ⟨source, List.mem_append_left _ present, address⟩
      cases rowAt_step found with
      | untouched kept elsewhere => exact earlier kept
      | admitted kept isAdmitted names => exact earlier kept
      | moved address applied =>
          exact ⟨event, List.mem_append_right _ (List.mem_singleton_self event), _, address⟩

theorem rowAt_unmentioned {log : Log}
    (unmentioned : Unmentioned operationId log) : rowAt {} log operationId = none := by
  cases found : rowAt {} log operationId with
  | none => rfl
  | some row =>
      obtain ⟨event, present, type, address⟩ := addressed_of_rowAt found
      obtain ⟨isType, named, _⟩ := addressed_type address
      exact absurd (named.trans (rowAt_key found).1.symm) (unmentioned event present type isType)

theorem loadWorkflowOperation_of_reduced {log : Log}
    (reduced : reduceWorkflowOperations {} log = .ok operations) (operationId : String) :
    loadWorkflowOperation log operationId = .ok (rowAt {} log operationId) := by
  rw [loadWorkflowOperation, rowAt, reduced]
  rfl

/-- The event that a call appends for an operation without a row. -/
def EnsureCall.requested (env : ServiceEnv) (call : EnsureCall) (log : Log) : ZfEvent :=
  (requestedDraft { env with writer := call.writer } call.request).enrich call.writer log

section FirstRequest

variable (env : ServiceEnv) (call : EnsureCall) (log : Log)

theorem EnsureCall.requested_operationId :
    operationIdOf (call.requested env log).body = PyString.strip call.request.operationId :=
  requestedDraft_operationId { env with writer := call.writer } call.request log

theorem EnsureCall.requested_requestHash :
    requestHashOf (call.requested env log).body = call.request.requestHash env :=
  requestedDraft_requestHash { env with writer := call.writer } call.request log

theorem EnsureCall.requested_type :
    (call.requested env log).type = OperationEventType.requested.text :=
  rfl

theorem EnsureCall.requested_readable : Readable (call.requested env log) :=
  readable_of_type (call.requested_type env log) (by decide)

theorem EnsureCall.requests_requested :
    Requests call.request.operationId (call.requested env log) :=
  ⟨call.requested_type env log, call.requested_operationId env log⟩

end FirstRequest

/-- Without a row, a call requests the operation. -/
theorem callEnsure_absent {env : ServiceEnv} {call : EnsureCall} {log : Log}
    (reduced : reduceWorkflowOperations {} log = .ok operations)
    (absent : rowAt {} log call.request.operationId = none) :
    callEnsure env log call = log ++ [call.requested env log] := by
  rw [callEnsure, EnsureCall.answer, ensureOperation,
    loadWorkflowOperation_of_reduced reduced, absent]
  rfl

/-- While the fold raises, so does every call, and the log stays as it is. -/
theorem callEnsure_unreadable {env : ServiceEnv} {call : EnsureCall} {log : Log}
    {error : ReduceError} (raised : reduceWorkflowOperations {} log = .error error) :
    callEnsure env log call = log := by
  rw [callEnsure, EnsureCall.answer, ensureOperation, loadWorkflowOperation, raised]
  rfl

/-- The operation has been requested once, with the given hash. -/
structure RequestedAs (operationId requestHash : String) (log : Log) : Prop where
  row : ∃ row, rowAt {} log operationId = some row ∧ row.requestHash = requestHash
  once : requestCount operationId log = 1

/-- An event that is no request keeps what is recorded. -/
theorem RequestedAs.append {requestHash : String} {log : Log} {event : ZfEvent}
    {type : OperationEventType} (recorded : RequestedAs operationId requestHash log)
    (nonempty : requestHash ≠ "") (isType : event.type = type.text)
    (other : type ≠ .requested) (calm : type ≠ .retryStarted) :
    RequestedAs operationId requestHash (log ++ [event]) := by
  refine ⟨?_, (requestCount_append_other isType other).trans recorded.once⟩
  obtain ⟨row, found, sameHash⟩ := recorded.row
  obtain ⟨operations, reduced⟩ := reduce_of_rowAt found
  obtain ⟨extended, readable⟩ := reduce_readable reduced (readable_of_type isType calm)
  obtain ⟨next, present⟩ := rowAt_persists found readable
  refine ⟨next, present, ?_⟩
  cases rowAt_step present with
  | untouched kept elsewhere =>
      rw [found] at kept
      cases kept
      exact sameHash
  | admitted kept isAdmitted names =>
      rw [found] at kept
      cases kept
      exact sameHash
  | moved address applied =>
      rw [applyToRow_requestHash applied, found, Option.getD_some, sameHash, if_neg nonempty]

/-- The first request records its hash. -/
theorem recorded_requested {env : ServiceEnv} {call : EnsureCall} {log : Log}
    (reduced : reduceWorkflowOperations {} log = .ok operations)
    (unmentioned : Unmentioned call.request.operationId log)
    (stripped : PyString.strip call.request.operationId = call.request.operationId)
    (nonempty : call.request.operationId ≠ "") :
    RequestedAs call.request.operationId (call.request.requestHash env)
      (log ++ [call.requested env log]) := by
  have absent := rowAt_unmentioned unmentioned
  have named := (call.requested_operationId env log).trans stripped
  constructor
  · have address : addressed {} (call.requested env log) =
        some (call.request.operationId, .requested) := by
      rw [addressed_of_type (call.requested_type env log) (named.symm ▸ nonempty), named]
    have succeeds : ∃ moved, transition
        (noted (seedRow (call.requested env log)) (call.requested env log)) .requested
          (call.requested env log) = .ok moved :=
      transition_succeeds fun same _ => nomatch same
    obtain ⟨moved, moves⟩ := succeeds
    have applied := applyToRow_eq moves
    refine ⟨_, rowAt_of_applied reduced address (by rw [absent]; exact applied), ?_⟩
    rw [applyToRow_requestHash applied]
    change (if requestHashOf (call.requested env log).body = "" then _
      else requestHashOf (call.requested env log).body) = _
    rw [ite_self, call.requested_requestHash]
  · rw [requestCount_append, requestCount_unmentioned unmentioned,
      if_pos (call.requests_requested env log)]

/-- A later call keeps what is recorded, whatever it asks for. -/
theorem RequestedAs.call {env : ServiceEnv} {requestHash : String} {log : Log} {call : EnsureCall}
    (recorded : RequestedAs call.request.operationId requestHash log) :
    RequestedAs call.request.operationId requestHash (callEnsure env log call) := by
  obtain ⟨row, found, sameHash⟩ := recorded.row
  rw [callEnsure, EnsureCall.answer, ensureOperation, loadWorkflowOperation_eq_some.mpr found]
  dsimp only
  split
  · rename_i diverges
    rw [sameHash] at diverges
    split
    · unfold replayCompatible
      dsimp only
      split
      · rcases admit_outcome env.toFloat call.writer _ log with
          ⟨event, admission, appended⟩ | ⟨_, same⟩
        · rw [appended]
          obtain ⟨_, _, _, _, _, _, _, rfl⟩ := admission.checked
          have isRedrive {request : RedriveRequest} {row : OperationRow} :
              ((redriveDraft request row).enrich call.writer log).type =
                OperationEventType.redriveAdmitted.text := rfl
          exact recorded.append diverges.1 isRedrive (by decide) (by decide)
        · rw [same]
          exact recorded
      · exact recorded
    · unfold blockDivergent
      dsimp only
      rcases emitOnce_log { env with writer := call.writer } .blocked _ log with
        same | ⟨_, appended⟩
      · rw [same]
        exact recorded
      · rw [appended]
        have isBlocked {emission : Emission} {existing : Option OperationRow} :
            (emission.event { env with writer := call.writer } .blocked existing log).type =
              OperationEventType.blocked.text := rfl
        exact recorded.append diverges.1 isBlocked (by decide) (by decide)
  · exact recorded

/-- A call with the recorded hash is answered from the row. -/
theorem RequestedAs.replays {env : ServiceEnv} {log : Log} {call : EnsureCall}
    (recorded : RequestedAs call.request.operationId (call.request.requestHash env) log) :
    ∃ result, call.answer env log = (.ok result, log) ∧ result.replayHit = true ∧
      result.requestHash = call.request.requestHash env := by
  obtain ⟨row, found, sameHash⟩ := recorded.row
  refine ⟨call.request.replayed row row.status.text (call.request.requestHash env) "", ?_,
    rfl, rfl⟩
  rw [EnsureCall.answer, ensureOperation, loadWorkflowOperation_eq_some.mpr found]
  dsimp only
  rw [if_neg fun diverges => diverges.2 sameHash]
  rfl

/-- A run of calls for a requested operation keeps what is recorded. -/
theorem RequestedAs.run {env : ServiceEnv} {operationId requestHash : String} {log : Log}
    (recorded : RequestedAs operationId requestHash log) {calls : List EnsureCall}
    (named : ∀ call ∈ calls, call.request.operationId = operationId) :
    RequestedAs operationId requestHash (Runs.run (callEnsure env) log calls) := by
  induction calls generalizing log with
  | nil => exact recorded
  | cons call rest ih =>
      obtain ⟨here, later⟩ := List.forall_mem_cons.mp named
      rw [Runs.run_cons]
      refine ih ?_ later
      subst here
      exact recorded.call

/-- Under an id that is blank or padded, every call requests the operation. -/
theorem requestCount_run_lost {env : ServiceEnv} {log : Log}
    (reduced : reduceWorkflowOperations {} log = .ok operations)
    (lost : ¬(PyString.strip operationId = operationId ∧ operationId ≠ ""))
    {calls : List EnsureCall} (named : ∀ call ∈ calls, call.request.operationId = operationId) :
    requestCount operationId (Runs.run (callEnsure env) log calls) =
      requestCount operationId log + calls.length := by
  induction calls generalizing log operations with
  | nil => rfl
  | cons call rest ih =>
      obtain ⟨rfl, later⟩ := List.forall_mem_cons.mp named
      have absent : rowAt {} log call.request.operationId = none := by
        cases found : rowAt {} log call.request.operationId with
        | none => rfl
        | some row => exact absurd (rowAt_key found) lost
      obtain ⟨extended, readable⟩ := reduce_readable reduced (call.requested_readable env log)
      rw [Runs.run_cons, callEnsure_absent reduced absent, ih readable later,
        requestCount_append, if_pos (call.requests_requested env log), List.length_cons]
      omega

theorem run_unreadable {env : ServiceEnv} {log : Log} {error : ReduceError}
    (raised : reduceWorkflowOperations {} log = .error error) (calls : List EnsureCall) :
    Runs.run (callEnsure env) log calls = log := by
  induction calls with
  | nil => rfl
  | cons call rest ih => rw [Runs.run_cons, callEnsure_unreadable raised, ih]

/-- The operations of the log can be rebuilt. -/
def Rebuilds (log : Log) : Prop :=
  (reduceWorkflowOperations {} log).isOk = true

instance (log : Log) : Decidable (Rebuilds log) :=
  inferInstanceAs (Decidable (_ = _))

/-- Calls for an operation that the log does not mention request it once if and
only if the log can be rebuilt, and there is one call or trimming keeps the id. -/
theorem operation_requested_once_iff {env : ServiceEnv} {operationId : String} {log : Log}
    {first : EnsureCall} {rest : List EnsureCall} (unmentioned : Unmentioned operationId log)
    (named : ∀ call ∈ first :: rest, call.request.operationId = operationId) :
    RequestedOnce env operationId log first rest ↔
      Rebuilds log ∧
        (rest = [] ∨ (PyString.strip operationId = operationId ∧ operationId ≠ "")) := by
  obtain ⟨rfl, later⟩ := List.forall_mem_cons.mp named
  cases reduced : reduceWorkflowOperations {} log with
  | error error =>
      have unreadable : ¬ Rebuilds log := by
        rw [Rebuilds, reduced]
        exact nofun
      refine iff_of_false (fun requested => ?_) fun condition => unreadable condition.1
      have counted := requested.once
      rw [run_unreadable reduced, requestCount_unmentioned unmentioned] at counted
      exact absurd counted (by decide)
  | ok operations =>
      have rebuilds : Rebuilds log := by
        rw [Rebuilds, reduced]
        rfl
      by_cases found : PyString.strip first.request.operationId = first.request.operationId ∧
          first.request.operationId ≠ ""
      · refine iff_of_true ?_ ⟨rebuilds, Or.inr found⟩
        have recorded : RequestedAs first.request.operationId (first.request.requestHash env)
            (callEnsure env log first) := by
          rw [callEnsure_absent reduced (rowAt_unmentioned unmentioned)]
          exact recorded_requested reduced unmentioned found.1 found.2
        refine ⟨(recorded.run later).once, ?_⟩
        rintro before call after rfl same
        obtain ⟨earlier, here⟩ := List.forall_mem_append.mp later
        have sameId := (List.forall_mem_cons.mp here).1
        have sameHash := requestHash_of_canonical env same
        have current : RequestedAs first.request.operationId (first.request.requestHash env)
            (Runs.run (callEnsure env) (callEnsure env log first) before) := recorded.run earlier
        rw [← sameId, ← sameHash] at current
        rw [← sameHash]
        exact current.replays
      · have counted : requestCount first.request.operationId
            (Runs.run (callEnsure env) log (first :: rest)) = _ :=
          requestCount_run_lost reduced found named
        rw [requestCount_unmentioned unmentioned, List.length_cons] at counted
        constructor
        · intro requested
          have one := counted.symm.trans requested.once
          exact ⟨rebuilds, Or.inl (List.length_eq_zero_iff.mp (by omega))⟩
        · rintro ⟨_, single | good⟩
          · subst single
            exact ⟨counted, fun before call after split => by simp at split⟩
          · exact absurd good found

/-- A call of the sample request for the operation with the given id. -/
def sampleCall (operationId : String) : EnsureCall where
  writer := sampleWriter
  stored _ := none
  request := { sampleEnsure with operationId }

theorem sample_requested_once :
    RequestedOnce sampleEnv "op-1" [] (sampleCall "op-1") [sampleCall "op-1"] := by
  have unmentioned : Unmentioned "op-1" [] := fun _ present => absurd present List.not_mem_nil
  refine (operation_requested_once_iff unmentioned (by simp [sampleCall])).mpr ⟨rfl, Or.inr ?_⟩
  decide +kernel

/-- Two calls with a padded id request its operation twice. -/
theorem padded_operation_requested_again :
    ¬ RequestedOnce sampleEnv " op-1" [] (sampleCall " op-1") [sampleCall " op-1"] := by
  intro requested
  exact absurd requested.once (by decide +kernel)

end ZaofuFormal.Workflow
