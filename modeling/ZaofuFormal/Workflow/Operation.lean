import ZaofuFormal.Workflow.Event

/-!
# Workflow operations as a fold over events

`reduceWorkflowOperations` rebuilds the view of every workflow operation from
the event list.  One event passes through four stages: its request hash is
compared with the recorded one, its identity is noted, the branch of its type
runs, and it becomes the last event of the row.  The only exception that the
fold can raise is the integer conversion of a retry ordinal.
-/

namespace ZaofuFormal.Workflow

open Foundation

inductive OperationStatus where
  | requested
  | reserved
  | running
  | suspended
  | settled
  | failed
  | blocked
  | superseded
  | cancelled
  deriving DecidableEq, Repr

def OperationStatus.text : OperationStatus → String
  | requested => "requested"
  | reserved => "reserved"
  | running => "running"
  | suspended => "suspended"
  | settled => "settled"
  | failed => "failed"
  | blocked => "blocked"
  | superseded => "superseded"
  | cancelled => "cancelled"

def OperationStatus.Terminal (status : OperationStatus) : Prop :=
  status ∈ [settled, failed, blocked, superseded, cancelled]

instance (status : OperationStatus) : Decidable status.Terminal :=
  inferInstanceAs (Decidable (_ ∈ _))

inductive OperationEventType where
  | requested
  | reserved
  | started
  | retryStarted
  | settled
  | failed
  | blocked
  | superseded
  | interrupted
  | redriveAdmitted
  | cancelled
  deriving DecidableEq, Repr

def OperationEventType.text : OperationEventType → String
  | requested => "workflow.operation.requested"
  | reserved => "workflow.operation.reserved"
  | started => "workflow.operation.started"
  | retryStarted => "workflow.operation.retry_started"
  | settled => "workflow.operation.settled"
  | failed => "workflow.operation.failed"
  | blocked => "workflow.operation.blocked"
  | superseded => "workflow.operation.superseded"
  | interrupted => "workflow.operation.interrupted"
  | redriveAdmitted => "workflow.operation.redrive_admitted"
  | cancelled => "workflow.operation.cancelled"

def operationEventTypes : List OperationEventType :=
  [.requested, .reserved, .started, .retryStarted, .settled, .failed, .blocked, .superseded,
    .interrupted, .redriveAdmitted, .cancelled]

def OperationEventType.ofText? (text : String) : Option OperationEventType :=
  operationEventTypes.find? fun type => decide (type.text = text)

theorem OperationEventType.ofText?_text (type : OperationEventType) :
    ofText? type.text = some type := by
  cases type <;> decide

theorem OperationEventType.text_injective {first second : OperationEventType}
    (same : first.text = second.text) : first = second := by
  have found := congrArg ofText? same
  rw [ofText?_text, ofText?_text] at found
  exact Option.some.inj found

def admittedType : String := "workflow.call.result.admitted"

def taskPipelineRequestKeys : List String :=
  ["task_pipeline_stage", "operation_generation", "task_map_generation", "workspace_generation",
    "placement_epoch", "pipeline_key", "contract_revision", "task_stage_session_binding",
    "risk_class", "integration_admission_profile", "exact_task_target_commit",
    "verification_result_ref", "verification_result_digest", "risk_review_timeout_seconds",
    "risk_review_max_turns", "risk_review_budget_usd"]

def integerRequestKeys : List String :=
  ["operation_generation", "workspace_generation", "placement_epoch"]

/-- `int(value or 0)`, and zero where that raises. -/
def intValue (value : Json) : Int := value.intOrZero?.getD 0

/-- `value in (None, "", 0)`. -/
def absentField (value : Json) : Bool :=
  Json.equal value .null || Json.equal value (.str "") || Json.equal value (.int 0)

def taskPipelineRequestFields (payload : Json) : Dict String Json :=
  Dict.ofEntries <| taskPipelineRequestKeys.filterMap fun key =>
    let value := payload.get key
    if absentField value then none
    else some (key, if key ∈ integerRequestKeys then .int (intValue value) else .str value.pyStr)

/-- The task pipeline fields that a new row starts with. -/
def taskPipelineSeed (payload : Json) : Dict String Json :=
  Dict.ofEntries
    [("task_pipeline_stage", .str (payload.textAt "task_pipeline_stage")),
      ("operation_generation", .int (intValue (payload.get "operation_generation"))),
      ("task_map_generation", .str (payload.textAt "task_map_generation")),
      ("workspace_generation", .int (intValue (payload.get "workspace_generation"))),
      ("placement_epoch", .int (intValue (payload.get "placement_epoch"))),
      ("pipeline_key", .str (payload.textAt "pipeline_key")),
      ("task_stage_session_binding", .str (payload.textAt "task_stage_session_binding"))]

structure OperationRow where
  workflowRunId : String
  parentOperationId : String
  parentStageId : String
  parentAttemptId : String
  operationId : String
  operationType : String
  attemptDomain : String
  requestFields : Dict String Json
  admittedControlResultRef : Json := .obj []
  semanticVerdict : String := ""
  callResultAdmittedEventId : String := ""
  redriveCount : Nat := 0
  redriveSourceAttemptIds : List String := []
  compatibilityProofDigest : String := ""
  requestHash : String
  requestRef : Json
  status : OperationStatus := .requested
  taskId : String
  parentTaskId : String
  roleInstance : String
  activeAttemptId : String
  dispatchId : String
  leaseId : String
  providerSessionId : String
  contextDeliveryEnvelopeRef : Json := .obj []
  contextDeliveryReceiptRef : Json := .obj []
  contextDeliveryReceiptError : String := ""
  childTaskIds : List String := []
  admittedCallResultRef : Json := .obj []
  providerOperationSummaryRef : Json := .obj []
  reservationId : String := ""
  reservationExpiresAt : String := ""
  continuationKey : String := ""
  expectedGeneration : String := ""
  expectedPackageRef : String := ""
  expectedPackageDigest : String := ""
  pendingActionDigest : String := ""
  budgetSnapshot : Json := .obj []
  startedAt : String := ""
  startedEventId : String := ""
  idempotencyKey : String := ""
  sourceEventIds : List String := []
  requestCount : Nat := 0
  replayCount : Nat := 0
  retryCount : Nat := 0
  retryAttempt : Int := 0
  divergent : Bool := false
  reason : String := ""
  lastEventId : String := ""
  lastEventType : String := ""
  lastEventAt : String := ""
  deriving DecidableEq

abbrev Operations := Dict String OperationRow

def OperationRow.stage (row : OperationRow) : String :=
  ((row.requestFields.get? "task_pipeline_stage").getD .null).text

inductive ReduceError where
  | retryAttempt (value : Json)
  deriving DecidableEq

/-- Keep a text unless the payload gives a non-empty one. -/
def replaceText (payload : Json) (key old : String) : String :=
  let value := payload.textAt key
  if value = "" then old else value

/-- Keep a value unless the payload gives an object. -/
def replaceObject (payload : Json) (key : String) (old : Json) : Json :=
  if (payload.get key).isObject then payload.get key else old

/-- The ids of an event as the reducer reads them. -/
def operationIdOf (payload : Json) : String := PyString.strip (payload.textAt "operation_id")

def requestHashOf (payload : Json) : String := payload.textAt "request_hash"

def eventTaskId (event : ZfEvent) : String :=
  match event.taskId with
  | some taskId => if taskId = "" then event.body.textAt "task_id" else taskId
  | none => event.body.textAt "task_id"

def seedRow (event : ZfEvent) : OperationRow :=
  let payload := event.body
  { workflowRunId := payload.textAt "workflow_run_id"
    parentOperationId := payload.textAt "parent_operation_id"
    parentStageId := payload.textAt "parent_stage_id"
    parentAttemptId := payload.textAt "parent_attempt_id"
    operationId := operationIdOf payload
    operationType := replaceText payload "operation_type" "agent"
    attemptDomain := payload.textAt "attempt_domain"
    requestFields := taskPipelineSeed payload
    requestHash := requestHashOf payload
    requestRef := (payload.get "request_ref").objectOrEmpty
    taskId := eventTaskId event
    parentTaskId := payload.textAt "parent_task_id"
    roleInstance := payload.textAt "role_instance"
    activeAttemptId := payload.textAt "active_attempt_id"
    dispatchId := payload.textAt "dispatch_id"
    leaseId := payload.textAt "lease_id"
    providerSessionId := payload.textAt "provider_session_id" }

/-- The event carries a request hash other than the recorded one. -/
def Diverges (row : OperationRow) (payload : Json) : Prop :=
  row.requestHash ≠ "" ∧ requestHashOf payload ≠ "" ∧ row.requestHash ≠ requestHashOf payload

instance (row : OperationRow) (payload : Json) : Decidable (Diverges row payload) :=
  inferInstanceAs (Decidable (_ ∧ _))

def divergenceReason : String := "request_hash_divergence"

def compareHash (row : OperationRow) (payload : Json) : OperationRow :=
  if Diverges row payload then
    { row with divergent := true, status := .blocked, reason := divergenceReason }
  else if requestHashOf payload ≠ "" ∧ row.requestHash = "" then
    { row with requestHash := requestHashOf payload }
  else row

/-- The children of a payload, as far as they are not blank. -/
def childTexts : Json → List String
  | .arr items => (items.map Json.pyStr).filter fun text => !PyString.isBlank text
  | _ => []

def noteIdentity (row : OperationRow) (event : ZfEvent) : OperationRow :=
  let payload := event.body
  { row with
    sourceEventIds := row.sourceEventIds ++ [event.id]
    childTaskIds := (row.childTaskIds ++ childTexts (payload.get "child_task_ids")).eraseDups
    parentTaskId := replaceText payload "parent_task_id" row.parentTaskId
    requestFields := row.requestFields.update (taskPipelineRequestFields payload) }

/-- The redrive branches that are accepted for a cancelled or blocked row. -/
structure RedriveClaims where
  owner : String
  fromStatus : String
  proofDigest : String

def redriveClaims (payload : Json) : RedriveClaims :=
  ⟨payload.textAt "recovery_decision_owner", payload.textAt "recovery_from_status",
    payload.textAt "compatibility_proof_digest"⟩

def cancelledRestartReason : String := "workflow_resume_cancelled_interrupted_operation"

def compatibilityReasons : List String :=
  [divergenceReason, "request_hash_compatibility_failed"]

/-- Does the reducer accept a redrive of the row? -/
def AcceptsRedrive (row : OperationRow) (payload : Json) : Prop :=
  let claims := redriveClaims payload
  row.status ∈ [OperationStatus.suspended, .requested] ∨
    (row.status = .cancelled ∧ row.reason = cancelledRestartReason ∧
      claims.owner = "kernel_replay" ∧ claims.fromStatus = "cancelled") ∨
    (row.status = .blocked ∧ row.reason ∈ compatibilityReasons ∧
      claims.owner = "kernel_replay" ∧ claims.fromStatus = "blocked" ∧ claims.proofDigest ≠ "") ∨
    (row.status = .blocked ∧ row.stage = "integration" ∧
      PyString.startsWith row.reason "candidate_incremental_failed:" = true ∧
      claims.owner = "controlled_action" ∧ claims.fromStatus = "blocked") ∨
    (row.status = .blocked ∧ PyString.startsWith row.reason "workflow_budget_exceeded:" = true ∧
      claims.owner = "operator_budget_amendment" ∧ claims.fromStatus = "blocked")

instance (row : OperationRow) (payload : Json) : Decidable (AcceptsRedrive row payload) :=
  inferInstanceAs (Decidable (_ ∨ _))

/-- A redriven row waits for dispatch again; a task pipeline row also forgets its attempt. -/
def redriven (row : OperationRow) (payload : Json) : OperationRow :=
  let sourceAttemptId := payload.textAt "source_attempt_id"
  let clear (text : String) : String := if row.stage = "" then text else ""
  { row with
    status := .requested
    divergent := false
    redriveCount := row.redriveCount + 1
    redriveSourceAttemptIds :=
      if sourceAttemptId = "" ∨ sourceAttemptId ∈ row.redriveSourceAttemptIds then
        row.redriveSourceAttemptIds
      else row.redriveSourceAttemptIds ++ [sourceAttemptId]
    roleInstance := clear row.roleInstance
    activeAttemptId := clear row.activeAttemptId
    leaseId := clear row.leaseId
    dispatchId := ""
    providerSessionId := ""
    reason := payload.textAt "reason"
    compatibilityProofDigest := payload.textAt "compatibility_proof_digest" }

def started (row : OperationRow) (event : ZfEvent) : OperationRow :=
  let payload := event.body
  { row with
    status := .running
    startedAt := if row.startedAt = "" then event.ts else row.startedAt
    startedEventId := if row.startedEventId = "" then event.id else row.startedEventId
    roleInstance := replaceText payload "role_instance" row.roleInstance
    activeAttemptId := replaceText payload "active_attempt_id" row.activeAttemptId
    dispatchId := replaceText payload "dispatch_id" row.dispatchId
    leaseId := replaceText payload "lease_id" row.leaseId
    providerSessionId := replaceText payload "provider_session_id" row.providerSessionId
    contextDeliveryEnvelopeRef :=
      replaceObject payload "context_delivery_envelope_ref" row.contextDeliveryEnvelopeRef
    contextDeliveryReceiptRef :=
      replaceObject payload "context_delivery_receipt_ref" row.contextDeliveryReceiptRef
    contextDeliveryReceiptError := payload.textAt "context_delivery_receipt_error"
    budgetSnapshot := replaceObject payload "budget_snapshot" row.budgetSnapshot
    reservationId := replaceText payload "reservation_id" row.reservationId
    idempotencyKey := replaceText payload "idempotency_key" row.idempotencyKey }

def reserved (row : OperationRow) (payload : Json) : OperationRow :=
  { row with
    status := .reserved
    reservationId := replaceText payload "reservation_id" row.reservationId
    reservationExpiresAt :=
      replaceText payload "reservation_expires_at" row.reservationExpiresAt
    continuationKey := replaceText payload "continuation_key" row.continuationKey
    expectedGeneration := replaceText payload "expected_generation" row.expectedGeneration
    expectedPackageRef := replaceText payload "expected_package_ref" row.expectedPackageRef
    expectedPackageDigest :=
      replaceText payload "expected_package_digest" row.expectedPackageDigest
    pendingActionDigest := replaceText payload "pending_action_digest" row.pendingActionDigest
    idempotencyKey := replaceText payload "idempotency_key" row.idempotencyKey
    budgetSnapshot := replaceObject payload "budget_snapshot" row.budgetSnapshot }

/-- A transport retry of a suspended or failed row. -/
def Retries (row : OperationRow) (payload : Json) : Prop :=
  row.status ∈ [OperationStatus.suspended, .failed] ∧
    payload.textAt "recovery_class" = "transient_transport"

instance (row : OperationRow) (payload : Json) : Decidable (Retries row payload) :=
  inferInstanceAs (Decidable (_ ∧ _))

def retried (row : OperationRow) (payload : Json) (retryAttempt : Int) : OperationRow :=
  { row with
    status := .running
    reason := ""
    retryCount := row.retryCount + 1
    retryAttempt := retryAttempt
    roleInstance := replaceText payload "role_instance" row.roleInstance
    activeAttemptId := replaceText payload "active_attempt_id" row.activeAttemptId
    dispatchId := replaceText payload "dispatch_id" row.dispatchId
    leaseId := replaceText payload "lease_id" row.leaseId }

/-- The branch of the event's type. -/
def transition (row : OperationRow) (type : OperationEventType) (event : ZfEvent) :
    Except ReduceError OperationRow :=
  let payload := event.body
  match type with
  | .requested => .ok { row with
      requestCount := row.requestCount + 1
      replayCount := row.requestCount
      requestRef := if row.requestRef.truthy then row.requestRef
        else replaceObject payload "request_ref" row.requestRef }
  | .reserved => .ok (if row.status.Terminal then row else reserved row payload)
  | .started => .ok (if row.status.Terminal then row else started row event)
  | .retryStarted =>
      if Retries row payload then
        match (payload.get "retry_attempt").intOrZero? with
        | some retryAttempt => .ok (retried row payload retryAttempt)
        | none => .error (.retryAttempt (payload.get "retry_attempt"))
      else .ok row
  | .settled => .ok (if row.status = .cancelled then row else { row with
      status := .settled
      admittedCallResultRef := (payload.get "admitted_call_result_ref").objectOrEmpty
      providerOperationSummaryRef := (payload.get "provider_operation_summary_ref").objectOrEmpty
      reason := payload.textAt "reason" })
  | .failed => .ok (if row.status = .cancelled then row else { row with
      status := .failed, reason := payload.textAt "reason" })
  | .blocked => .ok (if row.status = .cancelled then row else { row with
      status := .blocked, reason := payload.textAt "reason" })
  | .superseded => .ok (if row.status = .cancelled then row else { row with
      status := .superseded, reason := payload.textAt "reason" })
  | .interrupted => .ok (if row.status.Terminal then row else { row with
      status := .suspended, reason := payload.textAt "reason" })
  | .redriveAdmitted => .ok (if AcceptsRedrive row payload then redriven row payload else row)
  | .cancelled => .ok (if row.status.Terminal then row else { row with
      status := .cancelled, reason := payload.textAt "reason" })

/-- A terminal event that lost the race against an earlier terminal status. -/
def IgnoredRace (before : OperationStatus) (type : OperationEventType) : Prop :=
  (before = .cancelled ∧
    type ∈ [OperationEventType.settled, .failed, .blocked, .superseded]) ∨
    (type = .cancelled ∧ before.Terminal)

instance (before : OperationStatus) (type : OperationEventType) :
    Decidable (IgnoredRace before type) :=
  inferInstanceAs (Decidable (_ ∨ _))

def noteLast (before : OperationStatus) (type : OperationEventType) (event : ZfEvent)
    (row : OperationRow) : OperationRow :=
  if IgnoredRace before type then row
  else { row with
    lastEventId := event.id
    lastEventType := event.type
    lastEventAt := event.ts }

/-- What one event of its operation makes of a row. -/
def applyToRow (row : OperationRow) (type : OperationEventType) (event : ZfEvent) :
    Except ReduceError OperationRow :=
  let noted := noteIdentity (compareHash row event.body) event
  (transition noted type event).map (noteLast noted.status type event)

/-- Restrict the view to one run or one task; empty texts do not restrict. -/
structure Scope where
  workflowRunId : String := ""
  taskId : String := ""

def Scope.Admits (scope : Scope) (event : ZfEvent) : Prop :=
  (scope.workflowRunId = "" ∨ event.body.textAt "workflow_run_id" = scope.workflowRunId) ∧
    (scope.taskId = "" ∨ eventTaskId event = scope.taskId)

instance (scope : Scope) (event : ZfEvent) : Decidable (scope.Admits event) :=
  inferInstanceAs (Decidable (_ ∧ _))

/-- The operation and branch that an event addresses, if it is one of the scope. -/
def addressed (scope : Scope) (event : ZfEvent) : Option (String × OperationEventType) :=
  match OperationEventType.ofText? event.type with
  | none => none
  | some type =>
      let operationId := operationIdOf event.body
      if operationId ≠ "" ∧ scope.Admits event then some (operationId, type) else none

def admitCallResult (row : OperationRow) (event : ZfEvent) : OperationRow :=
  { row with
    semanticVerdict := event.body.textAt "semantic_verdict"
    admittedControlResultRef :=
      replaceObject event.body "control_result_ref" row.admittedControlResultRef
    callResultAdmittedEventId := event.id }

def applyCallResultAdmission (operations : Operations) (event : ZfEvent) : Operations :=
  let operationId := event.body.textAt "operation_id"
  match operations.get? operationId with
  | none => operations
  | some row => operations.insert operationId (admitCallResult row event)

def applyEvent (scope : Scope) (operations : Operations) (event : ZfEvent) :
    Except ReduceError Operations :=
  if event.type = admittedType then .ok (applyCallResultAdmission operations event)
  else
    match addressed scope event with
    | none => .ok operations
    | some (operationId, type) =>
        (applyToRow ((operations.get? operationId).getD (seedRow event)) type event).map
          (operations.insert operationId)

/-- Rebuild the operation views; a raised conversion ends the fold. -/
def reduceWorkflowOperations (scope : Scope) (log : Log) : Except ReduceError Operations :=
  log.foldl (fun reduced event => reduced.bind fun operations =>
    applyEvent scope operations event) (.ok Dict.empty)

def loadWorkflowOperation (log : Log) (operationId : String) :
    Except ReduceError (Option OperationRow) :=
  (reduceWorkflowOperations {} log).map fun operations => operations.get? operationId

end ZaofuFormal.Workflow
