import ZaofuFormal.Workflow.Operation
import ZaofuFormal.Workflow.RunScope

/-!
# Redrive admission

A suspended or requested operation can be sent out again, and some blocked or
cancelled ones can, when the decision owner proves the matching recovery.  The
service checks the conditions on the live state before it appends the admission
event; the reducer checks them again on the event's own fields.
-/

namespace ZaofuFormal.Workflow

open Foundation

/-- The outcome of `float(value)`. -/
inductive FloatValue where
  | finite (value : Rat)
  | infinite (negative : Bool)
  | notANumber
  deriving DecidableEq

/-- `float` raises `ValueError` or `TypeError` on most values, and `OverflowError` on an
integer that is out of range. -/
inductive FloatError where
  | conversion
  | overflow
  deriving DecidableEq

def FloatValue.lt : FloatValue → FloatValue → Bool
  | .finite first, .finite second => decide (first < second)
  | .infinite true, .finite _ => true
  | .finite _, .infinite false => true
  | .infinite true, .infinite false => true
  | _, _ => false

def FloatValue.le : FloatValue → FloatValue → Bool
  | .notANumber, _ => false
  | _, .notANumber => false
  | first, second => !second.lt first

/-- Limit and measurement keys of a budget dimension. -/
def budgetDimension : String → Option (String × String)
  | "wall_clock" => some ("timeout_seconds", "elapsed_seconds")
  | "tokens" => some ("token_budget", "total_tokens")
  | "usd" => some ("cost_budget_usd", "total_usd")
  | _ => none

variable (toFloat : Json → Except FloatError FloatValue)

/-- Does the patch raise the limit of one dimension above its usage?  A failed
conversion counts as no, an overflow leaves the check. -/
def coversDimension (patch measured : Json) (dimension : String) : Except FloatError Bool :=
  match budgetDimension dimension with
  | none => .ok false
  | some (limitKey, measurementKey) =>
      match Dict.find limitKey patch.fields with
      | none => .ok false
      | some limit =>
          let usage := measured.get measurementKey
          let limits := (toFloat limit).bind fun amended =>
            (toFloat (if usage.truthy then usage else .int 0)).map fun current =>
              (amended, current)
          match limits with
          | .ok (amended, current) => .ok
              (!amended.lt (.finite 0) && (decide (amended = .finite 0) || !amended.le current))
          | .error .conversion => .ok false
          | .error .overflow => .error .overflow

/-- Every dimension is covered; the first that is not ends the check. -/
def coversAll (patch measured : Json) : List String → Except FloatError Bool
  | [] => .ok true
  | dimension :: rest =>
      (coversDimension toFloat patch measured dimension).bind fun covered =>
        if covered then coversAll patch measured rest else .ok false

def budgetPatchCovers (patch budgetPayload : Json) : Except FloatError Bool :=
  let dimensions :=
    match budgetPayload.get "exceeded_dimensions" with
    | .arr items => (items.map fun item : Json => PyString.strip item.text).filter
        fun text => decide (text ≠ "")
    | _ => []
  let measured := (budgetPayload.get "measurement").objectOrEmpty
  if dimensions = [] then .ok false else coversAll toFloat patch measured dimensions

def isBudgetBlocked (row : OperationRow) : Bool :=
  decide (row.status = .blocked) && !PyString.isBlank row.stage &&
    PyString.startsWith row.reason "workflow_budget_exceeded:" &&
    !PyString.isBlank row.operationId && !PyString.isBlank row.workflowRunId &&
    !PyString.isBlank row.lastEventId

def stopsRun : List String :=
  ["run.goal.blocked", "run.goal.completed", "run.completed", "run.failed"]

/-- One event behind the block: it withdraws, offers or leaves the amendment. -/
def noteAmendment (aliases : Dict String String) (canonicalRunId : String) (budgetPayload : Json)
    (candidate : Option ZfEvent) (event : ZfEvent) : Except FloatError (Option ZfEvent) :=
  if eventRunId aliases event ≠ canonicalRunId then .ok candidate
  else if event.type ∈ stopsRun then .ok none
  else if event.type ≠ "run.goal.updated" then .ok candidate
  else if strippedAt event.body "status" ∉ ["active", "running"] then .ok none
  else if event.body.textAt "source" ≠ "zf_goal_cli" then .ok candidate
  else
    let patch := event.body.get "run_limits_patch"
    if patch.isObject then
      (budgetPatchCovers toFloat patch budgetPayload).map fun covers =>
        if covers then some event else candidate
    else .ok candidate

/-- The block event of an operation with everything before and behind it. -/
def splitAtBlock (operationId blockedEventId : String) (log : Log) :
    Option (Log × ZfEvent × Log) :=
  let isBlock (event : ZfEvent) : Bool :=
    decide (event.id = blockedEventId ∧ event.type = OperationEventType.blocked.text ∧
      event.body.textAt "operation_id" = operationId)
  match log.dropWhile fun event => !isBlock event with
  | [] => none
  | block :: later => some (log.takeWhile (fun event => !isBlock event), block, later)

/-- A later owner amendment that authorizes one budget redrive. -/
def findTaskPipelineBudgetAmendment (log : Log) (row : OperationRow) :
    Except FloatError (Option ZfEvent) :=
  if !isBudgetBlocked row then .ok none
  else
    let operationId := PyString.strip row.operationId
    let workflowRunId := PyString.strip row.workflowRunId
    match splitAtBlock operationId (PyString.strip row.lastEventId) log with
    | none => .ok none
    | some (earlier, block, later) =>
        let exceeded := earlier.find? fun event =>
          decide (event.id = block.causationId.getD "" ∧ event.type = "workflow.budget.exceeded" ∧
            event.body.textAt "scope" = "operation" ∧
            event.body.textAt "scope_id" = operationId)
        match exceeded with
        | none => .ok none
        | some budgetEvent =>
            let aliases := runAliases log
            let canonicalRunId := (aliases.get? workflowRunId).getD workflowRunId
            later.foldlM (noteAmendment toFloat aliases canonicalRunId budgetEvent.body) none

structure RedriveRequest where
  operationId : String
  requestHash : String
  workflowRunId : String
  taskId : String
  sourceAttemptId : String
  recoveryDecisionEventId : String
  reason : String
  recoveryDecisionOwner : String := "run_manager"
  compatibilityProofDigest : String := ""
  compatibilityRequestRef : Json := .obj []

inductive ServiceError where
  | reduce (error : ReduceError)
  | float (error : FloatError)
  | integer
  | operation (message : String)
  deriving DecidableEq

def redriveOwners : List String :=
  ["run_manager", "kernel_replay", "controlled_action", "operator_budget_amendment"]

def RedriveRequest.owner (request : RedriveRequest) : String :=
  PyString.strip request.recoveryDecisionOwner

/-- The controlled action that asks to retry this integration. -/
def asksIntegrationRetry (log : Log) (request : RedriveRequest) (row : OperationRow) : Prop :=
  ∃ decision ∈ log.find? fun event => decide (event.id = request.recoveryDecisionEventId),
    decision.type = "repair.action.requested" ∧
    decision.body.textAt "kind" = "retry_integration_queue_entry" ∧
    decision.body.textAt "queue_entry_id" = request.operationId ∧
    firstText [decision.body.textAt "task_id", decision.taskId.getD ""] =
      firstText [row.taskId, request.taskId]

instance (log : Log) (request : RedriveRequest) (row : OperationRow) :
    Decidable (asksIntegrationRetry log request row) :=
  inferInstanceAs (Decidable (∃ decision ∈ _, _))

/-- May the operation be sent out again? -/
def Redrivable (log : Log) (request : RedriveRequest) (row : OperationRow)
    (amendment : Option ZfEvent) : Prop :=
  row.status ∈ [OperationStatus.suspended, .requested] ∨
    (row.status = .cancelled ∧ request.owner = "kernel_replay" ∧
      row.reason = cancelledRestartReason) ∨
    (row.status = .blocked ∧ request.owner = "kernel_replay" ∧
      row.reason ∈ compatibilityReasons ∧ request.compatibilityProofDigest ≠ "") ∨
    (row.status = .blocked ∧ request.owner = "controlled_action" ∧ row.stage = "integration" ∧
      PyString.startsWith row.reason "candidate_incremental_failed:" = true ∧
      asksIntegrationRetry log request row) ∨
    (row.status = .blocked ∧ request.owner = "operator_budget_amendment" ∧
      amendment.map ZfEvent.id = some request.recoveryDecisionEventId)

instance (log : Log) (request : RedriveRequest) (row : OperationRow)
    (amendment : Option ZfEvent) : Decidable (Redrivable log request row amendment) :=
  inferInstanceAs (Decidable (_ ∨ _))

/-- An earlier admission of the operation that already serves the request. -/
def RedriveReplays (request : RedriveRequest) (event : ZfEvent) : Prop :=
  event.type = OperationEventType.redriveAdmitted.text ∧
    event.body.textAt "operation_id" = request.operationId ∧
    ((request.compatibilityProofDigest ≠ "" ∧
        event.body.textAt "compatibility_proof_digest" = request.compatibilityProofDigest ∧
        event.body.textAt "recovery_decision_event_id" = request.recoveryDecisionEventId) ∨
      (request.compatibilityProofDigest = "" ∧ request.owner = "kernel_replay" ∧
        event.body.textAt "recovery_decision_owner" = "kernel_replay" ∧
        event.body.textAt "recovery_decision_event_id" = request.recoveryDecisionEventId) ∨
      (request.compatibilityProofDigest = "" ∧ request.owner = "operator_budget_amendment" ∧
        event.body.textAt "recovery_decision_event_id" = request.recoveryDecisionEventId) ∨
      (request.compatibilityProofDigest = "" ∧
        request.owner ∉ ["kernel_replay", "operator_budget_amendment"] ∧
        event.body.textAt "source_attempt_id" = request.sourceAttemptId))

instance (request : RedriveRequest) (event : ZfEvent) : Decidable (RedriveReplays request event) :=
  inferInstanceAs (Decidable (_ ∧ _))

def operationSchema : String := "workflow-operation.v1"

def redriveDraft (request : RedriveRequest) (row : OperationRow) : Draft where
  type := OperationEventType.redriveAdmitted.text
  actor := some "zf-cli"
  origin := "kernel"
  taskId := optional request.taskId
  payload := .obj
    [("schema_version", .str operationSchema), ("workflow_run_id", .str request.workflowRunId),
      ("operation_id", .str request.operationId), ("request_hash", .str request.requestHash),
      ("task_id", .str request.taskId), ("source_attempt_id", .str request.sourceAttemptId),
      ("recovery_decision_event_id", .str request.recoveryDecisionEventId),
      ("recovery_decision_owner", .str request.owner),
      ("recovery_effect_owner", .str "workflow_runtime_coordinator"),
      ("recovery_from_status", .str row.status.text), ("reason", .str request.reason),
      ("compatibility_proof_digest", .str request.compatibilityProofDigest),
      ("compatibility_request_ref", request.compatibilityRequestRef.objectOrEmpty)]
  causationId := optional request.recoveryDecisionEventId
  correlationId := optional request.workflowRunId

def admitTaskPipelineRedrive (writer : Writer) (request : RedriveRequest) (log : Log) :
    Except ServiceError (Option ZfEvent) × Log :=
  match loadWorkflowOperation log request.operationId with
  | .error error => (.error (.reduce error), log)
  | .ok none => (.error (.operation "redrive operation does not exist"), log)
  | .ok (some row) =>
      if row.requestHash ≠ request.requestHash then
        (.error (.operation "redrive request hash diverged"), log)
      else if request.owner ∉ redriveOwners then
        (.error (.operation "redrive decision owner is invalid"), log)
      else
        match findTaskPipelineBudgetAmendment toFloat log row with
        | .error error => (.error (.float error), log)
        | .ok amendment =>
            if ¬ Redrivable log request row amendment then
              (.error (.operation "redrive requires a suspended operation"), log)
            else if ∃ event ∈ log, RedriveReplays request event then (.ok none, log)
            else
              let (event, extended) := writer.append (redriveDraft request row) log
              (.ok (some event), extended)

end ZaofuFormal.Workflow
