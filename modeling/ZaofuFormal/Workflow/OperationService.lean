import ZaofuFormal.Workflow.Redrive

/-!
# The workflow operation service

Every method reads the whole log and appends at most one event.  All methods
but the first request and the redrive go through `emitOnce`, which recognizes a
replay by the type, the operation and the request hash of an earlier event.
Digests are parameters of the service; so is what a stored request reads as,
since the sidecar files can change between two calls.
-/

namespace ZaofuFormal.Workflow

open Foundation

def volatileRequestKeys : List String :=
  ["attempt_id", "briefing_path", "completed_at", "created_at", "dispatch_id", "event_id",
    "last_event_id", "run_id", "started_at", "timestamp", "ts", "workdir"]

def sortFields (fields : List (String × Json)) : List (String × Json) :=
  fields.insertionSort fun first second => first.1 ≤ second.1

mutual

/-- Drop the fields that change from one replay to the next. -/
def canonicalizeOperationRequest : Json → Json
  | .obj fields => .obj (sortFields (canonicalFields fields))
  | .arr items => .arr (canonicalItems items)
  | value => value

def canonicalItems : List Json → List Json
  | [] => []
  | item :: rest => canonicalizeOperationRequest item :: canonicalItems rest

def canonicalFields : List (String × Json) → List (String × Json)
  | [] => []
  | (key, value) :: rest =>
      if key ∈ volatileRequestKeys then canonicalFields rest
      else (key, canonicalizeOperationRequest value) :: canonicalFields rest

end

/-- What the service takes from its surroundings. -/
structure ServiceEnv where
  writer : Writer
  toFloat : Json → Except FloatError FloatValue
  /-- Digest of a text. -/
  textDigest : String → String
  /-- Digest of the compact dump of a value with sorted keys. -/
  requestDigest : Json → String
  /-- Digest of that dump with a final line break, as sidecars store it. -/
  sidecarDigest : Json → String
  /-- Number of bytes of a stored sidecar. -/
  sidecarBytes : Json → Nat

def operationCanonicalization : String := "workflow-operation-request.v1"

def operationRequestHash (env : ServiceEnv) (request : Json) : String :=
  env.requestDigest (.obj [("canonicalization_version", .str operationCanonicalization),
    ("request", canonicalizeOperationRequest request)])

def attemptLocalKeys : List String :=
  ["role_instance", "active_attempt_id", "lease_id", "placement_epoch",
    "task_stage_session_binding", "attempt_source_manifest_ref",
    "attempt_source_manifest_digest", "attempt_source_manifest", "source_manifest_digest",
    "input_consumption_policy_ref", "input_consumption_policy_digest",
    "input_consumption_policy", "read_policy_digest"]

def attemptLocalIdentityKeys : List String :=
  ["role_instance", "active_attempt_id", "attempt_id", "lease_id", "placement_epoch",
    "task_stage_session_binding"]

/-- Remove keys from an object. -/
def withoutKeys (keys : List String) (value : Json) : Json :=
  .obj (value.fields.filter fun field => decide (field.1 ∉ keys))

/-- Replace a field that is an object. -/
def mapObjectField (key : String) (change : Json → Json) (value : Json) : Json :=
  if (value.get key).isObject then .obj (Dict.put key (change (value.get key)) value.fields)
  else value

/-- The request body that is hashed; a task pipeline request drops its attempt. -/
def taskPipelineRequestHashBody (requestBody request : Json) : Json :=
  if PyString.isBlank (request.textAt "task_pipeline_stage") then requestBody
  else
    let semantic := mapObjectField "execution_profile" (withoutKeys ["role"])
      (mapObjectField "result_identity" (withoutKeys attemptLocalIdentityKeys)
        (withoutKeys attemptLocalKeys request))
    .obj (Dict.put "request" (canonicalizeOperationRequest semantic)
      (Dict.put "lease_id" (.str "") (Dict.put "active_attempt_id" (.str "")
        (Dict.put "role_instance" (.str "") requestBody.fields))))

structure Sidecar where
  root : String
  kind : String
  schemaVersion : String
  createdBy : String
  sourceEventId : String
  body : Json

/-- The descriptor of a stored sidecar. -/
def writeImmutableJsonSidecar (env : ServiceEnv) (sidecar : Sidecar) : Json :=
  let digest := env.sidecarDigest sidecar.body
  .obj
    [("ref_schema_version", .str "sidecar-ref.v1"), ("kind", .str sidecar.kind),
      ("ref", .str ("artifacts/" ++ sidecar.root ++ "/" ++ digest ++ ".json")),
      ("sha256", .str digest), ("byte_count", .int (env.sidecarBytes sidecar.body)),
      ("content_type", .str "application/json"), ("schema_version", .str sidecar.schemaVersion),
      ("encoding", .str "utf-8"), ("created_by", .str sidecar.createdBy),
      ("source_event_id", .str sidecar.sourceEventId), ("access_scope", .obj []),
      ("retention", .obj [("class", .str "audit_required")]), ("required", .bool true),
      ("preview", .str "")]

/-- One event that a method asks for. -/
structure Emission where
  operationId : String
  requestHash : String
  workflowRunId : String
  taskId : String := ""
  payload : Dict String Json
  causationId : String := ""
  correlationId : String := ""

def Emission.textAt (emission : Emission) (key : String) : String :=
  (Json.ofDict emission.payload).textAt key

/-- An earlier event that makes the emission a replay. -/
def Replays (type : OperationEventType) (emission : Emission) (event : ZfEvent) : Prop :=
  event.type = type.text ∧ event.body.textAt "operation_id" = emission.operationId ∧
    event.body.textAt "request_hash" = emission.requestHash ∧
    (type = .started →
      emission.textAt "active_attempt_id" = event.body.textAt "active_attempt_id" ∧
      emission.textAt "dispatch_id" = event.body.textAt "dispatch_id") ∧
    (type = .interrupted → emission.causationId = "" ∨
      event.causationId.getD "" = emission.causationId) ∧
    (emission.textAt "source_attempt_id" = "" ∨
      event.body.textAt "source_attempt_id" = emission.textAt "source_attempt_id")

instance (type : OperationEventType) (emission : Emission) (event : ZfEvent) :
    Decidable (Replays type emission event) :=
  inferInstanceAs (Decidable (_ ∧ _))

/-- The payload of the emitted event: the identity fields, overwritten by the body. -/
def Emission.emitted (emission : Emission) (existing : Option OperationRow) : Dict String Json :=
  let taskId := firstText [emission.taskId, (existing.map OperationRow.taskId).getD ""]
  let parentTaskId := (existing.map OperationRow.parentTaskId).getD ""
  let body :=
    if parentTaskId = "" ∨ emission.payload.contains "parent_task_id" then emission.payload
    else emission.payload.insert "parent_task_id" (.str parentTaskId)
  (Dict.ofEntries
    [("schema_version", .str operationSchema), ("workflow_run_id", .str emission.workflowRunId),
      ("operation_id", .str emission.operationId), ("request_hash", .str emission.requestHash),
      ("task_id", .str taskId)]).update body

def Emission.draft (emission : Emission) (type : OperationEventType)
    (existing : Option OperationRow) : Draft where
  type := type.text
  actor := some "zf-cli"
  origin := "kernel"
  taskId := optional (firstText [emission.taskId, (existing.map OperationRow.taskId).getD ""])
  payload := .ofDict (emission.emitted existing)
  causationId := optional emission.causationId
  correlationId := optional (firstText [emission.correlationId, emission.workflowRunId])

/-- Append the event unless it is a replay. -/
def emitOnce (env : ServiceEnv) (type : OperationEventType) (emission : Emission) (log : Log) :
    Except ServiceError (Option ZfEvent) × Log :=
  match reduceWorkflowOperations {} log with
  | .error error => (.error (.reduce error), log)
  | .ok operations =>
      if ∃ event ∈ log, Replays type emission event then (.ok none, log)
      else
        let draft := emission.draft type (operations.get? emission.operationId)
        let (event, extended) := env.writer.append draft log
        (.ok (some event), extended)

structure EnsureRequest where
  workflowRunId : String
  operationId : String
  operationType : String
  request : Json
  parentOperationId : String := ""
  parentStageId : String := ""
  parentAttemptId : String := ""
  taskId : String := ""
  parentTaskId : String := ""
  roleInstance : String := ""
  activeAttemptId : String := ""
  leaseId : String := ""
  childTaskIds : List String := []
  causationId : String := ""
  correlationId : String := ""

structure EnsureOperationResult where
  status : String
  operationId : String
  requestHash : String
  created : Bool := false
  replayHit : Bool := false
  admittedCallResultRef : String := ""
  admittedCallResultDigest : String := ""
  reason : String := ""
  deriving DecidableEq

def EnsureRequest.body (ensure : EnsureRequest) : Json :=
  .obj
    [("schema_version", .str "workflow-operation-request.v1"),
      ("canonicalization_version", .str operationCanonicalization),
      ("workflow_run_id", .str ensure.workflowRunId), ("operation_id", .str ensure.operationId),
      ("operation_type", .str ensure.operationType),
      ("attempt_domain", .str (ensure.request.textAt "attempt_domain")),
      ("parent_operation_id", .str ensure.parentOperationId),
      ("parent_stage_id", .str ensure.parentStageId),
      ("parent_attempt_id", .str ensure.parentAttemptId), ("task_id", .str ensure.taskId),
      ("parent_task_id", .str ensure.parentTaskId), ("role_instance", .str ensure.roleInstance),
      ("active_attempt_id", .str ensure.activeAttemptId), ("lease_id", .str ensure.leaseId),
      ("child_task_ids", .arr (ensure.childTaskIds.map .str)),
      ("request", canonicalizeOperationRequest ensure.request)]

def EnsureRequest.requestHash (env : ServiceEnv) (ensure : EnsureRequest) : String :=
  operationRequestHash env (taskPipelineRequestHashBody ensure.body ensure.request)

/-- The digest and descriptor of a proof that the stored request differs from
the current one by its attempt only.  `stored` reads a request sidecar. -/
def taskPipelineReplayCompatibility (env : ServiceEnv) (stored : Json → Option Json)
    (existing : OperationRow) (requestBody : Json) (requestHash : String) :
    Option (String × Json) :=
  if !existing.requestRef.truthy then none
  else
    match stored existing.requestRef with
    | none => none
    | some persisted =>
        let persistedRequest := persisted.get "request"
        let currentRequest := requestBody.get "request"
        if !persisted.isObject || !persistedRequest.isObject || !currentRequest.isObject ||
            PyString.isBlank (currentRequest.textAt "task_pipeline_stage") then none
        else
          let persistedHash :=
            operationRequestHash env (taskPipelineRequestHashBody persisted persistedRequest)
          let currentHash :=
            operationRequestHash env (taskPipelineRequestHashBody requestBody currentRequest)
          if persistedHash ≠ currentHash ∨ currentHash ≠ requestHash then none
          else
            let descriptor := writeImmutableJsonSidecar env
              { root := "operations/replay-compatibility"
                kind := "task_pipeline_request_replay_compatibility"
                schemaVersion := "task-pipeline-request-replay-compatibility.v1"
                createdBy := "workflow-operation-service"
                sourceEventId := existing.lastEventId
                body := .obj
                  [("schema_version", .str "task-pipeline-request-replay-compatibility.v1"),
                    ("operation_id", .str existing.operationId),
                    ("authoritative_request_hash", .str existing.requestHash),
                    ("compatibility_request_hash", .str currentHash),
                    ("persisted_request_ref", existing.requestRef),
                    ("ignored_attempt_local_fields", .arr [.str "source_manifest_digest",
                      .str "read_policy_digest", .str "execution_profile.role"]),
                    ("current_request", requestBody)] }
            some (descriptor.textAt "sha256", descriptor)

/-- The answer for an operation that exists already. -/
def EnsureRequest.replayed (ensure : EnsureRequest) (existing : OperationRow)
    (status requestHash reason : String) : EnsureOperationResult where
  status := status
  operationId := ensure.operationId
  requestHash := requestHash
  replayHit := true
  admittedCallResultRef := existing.admittedCallResultRef.textAt "ref"
  admittedCallResultDigest := existing.admittedCallResultRef.textAt "sha256"
  reason := reason

def requestedFields (env : ServiceEnv) (ensure : EnsureRequest) : List (String × Json) :=
  [("schema_version", .str operationSchema),
    ("canonicalization_version", .str operationCanonicalization),
    ("call_result_canonicalization_version", .str "call-result-canonical-json.v1"),
    ("workflow_run_id", .str ensure.workflowRunId),
    ("parent_operation_id", .str ensure.parentOperationId),
    ("parent_stage_id", .str ensure.parentStageId),
    ("parent_attempt_id", .str ensure.parentAttemptId),
    ("operation_id", .str ensure.operationId), ("operation_type", .str ensure.operationType),
    ("attempt_domain", .str (ensure.request.textAt "attempt_domain")),
    ("request_hash", .str (ensure.requestHash env)),
    ("request_ref", writeImmutableJsonSidecar env
      { root := "operations/requests", kind := "workflow_operation_request"
        schemaVersion := "workflow-operation-request.v1"
        createdBy := "workflow-operation-service"
        sourceEventId := ensure.causationId, body := ensure.body }),
    ("task_id", .str ensure.taskId), ("parent_task_id", .str ensure.parentTaskId),
    ("role_instance", .str ensure.roleInstance),
    ("active_attempt_id", .str ensure.activeAttemptId), ("lease_id", .str ensure.leaseId),
    ("child_task_ids", .arr (ensure.childTaskIds.map .str))]

def requestedDraft (env : ServiceEnv) (ensure : EnsureRequest) : Draft where
  type := OperationEventType.requested.text
  actor := some "zf-cli"
  origin := "kernel"
  taskId := optional ensure.taskId
  payload := .ofDict
    ((Dict.ofEntries (requestedFields env ensure)).update (taskPipelineRequestFields ensure.request))
  causationId := optional ensure.causationId
  correlationId := optional (firstText [ensure.correlationId, ensure.workflowRunId])

/-- The redrive that a proven replay of a divergent request admits. -/
def EnsureRequest.compatibilityRedrive (ensure : EnsureRequest) (existing : OperationRow)
    (proofDigest : String) (descriptor : Json) : RedriveRequest where
  operationId := ensure.operationId
  requestHash := existing.requestHash
  workflowRunId := ensure.workflowRunId
  taskId := ensure.taskId
  sourceAttemptId := existing.redriveSourceAttemptIds.getLast?.getD ""
  recoveryDecisionEventId := firstText [existing.lastEventId, ensure.causationId]
  reason := "Task Pipeline replay request differs only by attempt-local input evidence"
  recoveryDecisionOwner := "kernel_replay"
  compatibilityProofDigest := proofDigest
  compatibilityRequestRef := descriptor

/-- The blocked event of a divergent request. -/
def EnsureRequest.divergence (ensure : EnsureRequest) (existing : OperationRow)
    (requestHash emittedHash reason : String) : Emission where
  operationId := ensure.operationId
  requestHash := emittedHash
  workflowRunId := ensure.workflowRunId
  taskId := ensure.taskId
  payload := Dict.ofEntries [("reason", .str reason),
    ("expected_request_hash", .str existing.requestHash),
    ("actual_request_hash", .str requestHash)]
  causationId := ensure.causationId
  correlationId := ensure.correlationId

/-- Replay an operation whose stored request is proven compatible. -/
def replayCompatible (env : ServiceEnv) (ensure : EnsureRequest) (existing : OperationRow)
    (proofDigest : String) (descriptor : Json) (log : Log) :
    Except ServiceError EnsureOperationResult × Log :=
  let reason := "task_pipeline_attempt_local_replay"
  if existing.status = .blocked ∧ existing.reason ∈ compatibilityReasons then
    let (outcome, extended) := admitTaskPipelineRedrive env.toFloat env.writer
      (ensure.compatibilityRedrive existing proofDigest descriptor) log
    (outcome.map fun _ => ensure.replayed existing "requested" existing.requestHash reason,
      extended)
  else (.ok (ensure.replayed existing existing.status.text existing.requestHash reason), log)

/-- Block an operation whose request differs from the stored one. -/
def blockDivergent (env : ServiceEnv) (ensure : EnsureRequest) (existing : OperationRow)
    (log : Log) : Except ServiceError EnsureOperationResult × Log :=
  let requestHash := ensure.requestHash env
  let failedAgain := existing.status = .blocked ∧ existing.reason = divergenceReason
  let reason := if failedAgain then "request_hash_compatibility_failed" else divergenceReason
  let emittedHash := if failedAgain then existing.requestHash else requestHash
  let (outcome, extended) := emitOnce env .blocked
    (ensure.divergence existing requestHash emittedHash reason) log
  (outcome.map fun _ =>
    { status := "divergent", operationId := ensure.operationId, requestHash, reason }, extended)

def ensureOperation (env : ServiceEnv) (stored : Json → Option Json) (ensure : EnsureRequest)
    (log : Log) : Except ServiceError EnsureOperationResult × Log :=
  let requestHash := ensure.requestHash env
  match loadWorkflowOperation log ensure.operationId with
  | .error error => (.error (.reduce error), log)
  | .ok none =>
      (.ok { status := "requested", operationId := ensure.operationId, requestHash,
             created := true }, (env.writer.append (requestedDraft env ensure) log).2)
  | .ok (some existing) =>
      if existing.requestHash ≠ "" ∧ existing.requestHash ≠ requestHash then
        match taskPipelineReplayCompatibility env stored existing ensure.body requestHash with
        | some (proofDigest, descriptor) =>
            replayCompatible env ensure existing proofDigest descriptor log
        | none => blockDivergent env ensure existing log
      else (.ok (ensure.replayed existing existing.status.text requestHash ""), log)

structure Reservation where
  operationId : String
  requestHash : String
  workflowRunId : String
  continuationKey : String
  expectedGeneration : String
  expectedPackageRef : String
  expectedPackageDigest : String
  pendingActionDigest : String
  budgetSnapshot : Json
  reservationExpiresAt : String
  parentOperationId : String := ""
  taskId : String := ""
  causationId : String := ""
  correlationId : String := ""

structure ReserveOperationResult where
  status : String
  operationId : String
  requestHash : String
  reservationId : String := ""
  idempotencyKey : String := ""
  created : Bool := false
  replayHit : Bool := false
  reason : String := ""
  deriving DecidableEq

def stableContinuationReservationId (env : ServiceEnv) (reservation : Reservation) : String :=
  "wres-" ++ String.ofList ((env.textDigest (PyString.join ':' [reservation.workflowRunId,
    reservation.continuationKey, reservation.expectedGeneration])).toList.take 24)

def stableContinuationIdempotencyKey (env : ServiceEnv) (reservation : Reservation) : String :=
  "widem-" ++ env.textDigest (PyString.join ':' ["continuation-dispatch.v1",
    reservation.workflowRunId, reservation.continuationKey, reservation.expectedGeneration])

def Reservation.emission (env : ServiceEnv) (reservation : Reservation) : Emission where
  operationId := reservation.operationId
  requestHash := reservation.requestHash
  workflowRunId := reservation.workflowRunId
  taskId := reservation.taskId
  payload := Dict.ofEntries
    [("reservation_id", .str (stableContinuationReservationId env reservation)),
      ("reservation_expires_at", .str reservation.reservationExpiresAt),
      ("continuation_key", .str reservation.continuationKey),
      ("expected_generation", .str reservation.expectedGeneration),
      ("expected_package_ref", .str reservation.expectedPackageRef),
      ("expected_package_digest", .str reservation.expectedPackageDigest),
      ("parent_operation_id", .str reservation.parentOperationId),
      ("pending_action_digest", .str reservation.pendingActionDigest),
      ("budget_snapshot", reservation.budgetSnapshot.objectOrEmpty),
      ("idempotency_key", .str (stableContinuationIdempotencyKey env reservation)),
      ("semantic_attempt_consumed", .bool false)]
  causationId := reservation.causationId
  correlationId := reservation.correlationId

def reserveContinuation (env : ServiceEnv) (reservation : Reservation) (log : Log) :
    Except ServiceError ReserveOperationResult × Log :=
  let reservationId := stableContinuationReservationId env reservation
  let idempotencyKey := stableContinuationIdempotencyKey env reservation
  let answer : ReserveOperationResult :=
    { status := "reserved", operationId := reservation.operationId
      requestHash := reservation.requestHash }
  match loadWorkflowOperation log reservation.operationId with
  | .error error => (.error (.reduce error), log)
  | .ok none =>
      (.ok { answer with status := "missing", reason := "workflow_operation_missing" }, log)
  | .ok (some existing) =>
      if existing.requestHash ≠ reservation.requestHash then
        (.ok { answer with status := "divergent", reason := divergenceReason }, log)
      else if existing.status ∈ [OperationStatus.reserved, .running] ∨ existing.status.Terminal then
        if existing.reservationId ≠ "" ∧ existing.reservationId ≠ reservationId then
          (.ok { answer with
            status := "divergent", reason := "reservation_identity_divergence" }, log)
        else
          (.ok { answer with
            status := existing.status.text
            reservationId := firstText [existing.reservationId, reservationId]
            idempotencyKey := firstText [existing.idempotencyKey, idempotencyKey]
            replayHit := true
            reason := existing.reason }, log)
      else
        let (outcome, extended) := emitOnce env .reserved (reservation.emission env) log
        (outcome.map fun _ => { answer with reservationId, idempotencyKey, created := true },
          extended)

/-- The operation that a method names, with the origin of its event. -/
structure Target where
  operationId : String
  requestHash : String
  workflowRunId : String
  taskId : String := ""
  causationId : String := ""
  correlationId : String := ""

def Target.emission (target : Target) (payload : Dict String Json) : Emission where
  operationId := target.operationId
  requestHash := target.requestHash
  workflowRunId := target.workflowRunId
  taskId := target.taskId
  payload := payload
  causationId := target.causationId
  correlationId := target.correlationId

/-- The attempt that a started event announces. -/
structure StartedAttempt where
  dispatchId : String := ""
  roleInstance : String := ""
  activeAttemptId : String := ""
  leaseId : String := ""
  providerSessionId : String := ""
  contextDeliveryEnvelopeRef : Json := .obj []
  contextDeliveryReceiptRef : Json := .obj []
  contextDeliveryReceiptError : String := ""
  budgetSnapshot : Json := .obj []
  reservationId : String := ""
  idempotencyKey : String := ""

def startedEmission (target : Target) (attempt : StartedAttempt) : Emission :=
  target.emission <| Dict.ofEntries
    [("dispatch_id", .str attempt.dispatchId), ("role_instance", .str attempt.roleInstance),
      ("active_attempt_id", .str attempt.activeAttemptId), ("lease_id", .str attempt.leaseId),
      ("provider_session_id", .str attempt.providerSessionId),
      ("context_delivery_envelope_ref", attempt.contextDeliveryEnvelopeRef.objectOrEmpty),
      ("context_delivery_receipt_ref", attempt.contextDeliveryReceiptRef.objectOrEmpty),
      ("context_delivery_receipt_error",
        .str (String.ofList (attempt.contextDeliveryReceiptError.toList.take 512))),
      ("budget_snapshot", attempt.budgetSnapshot.objectOrEmpty),
      ("reservation_id", .str attempt.reservationId),
      ("idempotency_key", .str attempt.idempotencyKey)]

def markStarted (env : ServiceEnv) (target : Target) (attempt : StartedAttempt) (log : Log) :
    Except ServiceError (Option ZfEvent) × Log :=
  emitOnce env .started (startedEmission target attempt) log

def supersedeEmission (target : Target) (reason reservationId : String) : Emission :=
  target.emission <| Dict.ofEntries [("reason", .str reason),
    ("reservation_id", .str reservationId), ("semantic_attempt_consumed", .bool false)]

def supersede (env : ServiceEnv) (target : Target) (reason reservationId : String) (log : Log) :
    Except ServiceError (Option ZfEvent) × Log :=
  emitOnce env .superseded (supersedeEmission target reason reservationId) log

/-- The attempt of a transport retry. -/
structure RetryAttempt where
  retryAttempt : Int
  reason : String
  dispatchId : String := ""
  roleInstance : String := ""
  activeAttemptId : String := ""
  leaseId : String := ""

def retryEmission (target : Target) (retry : RetryAttempt) : Emission :=
  target.emission <| Dict.ofEntries
    [("retry_attempt", .int retry.retryAttempt), ("recovery_class", .str "transient_transport"),
      ("reason", .str retry.reason), ("dispatch_id", .str retry.dispatchId),
      ("role_instance", .str retry.roleInstance),
      ("active_attempt_id", .str retry.activeAttemptId), ("lease_id", .str retry.leaseId)]

def markRetryStarted (env : ServiceEnv) (target : Target) (retry : RetryAttempt) (log : Log) :
    Except ServiceError (Option ZfEvent) × Log :=
  if retry.retryAttempt ≠ 1 then
    (.error (.operation "workflow operation transport retry must be exactly attempt 1"), log)
  else
    match loadWorkflowOperation log target.operationId with
    | .error error => (.error (.reduce error), log)
    | .ok none => (.error (.operation "workflow operation retry identity mismatch"), log)
    | .ok (some current) =>
        if current.requestHash ≠ target.requestHash then
          (.error (.operation "workflow operation retry identity mismatch"), log)
        else if current.status ∉ [OperationStatus.suspended, .failed] then
          (.error (.operation "workflow operation retry requires suspended or failed status"), log)
        else emitOnce env .retryStarted (retryEmission target retry) log

def settleEmission (target : Target) (admittedCallResultRef providerOperationSummaryRef : Json) :
    Emission :=
  target.emission <| Dict.ofEntries
    [("admitted_call_result_ref", admittedCallResultRef.objectOrEmpty),
      ("provider_operation_summary_ref", providerOperationSummaryRef.objectOrEmpty),
      ("reason", .str "admitted_call_result")]

/-- Settle the operation on a stored result, which must have a reference and a digest. -/
def settle (env : ServiceEnv) (target : Target)
    (admittedCallResultRef providerOperationSummaryRef : Json) (log : Log) :
    Except ServiceError (Option ZfEvent) × Log :=
  if admittedCallResultRef.textAt "ref" = "" ∨ admittedCallResultRef.textAt "sha256" = "" then
    (.error (.operation "settled operation requires admitted call-result ref"), log)
  else
    emitOnce env .settled
      (settleEmission target admittedCallResultRef providerOperationSummaryRef) log

def cancelEmission (target : Target) (reason : String) : Emission :=
  target.emission (Dict.ofEntries [("reason", .str reason)])

def cancel (env : ServiceEnv) (target : Target) (reason : String) (log : Log) :
    Except ServiceError (Option ZfEvent) × Log :=
  emitOnce env .cancelled (cancelEmission target reason) log

/-- The body of a failed or blocked event; the details may overwrite every field. -/
def detailedEmission (target : Target) (reason : String) (details : Dict String Json) : Emission :=
  target.emission ((Dict.ofEntries [("reason", .str reason)]).update details)

def block (env : ServiceEnv) (target : Target) (reason : String) (details : Dict String Json)
    (log : Log) : Except ServiceError (Option ZfEvent) × Log :=
  emitOnce env .blocked (detailedEmission target reason details) log

def fail (env : ServiceEnv) (target : Target) (reason : String) (details : Dict String Json)
    (log : Log) : Except ServiceError (Option ZfEvent) × Log :=
  emitOnce env .failed (detailedEmission target reason details) log

def interruptEmission (target : Target) (reason sourceAttemptId : String) : Emission :=
  target.emission <| Dict.ofEntries
    [("reason", .str reason), ("source_attempt_id", .str sourceAttemptId)]

def interrupt (env : ServiceEnv) (target : Target) (reason sourceAttemptId : String) (log : Log) :
    Except ServiceError (Option ZfEvent) × Log :=
  emitOnce env .interrupted (interruptEmission target reason sourceAttemptId) log

def admitRedrive (env : ServiceEnv) (request : RedriveRequest) (log : Log) :
    Except ServiceError (Option ZfEvent) × Log :=
  admitTaskPipelineRedrive env.toFloat env.writer request log

inductive ServiceCall where
  | ensure (stored : Json → Option Json) (request : EnsureRequest)
  | reserve (reservation : Reservation)
  | markStarted (target : Target) (attempt : StartedAttempt)
  | supersede (target : Target) (reason reservationId : String)
  | markRetryStarted (target : Target) (retry : RetryAttempt)
  | settle (target : Target) (admittedCallResultRef providerOperationSummaryRef : Json)
  | cancel (target : Target) (reason : String)
  | block (target : Target) (reason : String) (details : Dict String Json)
  | interrupt (target : Target) (reason sourceAttemptId : String)
  | admitRedrive (request : RedriveRequest)
  | fail (target : Target) (reason : String) (details : Dict String Json)

/-- The log after a call; an exception keeps what was appended before it. -/
def serve (env : ServiceEnv) (log : Log) : ServiceCall → Log
  | .ensure stored request => (ensureOperation env stored request log).2
  | .reserve reservation => (reserveContinuation env reservation log).2
  | .markStarted target attempt => (markStarted env target attempt log).2
  | .supersede target reason reservationId => (supersede env target reason reservationId log).2
  | .markRetryStarted target retry => (markRetryStarted env target retry log).2
  | .settle target result summary => (settle env target result summary log).2
  | .cancel target reason => (cancel env target reason log).2
  | .block target reason details => (block env target reason details log).2
  | .interrupt target reason sourceAttemptId => (interrupt env target reason sourceAttemptId log).2
  | .admitRedrive request => (admitRedrive env request log).2
  | .fail target reason details => (fail env target reason details log).2

end ZaofuFormal.Workflow
