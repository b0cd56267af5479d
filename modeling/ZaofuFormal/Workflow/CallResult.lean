import ZaofuFormal.Workflow.OperationService

/-!
# Call result admission

A worker reports the result of an operation.  The result is wrapped in an
envelope, validated, and then admitted, sent back for repair, or refused.  The
adapters and validators read the task store, the repository and sidecar files;
what they answer for one report is an input here.  Everything that happens to
the event log after their answers is modelled.
-/

namespace ZaofuFormal.Workflow

open Foundation

/-- Keep letters, digits and `._-`; every run of other characters is one dash. -/
def safeChars : List Char → List Char
  | [] => []
  | char :: rest =>
      let safe (char : Char) : Bool := (char.isAlphanum || char == '.' || char == '_' || char == '-')
      if safe char then char :: safeChars rest
      else
        match rest with
        | next :: _ => if safe next then '-' :: safeChars rest else safeChars rest
        | [] => ['-']

def safeComponent (text : String) : String :=
  let marks := ['-', '.', '_']
  let trimmed := (((safeChars text.toList).dropWhile (· ∈ marks)).reverse.dropWhile
    (· ∈ marks)).reverse
  if trimmed = [] then "operation" else String.ofList trimmed

def stableOperationId (env : ServiceEnv)
    (workflowRunId parentStageId operationKey operationType : String) : String :=
  let semantic := PyString.join ':' [workflowRunId, parentStageId, operationType, operationKey]
  let parts := ([parentStageId, operationKey].filter fun item => !PyString.isBlank item).map
    fun item => String.ofList ((safeComponent item).toList.take 32)
  let stem := String.ofList ((PyString.join '-' parts).toList.take 72)
  "wop-" ++ firstText [stem, operationType] ++ "-" ++
    String.ofList ((env.textDigest semantic).toList.take 12)

structure OperationIdentity where
  workflowRunId : String
  parentOperationId : String
  operationId : String
  requestHash : String
  deriving DecidableEq

def OperationIdentity.fields (identity : OperationIdentity) : List (String × Json) :=
  [("workflow_run_id", .str identity.workflowRunId),
    ("parent_operation_id", .str identity.parentOperationId),
    ("operation_id", .str identity.operationId), ("request_hash", .str identity.requestHash)]

/-- The operation that an event reports on, from the given operation or its payload. -/
def operationIdentity (env : ServiceEnv) (event : ZfEvent) (payload operation : Json) :
    OperationIdentity :=
  let taskId := event.taskId.getD ""
  let workflowRunId := firstText [operation.textAt "workflow_run_id",
    payload.textAt "workflow_run_id", payload.textAt "trace_id", event.correlationId.getD "",
    payload.textAt "pdd_id", "legacy-" ++ firstText [taskId, "run"]]
  let stageId := firstText [payload.textAt "stage_id", payload.textAt "stage_slot",
    (PyString.splitOn '.' event.type).headD ""]
  let childKey := firstText [payload.textAt "child_id", payload.textAt "task_id", taskId,
    payload.textAt "role_instance", event.actor.getD "", event.type]
  let operationId := firstText [operation.textAt "operation_id", payload.textAt "operation_id",
    stableOperationId env workflowRunId stageId childKey "agent"]
  let requestHash := firstText [operation.textAt "request_hash", payload.textAt "request_hash",
    operationRequestHash env (.obj [("workflow_run_id", .str workflowRunId),
      ("operation_id", .str operationId), ("event_type", .str event.type),
      ("task_id", .str (firstText [taskId, payload.textAt "task_id"])),
      ("stage_id", .str stageId), ("child_id", .str (payload.textAt "child_id")),
      ("target_commit", .str (firstText [payload.textAt "target_commit",
        payload.textAt "source_commit"]))])]
  { workflowRunId, operationId, requestHash
    parentOperationId := firstText [operation.textAt "parent_operation_id",
      payload.textAt "parent_operation_id"] }

def envelopeIdentityKeys : List String :=
  ["workflow_run_id", "goal_id", "parent_operation_id", "operation_id", "request_hash", "task_id",
    "attempt_id", "attempt_domain", "dispatch_id", "producer_stage_id", "producer_role",
    "fanout_id", "child_id", "plan_revision", "plan_synth_contract_ref",
    "plan_synth_contract_digest", "reviewed_plan_candidate_digest",
    "contract_authority_revision", "execution_owner", "workflow_request_id",
    "workflow_request_revision", "origin_binding_digest", "contract_revision",
    "task_map_generation", "feedback_revision", "workflow_generation", "request_revision",
    "generic_workflow_contract_digest", "workflow_intent", "workflow_template",
    "completion_profile", "result_semantics", "goal_claim_set_ref", "goal_claim_set_digest",
    "product_acceptance_required", "product_acceptance_spec_ref",
    "product_acceptance_spec_digest", "product_acceptance_report_ref",
    "product_acceptance_report_digest", "product_acceptance_verdict",
    "provider_qualification_required", "provider_qualification_status",
    "plan_artifact_package_id", "plan_artifact_package_ref", "plan_artifact_package_digest",
    "run_contract_ref", "run_contract_digest", "base_commit", "task_ref",
    "contract_snapshot_ref", "contract_snapshot_digest", "target_snapshot_ref",
    "target_snapshot_digest", "target_commit"]

/-- The payload fields that supply an identity field, in order of preference. -/
def identitySources : String → List String
  | "workflow_run_id" => ["workflow_run_id", "trace_id", "pdd_id"]
  | "task_id" => ["task_id", "upstream_task_id"]
  | "attempt_id" => ["attempt_id", "run_id", "dispatch_id"]
  | "dispatch_id" => ["dispatch_id", "run_id"]
  | "producer_stage_id" => ["producer_stage_id", "stage_id", "stage_slot"]
  | "producer_role" => ["producer_role", "role_instance", "role"]
  | "child_id" => ["child_id", "child_run"]
  | "feedback_revision" => ["feedback_revision", "rework_feedback_digest"]
  | "base_commit" => ["base_commit", "base_git_head"]
  | "target_commit" => ["target_commit", "candidate_head_commit", "source_commit"]
  | key => [key]

/-- The first field that is neither missing nor an empty text, trimmed. -/
def firstField (payload : Json) (keys : List String) : String :=
  match (keys.map payload.get).find? fun value => decide (value ≠ .null ∧ value ≠ .str "") with
  | some value => PyString.strip value.pyStr
  | none => ""

/-- An identity field: the known value, else the payload, else the event. -/
def identityField (event : ZfEvent) (payload : Json) (identity : OperationIdentity)
    (key : String) : String :=
  let known := match key with
    | "workflow_run_id" => identity.workflowRunId
    | "parent_operation_id" => identity.parentOperationId
    | "operation_id" => identity.operationId
    | "request_hash" => identity.requestHash
    | "task_id" => firstText [event.taskId.getD "", payload.textAt "task_id"]
    | _ => ""
  let fallback := match key with
    | "workflow_run_id" => event.correlationId.getD ""
    | "producer_role" => event.actor.getD ""
    | _ => ""
  firstText [known, firstField payload (identitySources key), fallback]

def executionStatus (eventType : String) (payload : Json) : String :=
  let raw := PyString.lowerAscii (firstField payload ["execution_status", "status"])
  if raw ∈ ["failed", "failure", "error"] ∨ ".failed".toList <:+ eventType.toList ∨
      ".blocked".toList <:+ eventType.toList then "failed"
  else "completed"

/-- The distinct trimmed texts of a value or a list of values. -/
def trimmedTexts (value : Json) : List String :=
  let values := match value with
    | .arr items => items
    | other => if other.truthy then [other] else []
  ((values.map fun item : Json => PyString.strip item.pyStr).filter
    fun text => decide (text ≠ "")).eraseDups

def normalizeCallResultEnvelope (event : ZfEvent) (payload controlResult : Json)
    (identity : OperationIdentity) : Json :=
  let status := executionStatus event.type payload
  let repair := if (payload.get "call_result_repair").isObject then payload.get "call_result_repair"
    else .obj [("rounds", .int 0), ("repair_refs", .arr [])]
  .obj
    [("schema_version", .str "call-result-envelope.v1"),
      ("canonicalization_version", .str "call-result-canonical-json.v1"),
      ("identity", .obj (envelopeIdentityKeys.map fun key =>
        (key, .str (identityField event payload identity key)))),
      ("execution", .obj [("status", .str status),
        ("exit_code", .int ((payload.get "exit_code").int?.getD
          (if status = "completed" then 0 else 1))),
        ("provider_session_id", .str (firstField payload
          ["provider_session_id", "provider_session_ref", "session_ref"])),
        ("started_at", .str (firstField payload ["started_at"])),
        ("completed_at", .str (firstField payload ["completed_at"]))]),
      ("control_result", controlResult),
      ("artifact_manifest_ref", .str (firstField payload ["artifact_manifest_ref"])),
      ("artifact_manifest_digest", .str (firstField payload ["artifact_manifest_digest"])),
      ("provider_operation_summary_ref",
        (payload.get "provider_operation_summary_ref").objectOrEmpty),
      ("evidence_refs", .arr ((trimmedTexts (payload.get "evidence_refs")).map .str)),
      ("input_consumption",
        if (payload.get "input_consumption").isObject then payload.get "input_consumption"
        else .obj [("policy_ref", .str (firstField payload ["input_consumption_policy_ref"])),
          ("read_ledger_ref", .str (firstField payload ["read_ledger_ref"])),
          ("read_ledger_digest", .str (firstField payload ["read_ledger_digest"])),
          ("status", .str (firstText [firstField payload ["input_consumption_status"],
            "not_required"]))]),
      ("repair", .obj [("rounds", .int ((repair.get "rounds").int?.getD 0)),
        ("repair_refs", .arr ((trimmedTexts (repair.get "repair_refs")).map .str))]),
      ("source_event_ids", .arr (if event.id = "" then [] else [.str event.id]))]

/-- What identifies a result: its operation, its request and its digest. -/
structure ResultKey where
  operationId : String
  requestHash : String
  resultDigest : String
  deriving DecidableEq

def envelopeIdentityKey (envelope : Json) : ResultKey :=
  let identity := (envelope.get "identity").objectOrEmpty
  ⟨identity.textAt "operation_id", identity.textAt "request_hash",
    (envelope.get "control_result").objectOrEmpty.textAt "sha256"⟩

/-- What the adapters and validators answer for one report. -/
structure Assessment where
  adapterId : String
  schemaVersion : String
  /-- Descriptor of the stored control result. -/
  controlResultRef : Dict String Json
  controlResult : Json
  providerSummaryRef : Option Json := none
  inputPolicy : Json := .obj []
  ledgerDescriptor : Json := .obj []
  adapterIssues : List Json := []
  providerSummaryIssues : List Json := []
  typedIssues : List Json := []
  envelopeIssues : List Json := []
  identityIssues : List Json := []
  /-- Currentness of the operation, the plan package and the task. -/
  authorityIssues : List Json := []
  goalClosureIssues : List Json := []
  artifactIssues : List Json := []
  readIssues : List Json := []

inductive ProtocolMode where
  | shadow
  | warning
  | blocking
  deriving DecidableEq

def ProtocolMode.text : ProtocolMode → String
  | shadow => "shadow"
  | warning => "warning"
  | blocking => "blocking"

/-- A reported result with its assessment; an adapter that does not know the
event answers with a message instead. -/
structure Report where
  event : ZfEvent
  mode : ProtocolMode
  operation : Json := .obj []
  requireSemanticSubmit : Bool := false
  semanticSubmit : Bool := false
  assessment : Except String Assessment

def semanticSubmitIssue : Json :=
  .obj [("field", .str "result_submit"), ("code", .str "semantic_submit_required"),
    ("message", .str
      "the immutable operation requires the controlled semantic result submit path")]

def requiredReadMissing : Json :=
  .obj [("field", .str "input_consumption.read_ledger_ref"), ("code", .str "required_read_missing")]

/-- The artifact issues count for artifact deliveries only. -/
def Assessment.deliveryIssues (assessment : Assessment) : List Json :=
  if assessment.schemaVersion = "artifact-delivery-result.v1" then assessment.artifactIssues
  else []

def Assessment.issues (assessment : Assessment) (report : Report) : List Json :=
  assessment.adapterIssues ++ assessment.providerSummaryIssues ++ assessment.typedIssues ++
    (if report.requireSemanticSubmit && !report.semanticSubmit then [semanticSubmitIssue] else []) ++
    assessment.envelopeIssues ++ assessment.identityIssues ++ assessment.authorityIssues ++
    (if assessment.schemaVersion = "goal-closure-result.v1" then assessment.goalClosureIssues
      else []) ++ assessment.deliveryIssues ++
    (if !assessment.inputPolicy.truthy then []
      else if assessment.ledgerDescriptor.truthy then assessment.readIssues
      else [requiredReadMissing])

/-- The issues by which a result is stale. -/
def Assessment.currentnessIssues (assessment : Assessment) : List Json :=
  assessment.authorityIssues ++ assessment.deliveryIssues.filter fun issue =>
    decide (issue.textAt "code" ∈ ["stale_claim_set_identity", "stale_workflow_generation"])

/-- The payload with the provider summary and the sealed ledger filled in. -/
def Assessment.payload (assessment : Assessment) (event : ZfEvent) : Json :=
  let summarized := match assessment.providerSummaryRef with
    | some ref => Dict.put "provider_operation_summary_ref" ref event.body.fields
    | none => event.body.fields
  .obj (if assessment.inputPolicy.truthy && assessment.ledgerDescriptor.truthy then
      Dict.put "input_consumption_status" (.str "satisfied")
        (Dict.put "read_ledger_digest" (.str (assessment.ledgerDescriptor.textAt "sha256"))
          (Dict.put "read_ledger_ref" (.str (assessment.ledgerDescriptor.textAt "ref")) summarized))
    else summarized)

/-- The descriptor of the control result as the events carry it. -/
def Assessment.descriptor (assessment : Assessment) : Json := .ofDict assessment.controlResultRef

def Assessment.controlRef (assessment : Assessment) : Json :=
  .obj [("schema_version", .str assessment.schemaVersion),
    ("ref", .str (assessment.descriptor.textAt "ref")),
    ("sha256", .str (assessment.descriptor.textAt "sha256"))]

def semanticVerdict (controlResult : Json) : String :=
  firstText [controlResult.textAt "verdict", "pending"]

def productAcceptanceKeys : List String :=
  ["product_acceptance_required", "product_acceptance_spec_ref",
    "product_acceptance_spec_digest", "product_acceptance_report_ref",
    "product_acceptance_report_digest", "product_acceptance_verdict",
    "provider_qualification_required", "provider_qualification_status",
    "provider_qualification_receipt_refs"]

def productAcceptanceProjection (controlResult : Json) : List (String × Json) :=
  (productAcceptanceKeys.map fun key => (key, controlResult.get key)).filter fun field =>
    !decide (field.2 ∈ [.null, .str "", .arr [], .obj []])

def reportedType : String := "workflow.call.result.reported"

def repairRequestedType : String := "workflow.call.result.repair.requested"

def invalidType : String := "workflow.call.result.invalid"

def providerSummaryType : String := "provider.operation.summary.recorded"

/-- Does the payload belong to the operation and request of the key? -/
def ResultKey.Names (key : ResultKey) (payload : Json) : Prop :=
  payload.textAt "operation_id" = key.operationId ∧ payload.textAt "request_hash" = key.requestHash

instance (key : ResultKey) (payload : Json) : Decidable (key.Names payload) :=
  inferInstanceAs (Decidable (_ ∧ _))

def controlDigest (payload : Json) : String :=
  (payload.get "control_result_ref").objectOrEmpty.textAt "sha256"

/-- The latest event of a type that records the result of the key. -/
def latestRecord (type : String) (digest : Json → String) (key : ResultKey) (log : Log) :
    Option ZfEvent :=
  log.reverse.find? fun event => decide (event.type = type ∧ key.Names event.body ∧
    digest event.body = key.resultDigest)

def existingAdmission (key : ResultKey) (log : Log) : Option ZfEvent :=
  latestRecord admittedType controlDigest key log

def existingReported (key : ResultKey) (log : Log) : Option ZfEvent :=
  latestRecord reportedType (fun payload => payload.textAt "result_digest") key log

def existingRepair (key : ResultKey) (log : Log) : Option ZfEvent :=
  latestRecord repairRequestedType
    (fun payload => firstText [payload.textAt "result_digest", controlDigest payload]) key log

def existingInvalid (key : ResultKey) (log : Log) : Option ZfEvent :=
  latestRecord invalidType controlDigest key log

/-- The highest round so far; a round that is no number raises. -/
def noteRepairRound (key : ResultKey) (rounds : Int) (event : ZfEvent) : Option Int :=
  if event.type = repairRequestedType ∧ key.Names event.body then
    (event.body.get "repair_round").intOrZero?.map (max rounds)
  else some rounds

def nextRepairRound (key : ResultKey) (log : Log) : Option Int :=
  (log.foldlM (noteRepairRound key) 0).map (· + 1)

structure AdmissionService where
  env : ServiceEnv
  /-- Is an operation service attached? -/
  operationService : Bool := true
  repairCap : Nat := 2

structure CallResultAdmissionOutcome where
  status : String
  mode : ProtocolMode
  operationId : String := ""
  requestHash : String := ""
  envelopeRef : Option Json := none
  controlResultRef : Option Json := none
  providerOperationSummaryRef : Option Json := none
  issues : List Json := []
  repairRound : Int := 0
  correctionRef : Option Json := none
  correctionDispatchRequired : Bool := false
  admittedEventId : String := ""

/-- A report with the identity, the payload and the envelope worked out. -/
structure AssessedReport where
  report : Report
  assessment : Assessment
  identity : OperationIdentity
  payload : Json
  key : ResultKey
  envelopeRef : Json

def Report.assess (report : Report) (env : ServiceEnv) (assessment : Assessment) :
    AssessedReport :=
  let identity := operationIdentity env report.event report.event.body report.operation
  let payload := assessment.payload report.event
  let envelope :=
    normalizeCallResultEnvelope report.event payload assessment.controlRef identity
  { report, assessment, identity, payload
    key := envelopeIdentityKey envelope
    envelopeRef := writeImmutableJsonSidecar env
      { root := "call-results/envelopes", kind := "call_result_envelope"
        schemaVersion := "call-result-envelope.v1", createdBy := "call-result-admission"
        sourceEventId := report.event.id, body := envelope } }

namespace AssessedReport

variable (assessed : AssessedReport)

def issues : List Json := assessed.assessment.issues assessed.report

def taskId : String :=
  firstText [assessed.report.event.taskId.getD "", assessed.payload.textAt "task_id"]

/-- The target of a service call made for the report. -/
def target (causationId : String) : Target where
  operationId := assessed.key.operationId
  requestHash := assessed.key.requestHash
  workflowRunId := assessed.identity.workflowRunId
  taskId := assessed.taskId
  causationId := causationId
  correlationId := assessed.report.event.correlationId.getD ""

/-- An event about the report. -/
def draft (type causationId : String) (fields : List (String × Json)) : Draft where
  type := type
  actor := some "zf-cli"
  taskId := assessed.report.event.taskId
  payload := .obj fields
  causationId := some causationId
  correlationId := assessed.report.event.correlationId

def reportedDraft : Draft :=
  let issues := assessed.issues
  assessed.draft reportedType assessed.report.event.id
    [("schema_version", .str "call-result-admission.v1"),
      ("workflow_run_id", .str assessed.identity.workflowRunId),
      ("operation_id", .str assessed.key.operationId),
      ("request_hash", .str assessed.key.requestHash),
      ("result_digest", .str assessed.key.resultDigest),
      ("mode", .str assessed.report.mode.text),
      ("adapter_id", .str assessed.assessment.adapterId),
      ("adapter_version", .str "legacy-call-result-adapters.v1"),
      ("envelope_ref", assessed.envelopeRef),
      ("control_result_ref", assessed.assessment.descriptor),
      ("parity", .str (if issues = [] then "match" else "diff")), ("issues", .arr issues),
      ("source_event_id", .str assessed.report.event.id),
      ("source_event_type", .str assessed.report.event.type)]

def invalidDraft (repairCap : Nat) (reportedId reason : String) (issues : List Json)
    (repairRound : Int) : Draft :=
  assessed.draft invalidType reportedId <| assessed.identity.fields ++
    [("schema_version", .str "call-result-admission.v1"), ("envelope_ref", assessed.envelopeRef),
      ("control_result_ref", assessed.assessment.descriptor), ("issues", .arr issues),
      ("repair_round", .int repairRound), ("repair_cap", .int repairCap), ("reason", .str reason),
      ("semantic_attempt_incremented", .bool false)]

def repairDraft (repairCap : Nat) (reportedId : String) (correctionRef : Json)
    (repairRound : Int) : Draft :=
  assessed.draft repairRequestedType reportedId <| assessed.identity.fields ++
    [("schema_version", .str "call-result-repair-request.v1"),
      ("envelope_ref", assessed.envelopeRef),
      ("control_result_ref", assessed.assessment.descriptor),
      ("result_digest", .str assessed.key.resultDigest), ("correction_ref", correctionRef),
      ("issues", .arr assessed.issues), ("repair_round", .int repairRound),
      ("repair_cap", .int repairCap), ("semantic_attempt_incremented", .bool false)]

def admittedDraft (reportedId : String) : Draft :=
  assessed.draft admittedType reportedId <| assessed.identity.fields ++
    [("schema_version", .str "call-result-admission.v1"), ("admission_status", .str "admitted"),
      ("mode", .str assessed.report.mode.text), ("envelope_ref", assessed.envelopeRef),
      ("control_result_ref", assessed.assessment.descriptor),
      ("control_result_schema", .str assessed.assessment.schemaVersion),
      ("semantic_verdict", .str (semanticVerdict assessed.assessment.controlResult))] ++
    productAcceptanceProjection assessed.assessment.controlResult ++
    [("provider_operation_summary_ref", assessed.assessment.providerSummaryRef.getD (.obj [])),
      ("read_ledger_ref", assessed.assessment.ledgerDescriptor),
      ("source_event_id", .str assessed.report.event.id)]

def summaryDraft (admittedId : String) (summaryRef : Json) : Draft :=
  assessed.draft providerSummaryType admittedId <| assessed.identity.fields ++
    [("provider_operation_summary_ref", summaryRef),
      ("semantic_verdict", .str (semanticVerdict assessed.assessment.controlResult)),
      ("admitted_call_result_ref", assessed.envelopeRef)]

/-- The outcome that every refusal of the result shares. -/
def outcome (status : String) (issues : List Json) : CallResultAdmissionOutcome where
  status := status
  mode := assessed.report.mode
  operationId := assessed.key.operationId
  requestHash := assessed.key.requestHash
  envelopeRef := some assessed.envelopeRef
  controlResultRef := some assessed.assessment.descriptor
  issues := issues

end AssessedReport

/-- How a worker is told to correct one issue. -/
def repairInstruction (issue : Json) : String :=
  let field := firstText [issue.textAt "field", "control_result"]
  let message := PyString.strip (issue.textAt "message")
  match firstText [issue.textAt "code", "schema_invalid"] with
  | "missing_required" => "Provide a non-empty value at " ++ field ++ "."
  | "workflow_output_missing" =>
      let source := firstText [message, field]
      "Provide the non-placeholder artifact body at outputs." ++
        (PyString.splitOn '.' source).getLastD "" ++ " for declared port " ++ source ++ "."
  | "semantic_submit_required" =>
      "Use the exact result submit command for the existing operation."
  | _ => "Replace " ++ field ++ " with a value matching the required schema" ++
      (if message = "" then "" else " (" ++ message ++ ")") ++ "."

def writeCorrectionPacket (env : ServiceEnv) (assessed : AssessedReport) (repairRound : Int) :
    Json :=
  let body := assessed.report.event.body
  writeImmutableJsonSidecar env
    { root := "call-results/corrections", kind := "call_result_correction"
      schemaVersion := "call-result-correction.v1", createdBy := "call-result-admission"
      sourceEventId := assessed.report.event.id
      body := .obj <| [("schema_version", .str "call-result-correction.v1")] ++
        assessed.identity.fields ++
        [("task_id", .str (firstText [assessed.report.event.taskId.getD "",
            body.textAt "task_id"])),
          ("attempt_id", .str (firstText [body.textAt "attempt_id", body.textAt "run_id"])),
          ("dispatch_id", .str (firstText [body.textAt "dispatch_id", body.textAt "run_id"])),
          ("invalid_envelope_ref", assessed.envelopeRef),
          ("invalid_control_result_ref", assessed.assessment.descriptor),
          ("required_schema", .str assessed.assessment.schemaVersion),
          ("issues", .arr assessed.issues),
          ("field_repairs", .arr (assessed.issues.map fun issue : Json => .obj
            [("field", .str (firstText [issue.textAt "field", "control_result"])),
              ("code", .str (firstText [issue.textAt "code", "schema_invalid"])),
              ("instruction", .str (repairInstruction issue))])),
          ("repair_round", .int repairRound),
          ("instruction", .str
            "Correct only the result protocol; do not restart implementation work or change product semantics.")] }

/-- Call the operation service, if it is attached and knows the operation. -/
def withOperation (service : AdmissionService) (operationId : String)
    (outcome : CallResultAdmissionOutcome)
    (call : OperationRow → Log → Except ServiceError (Option ZfEvent) × Log) (log : Log) :
    Except ServiceError CallResultAdmissionOutcome × Log :=
  if !service.operationService then (.ok outcome, log)
  else
    match loadWorkflowOperation log operationId with
    | .error error => (.error (.reduce error), log)
    | .ok none => (.ok outcome, log)
    | .ok (some current) =>
        let (result, extended) := call current log
        (result.map fun _ => outcome, extended)

def emitReportedOnce (service : AdmissionService) (assessed : AssessedReport) (log : Log) :
    ZfEvent × Log :=
  match existingReported assessed.key log with
  | some existing => (existing, log)
  | none => service.env.writer.append assessed.reportedDraft log

/-- The recorded stale fact of the result, appended when there is none. -/
def recordStaleOnce (service : AdmissionService) (assessed : AssessedReport)
    (reportedId : String) (log : Log) : ZfEvent × Log :=
  match existingInvalid assessed.key log with
  | some existing => (existing, log)
  | none => service.env.writer.append (assessed.invalidDraft service.repairCap reportedId
      "stale_call_result_superseded" assessed.assessment.currentnessIssues 0) log

/-- A stale result is recorded as invalid and supersedes a settled operation. -/
def reportStale (service : AdmissionService) (assessed : AssessedReport) (reportedId : String)
    (log : Log) : Except ServiceError CallResultAdmissionOutcome × Log :=
  let (invalid, recorded) := recordStaleOnce service assessed reportedId log
  withOperation service assessed.key.operationId
    (assessed.outcome "superseded" assessed.assessment.currentnessIssues)
    (fun current extended =>
      if current.status = .settled then
        supersede service.env (assessed.target invalid.id) "stale_call_result_superseded"
          current.reservationId extended
      else (.ok none, extended)) recorded

/-- After the last round of repair the operation is failed. -/
def exhaustRepair (service : AdmissionService) (assessed : AssessedReport) (reportedId : String)
    (repairRound : Int) (log : Log) : Except ServiceError CallResultAdmissionOutcome × Log :=
  let reason := "output_repair_exhausted"
  let outcome :=
    { assessed.outcome "invalid" assessed.issues with repairRound := repairRound - 1 }
  match existingInvalid assessed.key log with
  | some _ => (.ok outcome, log)
  | none =>
      let (invalid, recorded) := service.env.writer.append (assessed.invalidDraft
        service.repairCap reportedId reason assessed.issues (repairRound - 1)) log
      withOperation service assessed.key.operationId outcome (fun _ extended =>
        fail service.env (assessed.target invalid.id) reason Dict.empty extended) recorded

/-- A result with issues is sent back until the rounds of repair are used up. -/
def reportInvalid (service : AdmissionService) (assessed : AssessedReport) (reportedId : String)
    (log : Log) : Except ServiceError CallResultAdmissionOutcome × Log :=
  let pending := assessed.outcome "repair_pending" assessed.issues
  if assessed.report.mode = .shadow then
    (.ok (assessed.outcome "shadow_invalid" assessed.issues), log)
  else
    match existingRepair assessed.key log with
    | some repair =>
        let correction := repair.body.get "correction_ref"
        match (repair.body.get "repair_round").intOrZero? with
        | none => (.error .integer, log)
        | some repairRound => (.ok { pending with
            repairRound
            correctionRef := if correction.isObject then some correction else none }, log)
    | none =>
        match nextRepairRound assessed.key log with
        | none => (.error .integer, log)
        | some repairRound =>
            if repairRound ≤ service.repairCap then
              let correction := writeCorrectionPacket service.env assessed repairRound
              let (_, extended) := service.env.writer.append (assessed.repairDraft
                service.repairCap reportedId correction repairRound) log
              (.ok { pending with
                repairRound
                correctionRef := some correction
                correctionDispatchRequired := true }, extended)
            else exhaustRepair service assessed reportedId repairRound log

def recordProviderSummary (service : AdmissionService) (assessed : AssessedReport)
    (admittedId : String) (log : Log) : Log :=
  match assessed.assessment.providerSummaryRef with
  | some summaryRef =>
      (service.env.writer.append (assessed.summaryDraft admittedId summaryRef) log).2
  | none => log

/-- A valid result is admitted and settles its operation. -/
def admitResult (service : AdmissionService) (assessed : AssessedReport) (reportedId : String)
    (log : Log) : Except ServiceError CallResultAdmissionOutcome × Log :=
  let (admitted, extended) := service.env.writer.append (assessed.admittedDraft reportedId) log
  withOperation service assessed.key.operationId
    { assessed.outcome "admitted" [] with
      providerOperationSummaryRef := assessed.assessment.providerSummaryRef
      admittedEventId := admitted.id }
    (fun _ current => settle service.env (assessed.target admitted.id) assessed.envelopeRef
      (assessed.assessment.providerSummaryRef.getD (.obj [])) current)
    (recordProviderSummary service assessed admitted.id extended)

/-- The answer to a result that was admitted before. -/
def replayAdmission (assessed : AssessedReport) (existing : ZfEvent) :
    CallResultAdmissionOutcome :=
  let body := existing.body
  let object (key : String) (otherwise : Option Json) : Option Json :=
    if (body.get key).isObject then some (body.get key) else otherwise
  { assessed.outcome (firstText [body.textAt "admission_status", "admitted"]) [] with
    envelopeRef := object "envelope_ref" none
    controlResultRef := object "control_result_ref" (some assessed.assessment.descriptor)
    providerOperationSummaryRef :=
      object "provider_operation_summary_ref" assessed.assessment.providerSummaryRef
    admittedEventId := existing.id }

def reportLegacyResult (service : AdmissionService) (report : Report) (log : Log) :
    Except ServiceError CallResultAdmissionOutcome × Log :=
  match report.assessment with
  | .error message => (.ok
      { status := "unsupported", mode := report.mode
        issues := [.obj [("field", .str "control_result"), ("code", .str "adapter_missing"),
          ("message", .str message)]] }, log)
  | .ok assessment =>
      let assessed := report.assess service.env assessment
      match existingAdmission assessed.key log, assessment.currentnessIssues, assessed.issues with
      | some existing, [], [] => (.ok (replayAdmission assessed existing), log)
      | _, currentness, issues =>
          let (reported, extended) := emitReportedOnce service assessed log
          if currentness ≠ [] then reportStale service assessed reported.id extended
          else if issues ≠ [] then reportInvalid service assessed reported.id extended
          else admitResult service assessed reported.id extended

inductive RuntimeCall where
  | report (report : Report)
  | service (call : ServiceCall)

/-- The log after one call of the runtime. -/
def runtimeStep (service : AdmissionService) (log : Log) : RuntimeCall → Log
  | .report report => (reportLegacyResult service report log).2
  | .service call => serve service.env log call

end ZaofuFormal.Workflow
