import ZaofuFormal.Requests.RequirementSpec

/-!
# Workflow requests

A request is a projection file that names a requirement spec by path and
digest.  Specs are written under names that hold their revision and the
beginning of their digest.  An operation reads the files, and writes specs and
projections by replacing whole files; nothing locks them.  The effective
manifest that an operation also writes and the events that it emits are read by
no operation on requests.
-/

namespace ZaofuFormal.Requests

open Foundation
open Fallible (refuse required)

inductive RequestStatus where
  | draft
  | clarifying
  | ready
  | proposed
  | approved
  | submitted
  | running
  | rejected
  deriving DecidableEq

def RequestStatus.text : RequestStatus → String
  | .draft => "draft"
  | .clarifying => "clarifying"
  | .ready => "ready"
  | .proposed => "proposed"
  | .approved => "approved"
  | .submitted => "submitted"
  | .running => "running"
  | .rejected => "rejected"

def requestStatuses : List RequestStatus :=
  [.draft, .clarifying, .ready, .proposed, .approved, .submitted, .running, .rejected]

def requestTransitions : RequestStatus → List RequestStatus
  | .draft | .ready => [.proposed]
  | .proposed => [.approved, .rejected]
  | .approved => [.submitted]
  | .submitted => [.running]
  | .running | .clarifying | .rejected => []

structure OriginBinding where
  surface : String
  source : String
  projectId : String
  channelId : String
  threadId : String
  conversationId : String
  threadKey : String
  deriving DecidableEq

structure ResearchArtifact where
  artifactRef : String
  sha256 : String
  summary : String
  requestRevision : Int
  sourceEventId : String
  resultEventId : String
  taskId : String
  workflowRunId : String
  terminalEventId : String
  channelId : String
  threadId : String
  originBinding : OriginBinding
  adoptedBy : String
  adoptedAt : String

/-- The reference to a stored artifact. -/
structure ArtifactRef where
  ref : String
  sha256 : String
  deriving DecidableEq

/-- The file `<request>/requirements/revision-<revision>-<digest>.json`. -/
structure SpecPath where
  request : String
  revision : Int
  digest : List Char
  deriving DecidableEq

structure Projection where
  requestId : String
  projectId : String
  kind : String
  source : String
  channelId : String
  threadId : String
  originBinding : OriginBinding
  status : RequestStatus
  revision : Int
  requirementSpecRef : SpecPath
  requirementSpecDigest : String
  missingRequiredFields : List String
  openQuestions : List String
  clarificationAnswerCount : Nat
  confirmed : Bool
  runId : String
  createdAt : String
  updatedAt : String
  proposalRef : Option ArtifactRef := none
  proposalDigest : String := ""
  proposalRevision : Int := 0
  synthesisRef : Option ArtifactRef := none
  synthesisDigest : String := ""
  synthesisRevision : Int := 0
  selectedFlowFamily : String := ""
  synthesisOperationId : String := ""
  synthesisRequestHash : String := ""
  synthesisOperationRevision : Int := 0
  rejectionReason : String := ""
  researchArtifacts : List ResearchArtifact := []

/-- The projection of each request, by the safe form of its id, and the specs, by path. -/
structure Files where
  requests : Dict String Projection
  specs : Dict SpecPath RequirementSpec

def Files.empty : Files := ⟨Dict.empty, Dict.empty⟩

/-- What the requests take from their surroundings: letters and digits of
Unicode, the SHA-256 of the sorted text of a spec and of an origin binding, and
the redaction of a text. -/
structure Env where
  isAlnum : Char → Bool
  specDigest : RequirementSpec → String
  bindingDigest : OriginBinding → String
  redact : String → String

/-- The answer of an operation and the files that it leaves behind. -/
abbrev Outcome (α : Type) : Type := Except RequestError α × Files

/-- Go on with a computed value, or stop with its error and the files as they are. -/
def attempt {α β : Type} (computed : Except RequestError α) (files : Files)
    (next : α → Outcome β) : Outcome β :=
  match computed with
  | .error error => (.error error, files)
  | .ok value => next value

/-- Run a second operation on what a first one returned and left behind. -/
def andThen {α β : Type} (first : Outcome α) (next : α → Files → Outcome β) : Outcome β :=
  attempt first.1 first.2 fun value => next value first.2

def safeId (env : Env) (value : String) : String :=
  let chars := value.toList.map fun char =>
    if env.isAlnum char || char ∈ ['-', '_', '.'] then char else '-'
  if chars = [] then "request" else String.ofList chars

def loadWorkflowRequest (env : Env) (files : Files) (requestId : String) : Option Projection :=
  files.requests.get? (safeId env requestId)

def requestNotFound (requestId : String) : RequestError :=
  .request ("workflow request not found: " ++ requestId)

def writeProjection (env : Env) (files : Files) (projection : Projection) : Files :=
  { files with requests := files.requests.insert (safeId env projection.requestId) projection }

def returnSurfaces : List String := ["channel", "kanban_agent", "cli"]

def originSchemaVersion : String := "workflow-origin-binding.v1"

/-- `normalize_workflow_origin_binding` with `allow_legacy_empty_project`. -/
def normalizeOriginBinding (env : Env) (raw : Json) : Except RequestError OriginBinding := do
  let field := fun key => PyString.strip (raw.textAt key)
  refuse (PyString.strip (orElse (raw.get "schema_version") (.str originSchemaVersion)).text ≠
    originSchemaVersion)
    (.request ("workflow origin binding schema_version must be " ++ originSchemaVersion))
  let surface := String.ofList ((PyString.lowerWord (field "surface")).toList.map fun char =>
    if char = '-' then '_' else char)
  refuse (surface ∉ returnSurfaces)
    (.request "workflow origin surface must be channel, kanban_agent, or cli")
  refuse (surface = "channel" ∧ field "channel_id" = "")
    (.request "channel workflow origin binding requires channel_id")
  refuse (surface = "kanban_agent" ∧ field "conversation_id" = "")
    (.request "kanban_agent workflow origin binding requires conversation_id")
  let first := fun (texts : List String) => (texts.find? fun text => decide (text ≠ "")).getD ""
  return {
    surface := env.redact surface
    source := env.redact (field "source")
    projectId := env.redact (field "project_id")
    channelId := env.redact (if surface = "channel" then field "channel_id" else "")
    threadId := env.redact (if surface = "channel" then first [field "thread_id", "main"] else "")
    conversationId :=
      env.redact (if surface = "kanban_agent" then field "conversation_id" else "")
    threadKey := env.redact (if surface = "kanban_agent" then
      first [field "thread_key", field "thread_id", "main"] else "") }

def OriginBinding.json (binding : OriginBinding) : Json :=
  .obj [("schema_version", .str originSchemaVersion), ("surface", .str binding.surface),
    ("source", .str binding.source), ("project_id", .str binding.projectId),
    ("channel_id", .str binding.channelId), ("thread_id", .str binding.threadId),
    ("conversation_id", .str binding.conversationId), ("thread_key", .str binding.threadKey)]

def originFromRequest (env : Env) (projection : Projection) : Except RequestError OriginBinding :=
  normalizeOriginBinding env projection.originBinding.json

def originFromManifest (env : Env) (manifest : Json) : Except RequestError OriginBinding :=
  if (manifest.get "origin_binding").isObject then
    normalizeOriginBinding env (manifest.get "origin_binding")
  else
    let channelId := PyString.strip (manifest.textAt "channel_id")
    let conversationId := PyString.strip (manifest.textAt "conversation_id")
    normalizeOriginBinding env (.obj [
      ("surface", .str (if channelId ≠ "" then "channel"
        else if conversationId ≠ "" then "kanban_agent" else "cli")),
      ("source", .str (orElse (manifest.get "source") (.str "legacy")).text),
      ("project_id", .str (manifest.textAt "project_id")), ("channel_id", .str channelId),
      ("thread_id", .str (manifest.textAt "thread_id")),
      ("conversation_id", .str conversationId),
      ("thread_key", .str (manifest.textAt "thread_key"))])

def originDigest (env : Env) (binding : OriginBinding) : Except RequestError String := do
  return env.bindingDigest (← normalizeOriginBinding env binding.json)

def assertSameOrigin (env : Env) (expected actual : OriginBinding) : Except RequestError Unit := do
  refuse ((← originDigest env expected) ≠ (← originDigest env actual))
    (.request "workflow origin binding does not match the canonical request origin")

/-- `value or 1`. -/
def orOne (value : Int) : Int := if value = 0 then 1 else value

/-- The path and the digest of a written spec. -/
def writeRequirementSpec (env : Env) (files : Files) (spec : RequirementSpec) :
    Outcome (SpecPath × String) :=
  attempt (refuse (PyString.strip spec.requestId = "")
    (.request "requirement spec requires request_id")) files fun _ =>
    let digest := env.specDigest spec
    let path : SpecPath := ⟨safeId env (PyString.strip spec.requestId), orOne spec.revision,
      digest.toList.take 16⟩
    (.ok (path, digest), { files with specs := files.specs.insert path spec })

def firstText (texts : List String) : String :=
  (texts.find? fun text => decide (text ≠ "")).getD ""

def priorText (prior : Option Projection) (field : Projection → String) : String :=
  (prior.map field).getD ""

/-- A request keeps the origin that it was registered with. -/
def originOf (env : Env) (manifest : Json) (prior : Option Projection) :
    Except RequestError OriginBinding :=
  match prior with
  | some prior => .ok prior.originBinding
  | none => originFromManifest env manifest

/-- `_projection`. -/
def projectionOf (env : Env) (manifest : Json) (spec : RequirementSpec) (specRef : SpecPath)
    (digest : String) (prior : Option Projection) (now : String) :
    Except RequestError Projection := do
  let missing ← missingFields spec
  let questions := stringsOf spec.openQuestions
  let originBinding ← originOf env manifest prior
  return {
    requestId := spec.requestId
    projectId := spec.projectId
    kind := spec.kind
    source := firstText [manifest.textAt "source", priorText prior Projection.source]
    channelId := firstText [manifest.textAt "channel_id", priorText prior Projection.channelId]
    threadId := firstText [manifest.textAt "thread_id", priorText prior Projection.threadId]
    originBinding
    status := if missing ≠ [] ∨ questions ≠ [] then .clarifying
      else if spec.confirmed then .ready else .draft
    revision := orOne spec.revision
    requirementSpecRef := specRef
    requirementSpecDigest := digest
    missingRequiredFields := missing
    openQuestions := questions
    clarificationAnswerCount := (normalizeClarificationAnswers
      (.arr (spec.clarificationAnswers.map Clarification.json))).length
    confirmed := spec.confirmed
    runId := priorText prior Projection.runId
    createdAt := firstText
      [priorText prior Projection.createdAt, manifest.textAt "created_at", now]
    updatedAt := now }

/-- `_bind_effective_manifest` goes through the `artifact_refs` of the manifest, which it writes
to a file of its own. -/
def effectiveRefs (manifest : Json) : Except RequestError (List Json) :=
  conversion (manifest.get "artifact_refs").list?

/-- Write a spec and replace the projection by the one that is built from it. -/
def storeRevision (env : Env) (files : Files) (manifest : Json) (spec : RequirementSpec)
    (prior : Option Projection) (now : String) : Outcome Projection :=
  andThen (writeRequirementSpec env files spec) fun (specRef, digest) files =>
    attempt (do
      let projection ← projectionOf env manifest spec specRef digest prior now
      let _ ← effectiveRefs manifest
      return projection) files fun projection =>
      (.ok projection, writeProjection env files projection)

def currentSpec (files : Files) (projection : Projection) : Except RequestError RequirementSpec :=
  required (files.specs.get? projection.requirementSpecRef)
    (.request "current requirement spec is missing")

/-- The manifest file of a request, and the intake file that it refers to. -/
structure Register where
  manifest : Json
  intake : Json
  now : String

def manifestRequestId (manifest : Json) : String := PyString.strip (manifest.textAt "request_id")

def registerAgain (env : Env) (files : Files) (call : Register) (existing : Projection) :
    Outcome Projection :=
  attempt (do
    let incoming ← originFromManifest env call.manifest
    let origin ← originFromRequest env existing
    assertSameOrigin env origin incoming
    return (origin, ← currentSpec files existing)) files fun (origin, current) =>
    andThen (writeRequirementSpec env files current) fun (specRef, digest) files =>
      attempt (effectiveRefs call.manifest) files fun _ =>
        let projection := { existing with
          originBinding := origin
          requirementSpecRef := specRef
          requirementSpecDigest := digest }
        (.ok projection, writeProjection env files projection)

def registerFirst (env : Env) (files : Files) (call : Register) : Outcome Projection :=
  attempt (buildRequirementSpec call.manifest call.intake 1 false call.now) files fun spec =>
    storeRevision env files call.manifest spec none call.now

def registerWorkflowIntake (env : Env) (files : Files) (call : Register) : Outcome Projection :=
  attempt (refuse (manifestRequestId call.manifest = "")
    (.request "workflow input manifest requires request_id")) files fun _ =>
    match loadWorkflowRequest env files (manifestRequestId call.manifest) with
    | some existing => registerAgain env files call existing
    | none => registerFirst env files call

structure Revise where
  manifest : Json
  intake : Json
  actor : String
  objective : Option String := none
  sourceRoot : Option String := none
  targetRoot : Option String := none
  acceptance : Option (List String) := none
  constraints : Option (List String) := none
  openQuestions : Option (List String) := none
  clarificationAnswers : Option Json := none
  confirm : Bool := false
  expectedRevision : Option Int := none
  expectedRequirementDigest : String := ""
  revisionReason : String := "requirement_update"
  now : String

def revisionReasons : List String := ["clarification", "requirement_update", "semantic_replan"]

/-- `check_workflow_request_preconditions`. -/
def checkPreconditions (prior : Projection) (expectedRevision : Option Int)
    (expectedRequirementDigest : String) : Except RequestError Unit := do
  refuse (expectedRevision.any fun expected => decide (expected ≠ prior.revision))
    (.conflict ("stale workflow request revision: expected " ++
      toString (expectedRevision.getD 0) ++ ", current " ++ toString prior.revision))
  let expectedDigest := PyString.strip expectedRequirementDigest
  let currentDigest := PyString.strip prior.requirementSpecDigest
  refuse (expectedDigest ≠ "" ∧ expectedDigest ≠ currentDigest)
    (.conflict ("stale workflow requirement digest: expected " ++ expectedDigest ++
      ", current " ++ currentDigest))

/-- What a revision has read before it writes. -/
structure Observed where
  prior : Projection
  current : RequirementSpec

def loadOrRegister (env : Env) (files : Files) (call : Revise) : Outcome Projection :=
  match loadWorkflowRequest env files (manifestRequestId call.manifest) with
  | some prior => (.ok prior, files)
  | none => registerWorkflowIntake env files ⟨call.manifest, call.intake, call.now⟩

/-- The reading phase: load the request, check what the caller expects of it,
and read its current spec. -/
def readRevision (env : Env) (files : Files) (call : Revise) : Outcome Observed :=
  attempt (do
    let reason := PyString.lowerWord (PyString.strip
      (firstText [call.revisionReason, "requirement_update"]))
    refuse (reason ∉ revisionReasons)
      (.request ("unsupported workflow request revision reason: " ++ reason))
    refuse (manifestRequestId call.manifest = "")
      (.request "workflow input manifest requires request_id")) files fun _ =>
    andThen (loadOrRegister env files call) fun prior files =>
      attempt (do
        checkPreconditions prior call.expectedRevision call.expectedRequirementDigest
        currentSpec files prior) files fun current => (.ok ⟨prior, current⟩, files)

def revisedSpec (call : Revise) (observed : Observed) : RequirementSpec :=
  let spec := observed.current
  normalizeRequirementSpec { spec with
    revision := observed.prior.revision + 1
    updatedAt := call.now
    objective := call.objective.getD spec.objective
    sourceRoot := call.sourceRoot.getD spec.sourceRoot
    targetRoot := call.targetRoot.getD spec.targetRoot
    acceptance := call.acceptance.getD spec.acceptance
    constraints := call.constraints.getD spec.constraints
    openQuestions := call.openQuestions.getD spec.openQuestions
    clarificationAnswers :=
      match call.clarificationAnswers with
      | some updates => mergeClarificationAnswers spec.clarificationAnswers updates
      | none => spec.clarificationAnswers
    confirmed := call.confirm || spec.confirmed
    confirmedAt := if call.confirm then call.now else spec.confirmedAt
    confirmedBy := if call.confirm then call.actor else spec.confirmedBy }

/-- The writing phase: write the new spec, then replace the projection. -/
def writeRevision (env : Env) (files : Files) (call : Revise) (observed : Observed) :
    Outcome Projection :=
  storeRevision env files call.manifest (revisedSpec call observed) (some observed.prior) call.now

def reviseWorkflowRequest (env : Env) (files : Files) (call : Revise) : Outcome Projection :=
  andThen (readRevision env files call) fun observed files => writeRevision env files call observed

/-- A projection to be returned as it is, or one to be written first. -/
inductive Binding where
  | unchanged (projection : Projection)
  | written (projection : Projection)

def applyBinding (env : Env) (files : Files) (requestId : String)
    (bind : Projection → Except RequestError Binding) : Outcome Projection :=
  attempt (do
    let projection ← required (loadWorkflowRequest env files requestId) (requestNotFound requestId)
    bind projection) files fun binding =>
    match binding with
    | .unchanged projection => (.ok projection, files)
    | .written projection => (.ok projection, writeProjection env files projection)

structure Mark where
  requestId : String
  status : String
  runId : String := ""
  now : String

def normalizedStatus (text : String) : String := PyString.lowerWord (PyString.strip text)

def statusOf? (text : String) : Option RequestStatus :=
  requestStatuses.find? fun status => status.text == normalizedStatus text

def mark (call : Mark) (projection : Projection) : Except RequestError Binding := do
  let status ← required (statusOf? call.status)
    (.request ("unsupported workflow request status: " ++ normalizedStatus call.status))
  if status = projection.status then return .unchanged projection
  else do
    refuse (status ∉ requestTransitions projection.status)
      (.request ("invalid workflow request transition: " ++ projection.status.text ++ " -> " ++
        status.text))
    return .written { projection with
      status
      updatedAt := call.now
      runId := firstText [call.runId, projection.runId] }

def markWorkflowRequest (env : Env) (files : Files) (call : Mark) : Outcome Projection :=
  applyBinding env files call.requestId (mark call)

structure BindProposal where
  requestId : String
  requestRevision : Int
  proposalRef : ArtifactRef
  proposalDigest : String
  now : String

def proposalStatuses : List RequestStatus := [.proposed, .approved, .submitted, .running]

def bindProposal (call : BindProposal) (projection : Projection) :
    Except RequestError Binding := do
  refuse (projection.revision ≠ call.requestRevision)
    (.request "workflow proposal targets a stale request revision")
  if projection.status ∈ proposalStatuses ∧ projection.proposalDigest ≠ "" then do
    refuse (projection.proposalDigest ≠ call.proposalDigest)
      (.request "current workflow request already has a different proposal")
    return .unchanged projection
  else do
    refuse (projection.status ≠ .draft ∧ projection.status ≠ .ready)
      (.request ("workflow request is not proposal-ready: " ++ projection.status.text))
    return .written { projection with
      status := .proposed
      proposalRef := some call.proposalRef
      proposalDigest := call.proposalDigest
      proposalRevision := call.requestRevision
      updatedAt := call.now }

structure BindSynthesisResult where
  requestId : String
  requestRevision : Int
  requirementDigest : String
  synthesisRef : ArtifactRef
  synthesisDigest : String
  selectedFlowFamily : String
  openQuestions : List String
  now : String

/-- The open questions of a synthesis result, stripped, without the empty ones. -/
def BindSynthesisResult.questions (call : BindSynthesisResult) : List String :=
  (call.openQuestions.map PyString.strip).filter fun text => decide (text ≠ "")

def bindSynthesisResult (call : BindSynthesisResult) (projection : Projection) :
    Except RequestError Binding := do
  refuse (projection.revision ≠ call.requestRevision)
    (.request "workflow synthesis targets a stale request revision")
  refuse (projection.requirementSpecDigest ≠ call.requirementDigest)
    (.request "workflow synthesis requirement digest is stale")
  refuse (projection.status ≠ .ready ∧ projection.status ≠ .clarifying)
    (.request ("workflow request is not synthesis-ready: " ++ projection.status.text))
  return .written { projection with
    status := if call.questions ≠ [] then .clarifying else .ready
    openQuestions := call.questions
    synthesisRef := some call.synthesisRef
    synthesisDigest := call.synthesisDigest
    synthesisRevision := call.requestRevision
    selectedFlowFamily := call.selectedFlowFamily
    updatedAt := call.now }

structure BindSynthesisOperation where
  requestId : String
  requestRevision : Int
  operationId : String
  requestHash : String
  now : String

def bindSynthesisOperation (call : BindSynthesisOperation) (projection : Projection) :
    Except RequestError Binding := do
  refuse (projection.revision ≠ call.requestRevision)
    (.request "workflow synthesis operation targets a stale request revision")
  let same := projection.synthesisOperationId = call.operationId ∧
    projection.synthesisRequestHash = call.requestHash
  refuse (projection.synthesisOperationId ≠ "" ∧ ¬same)
    (.request "workflow request already has a different synthesis operation")
  if same then return .unchanged projection
  else return .written { projection with
    synthesisOperationId := call.operationId
    synthesisRequestHash := call.requestHash
    synthesisOperationRevision := call.requestRevision
    updatedAt := call.now }

/-- What a stored proposal says it binds. -/
structure Proposal where
  proposalDigest : String
  requestId : String
  requestRevision : Int

structure RejectProposal where
  requestId : String
  proposalRef : ArtifactRef
  proposalDigest : String
  /-- The proposal that the reference leads to. -/
  stored : Except RequestError Proposal
  reason : String
  now : String

/-- `validate_current_workflow_proposal`. -/
def validateProposal (call : RejectProposal) (projection : Projection) :
    Except RequestError Unit := do
  refuse (projection.status ∉ proposalStatuses)
    (.request "workflow request has no current decidable proposal")
  let current ← required projection.proposalRef
    (.request "workflow request proposal ref is missing")
  refuse (current ≠ call.proposalRef) (.request "workflow proposal ref is stale")
  refuse (call.proposalDigest = "" ∨ call.proposalDigest ≠ projection.proposalDigest)
    (.request "workflow proposal digest is stale")
  let proposal ← call.stored
  refuse (proposal.proposalDigest ≠ call.proposalDigest ∨ proposal.requestId ≠ call.requestId ∨
    proposal.requestRevision ≠ projection.revision)
    (.request "workflow proposal does not bind the current request revision")

def rejectWorkflowProposal (env : Env) (files : Files) (call : RejectProposal) :
    Outcome Projection :=
  attempt (do
    let projection ← required (loadWorkflowRequest env files call.requestId)
      (requestNotFound call.requestId)
    validateProposal call projection
    refuse (projection.status ≠ .proposed)
      (.request "only a proposed workflow request can be rejected")) files fun _ =>
    andThen (markWorkflowRequest env files ⟨call.requestId, "rejected", "", call.now⟩)
      fun marked files =>
        let rejected := { marked with
          rejectionReason := firstText [call.reason, "operator rejected proposal"] }
        (.ok rejected, writeProjection env files rejected)

structure AdoptResearch where
  requestId : String
  expectedRevision : Int
  artifactRef : String
  artifactDigest : String
  summary : String
  actor : String
  sourceEventId : String
  resultEventId : String
  taskId : String
  workflowRunId : String
  terminalEventId : String
  now : String

/-- The digest of the adopted artifact, without the name of its algorithm. -/
def AdoptResearch.digest (call : AdoptResearch) : String :=
  let stem := "sha256:"
  let bare := if PyString.startsWith call.artifactDigest stem then
    String.ofList (call.artifactDigest.toList.drop stem.toList.length) else call.artifactDigest
  PyString.lowerWord (PyString.strip bare)

def adoptedArtifact (call : AdoptResearch) (projection : Projection) (origin : OriginBinding) :
    ResearchArtifact :=
  let channelId := if origin.surface = "channel" then origin.channelId else ""
  { artifactRef := call.artifactRef
    sha256 := call.digest
    summary := call.summary
    requestRevision := projection.revision
    sourceEventId := call.sourceEventId
    resultEventId := call.resultEventId
    taskId := call.taskId
    workflowRunId := call.workflowRunId
    terminalEventId := call.terminalEventId
    channelId
    threadId := if channelId = "" then "" else firstText [origin.threadId, "main"]
    originBinding := origin
    adoptedBy := call.actor
    adoptedAt := call.now }

def adoptResearch (env : Env) (call : AdoptResearch) (projection : Projection) :
    Except RequestError Binding := do
  refuse (call.expectedRevision ≠ projection.revision)
    (.request ("stale workflow request revision: expected " ++ toString call.expectedRevision ++
      ", current " ++ toString projection.revision))
  let origin ← originFromRequest env projection
  let current := { projection with originBinding := origin }
  refuse (call.artifactRef = "" ∨ call.digest.toList.length ≠ 64 ∨ call.summary = "")
    (.request ("research adoption requires artifact_ref, 64-char artifact_digest, " ++
      "and summary"))
  if projection.researchArtifacts.any fun item => decide
      (PyString.lowerWord item.sha256 = call.digest ∧ item.requestRevision = projection.revision) then
    return .unchanged current
  else do
    let origin ← originFromRequest env current
    return .written { current with
      researchArtifacts := projection.researchArtifacts ++ [adoptedArtifact call current origin]
      updatedAt := call.now }

structure Blocker where
  kind : String
  title : String
  message : String

/-- `request_readiness_blockers`; every blocker stops the request. -/
def requestReadinessBlockers : Option Projection → List Blocker
  | none => [⟨"workflow_request_projection_missing", "workflow request projection 缺失",
      "intake 尚未进入统一 Workflow Request 状态机。"⟩]
  | some projection =>
      (if projection.missingRequiredFields ≠ [] then
        [⟨"workflow_request_required_fields_missing", "需求字段尚未补齐",
          String.intercalate ", " projection.missingRequiredFields⟩] else []) ++
      (if projection.openQuestions ≠ [] then
        [⟨"workflow_request_open_questions", "需求仍有未决问题",
          String.intercalate "; " (projection.openQuestions.take 8)⟩] else [])

inductive Call where
  | register (call : Register)
  | revise (call : Revise)
  | mark (call : Mark)
  | bindProposal (call : BindProposal)
  | bindSynthesisResult (call : BindSynthesisResult)
  | bindSynthesisOperation (call : BindSynthesisOperation)
  | rejectProposal (call : RejectProposal)
  | adoptResearch (call : AdoptResearch)

def perform (env : Env) (files : Files) : Call → Outcome Projection
  | .register call => registerWorkflowIntake env files call
  | .revise call => reviseWorkflowRequest env files call
  | .mark call => markWorkflowRequest env files call
  | .bindProposal call => applyBinding env files call.requestId (bindProposal call)
  | .bindSynthesisResult call => applyBinding env files call.requestId (bindSynthesisResult call)
  | .bindSynthesisOperation call =>
      applyBinding env files call.requestId (bindSynthesisOperation call)
  | .rejectProposal call => rejectWorkflowProposal env files call
  | .adoptResearch call => applyBinding env files call.requestId (adoptResearch env call)

def step (env : Env) (files : Files) (call : Call) : Files := (perform env files call).2

end ZaofuFormal.Requests
