import ZaofuFormal.Foundation.Sorting
import ZaofuFormal.Pipeline.Profile

/-!
# The task pipeline reconciler

From the tasks, the workflow operations and the task attempts of a project the
reconciler derives a stage for every open task and a plan of assignments.  It
changes no store.  Operations are rows as the operation reducer returns them;
a generation of zero reads as a missing one.
-/

namespace ZaofuFormal.Pipeline

open Foundation Foundation.Sorting
open Workflow (OperationStatus)

inductive EntryMode where
  | standard
  | verifyOnly
  | externalGate
  deriving DecidableEq, Repr

/-- `contract.get(key)` of the task contract; a contract that is no mapping is empty. -/
def contractOf (task : Json) : Json := (task.get "contract").objectOrEmpty

def evidenceContract (task : Json) : Json := ((contractOf task).get "evidence_contract").objectOrEmpty

/-- `[str(item).strip() for item in items if str(item).strip()]` without repetitions. -/
def strippedTexts (items : List Json) : List String :=
  fromKeys ((items.map fun item => PyString.strip item.pyStr).filter fun text => text ≠ "")

mutual

/-- The references of an evidence value: a text, a list, or the first non-empty
one of three fields. -/
def evidenceRefs : Json → List String
  | .str text => if PyString.isBlank text then [] else [text]
  | .arr items => strippedTexts items
  | .obj fields =>
      ([fieldRefs "refs" fields, fieldRefs "required_refs" fields,
        fieldRefs "artifacts" fields].find? fun refs => refs ≠ []).getD []
  | _ => []

/-- The references of a field; a missing field has none. -/
def fieldRefs (key : String) : List (String × Json) → List String
  | [] => []
  | (name, value) :: rest => if name = key then evidenceRefs value else fieldRefs key rest

end

def taskPipelineRequiredManualEvidence (task : Json) : List String :=
  evidenceRefs ((evidenceContract task).get "required_manual_evidence")

/-- `str(value or "").strip().lower()`. -/
def loweredText (value : Json) : String := PyString.lowerAscii (PyString.strip value.text)

/-- An acceptance criterion counts unless it is explicitly optional. -/
def mandatoryCriterion (item : Json) : Bool :=
  item.isObject && decide ((Dict.find "mandatory" item.fields).getD (.bool true) ≠ .bool false)

def humanCriterion (item : Json) : Bool :=
  loweredText (item.get "verification_owner") == "human" ||
    loweredText (item.get "verification_tier") == "manual_evidence"

/-- The scheduler entry mode preserved in the task contract. -/
def taskPipelineEntryMode (task : Json) : EntryMode :=
  let evidence := evidenceContract task
  let explicit := loweredText (if (evidence.get "task_pipeline_entry_mode").truthy
    then evidence.get "task_pipeline_entry_mode" else evidence.get "execution_mode")
  if explicit ∈ ["runtime_only", "verify_only"] then .verifyOnly
  else if explicit ∈ ["external_gate", "manual_evidence"] then .externalGate
  else if evidence.get "runtime_only" = .bool true then .verifyOnly
  else
    let criteria := match (contractOf task).get "acceptance_criteria" with
      | .arr items => items.filter mandatoryCriterion
      | _ => []
    if criteria ≠ [] ∧ (∀ item ∈ criteria, humanCriterion item) ∧
        taskPipelineRequiredManualEvidence task ≠ [] then .externalGate
    else .standard

/-- A conversion that the reconciler's input does not survive. -/
inductive ReconcileError where
  | priority (value : Json)
  | blockedBy (value : Json)
  deriving DecidableEq

/-- The members that a loop over a value visits; other values are not iterable. -/
def members? : Json → Option (List Json)
  | .arr items => some items
  | .obj fields => some (fields.map fun field => .str field.1)
  | .str text => some (text.toList.map fun char => .str (String.ofList [char]))
  | _ => none

/-- `sorted({str(item) for item in items if str(item).strip()})`. -/
def sortedTexts (items : List Json) : List String :=
  sortedSet ((items.map Json.pyStr).filter fun text => !PyString.isBlank text)

structure TaskRow where
  id : String
  status : String
  blockedReason : String
  priority : Int
  createdAt : String
  blockedBy : List String
  requiredCapabilities : List String
  integrationAdmissionProfile : String
  riskClass : String
  entryMode : EntryMode
  deriving DecidableEq

/-- `str(raw.get("id") or raw.get("task_id") or "")`. -/
def rawTaskId (raw : Json) : String :=
  if (raw.get "id").truthy then (raw.get "id").text else raw.textAt "task_id"

def taskRow (raw : Json) : Except ReconcileError TaskRow :=
  let contract := contractOf raw
  let priority := raw.get "priority"
  let blockedBy := (Dict.find "blocked_by" raw.fields).getD (.arr [])
  match if priority.truthy then priority.int? else some 3, members? blockedBy with
  | none, _ => .error (.priority priority)
  | some _, none => .error (.blockedBy blockedBy)
  | some priority, some dependencies =>
      .ok
        { id := rawTaskId raw
          status := if (raw.get "status").truthy then raw.textAt "status" else "backlog"
          blockedReason := raw.textAt "blocked_reason"
          priority
          createdAt := raw.textAt "created_at"
          blockedBy := sortedTexts dependencies
          requiredCapabilities :=
            match (evidenceContract raw).get "required_capabilities" with
            | .arr items => sortedTexts items
            | _ => []
          integrationAdmissionProfile := contract.textAt "integration_admission_profile"
          riskClass := contract.textAt "risk_class"
          entryMode := taskPipelineEntryMode raw }

/-- `_task_order`: a priority of zero counts as the default. -/
def taskOrder (row : TaskRow) : Int ×ₗ String ×ₗ String :=
  toLex (if row.priority = 0 then 3 else row.priority, toLex (row.createdAt, row.id))

/-- One workflow operation of a task; `details` are the fields that are only copied. -/
structure PipelineOperation where
  taskId : String
  operationId : String
  taskPipelineStage : String
  parentStageId : String := ""
  generation : Int
  status : OperationStatus
  reason : String := ""
  semanticVerdict : String := ""
  roleInstance : String := ""
  callResultAdmittedEventId : String := ""
  lastEventId : String := ""
  admittedControlResultRef : Json := .obj []
  details : Json := .obj []
  deriving DecidableEq

/-- `int(operation.get("operation_generation") or default)`. -/
def PipelineOperation.generationOr (operation : PipelineOperation) (default : Int) : Int :=
  if operation.generation = 0 then default else operation.generation

abbrev PipelineOperation.currentGeneration (operation : PipelineOperation) : Int :=
  operation.generationOr 1

/-- The parent stage is the stage, or ends in it after a colon or a hyphen. -/
def namesStage (parent stage : String) : Bool :=
  parent == stage || (":" ++ stage).toList.isSuffixOf parent.toList ||
    ("-" ++ stage).toList.isSuffixOf parent.toList

def operationStage (operation : PipelineOperation) : String :=
  let explicit := PyString.strip operation.taskPipelineStage
  if explicit ≠ "" then explicit
  else
    let parent := PyString.strip operation.parentStageId
    (["acceptance_review", "integration", "verify", "impl"].find? (namesStage parent)).getD ""

/-- `_operation_order`. -/
def operationOrder (operation : PipelineOperation) : Int ×ₗ String :=
  toLex (operation.currentGeneration, operation.operationId)

/-- The key by which all operations are sorted. -/
def operationSortKey (operation : PipelineOperation) : String ×ₗ String ×ₗ Int ×ₗ String :=
  toLex (operation.taskId, toLex (operationStage operation,
    toLex (operation.currentGeneration, operation.operationId)))

def verdictText (operation : PipelineOperation) : String :=
  PyString.lowerAscii (PyString.strip operation.semanticVerdict)

/-- A missing verdict counts as passed. -/
def semanticPassed (operation : PipelineOperation) : Bool :=
  decide (verdictText operation ∈ ["", "passed", "pass", "approved", "approve", "admit"])

def activeOperationStatuses : List OperationStatus := [.reserved, .running, .suspended]

def requestHashDivergence : String := "request_hash_divergence"

def entryOperationStages : EntryMode → List String
  | .externalGate => ["integration"]
  | .verifyOnly => ["verify", "acceptance_review", "integration"]
  | .standard => ["impl", "verify", "acceptance_review", "integration"]

inductive Stage where
  | implReady
  | implActive
  | implReworkReady
  | verifyReady
  | verifyActive
  | acceptanceReviewReady
  | acceptanceReviewActive
  | integrationReady
  | integrationActive
  | integrated
  | blocked
  | dependencyBlocked
  | admissionBlocked
  | replanRequested
  | externalGateWaiting
  deriving DecidableEq, Repr

/-- A stage with the generation of its next operation and the number of reworks. -/
structure Derived where
  stage : Stage
  nextGeneration : Int
  reworkCount : Int
  deriving DecidableEq

/-- A stage at a generation that has seen all earlier generations. -/
def Derived.at (stage : Stage) (generation : Int) : Derived :=
  ⟨stage, generation, max 0 (generation - 1)⟩

/-- A rejected generation asks for the next one, as long as the policy allows. -/
def Derived.rework (policy : Policy) (generation : Int) : Derived :=
  if generation ≤ policy.maxReworkAttempts then ⟨.implReworkReady, generation + 1, generation⟩
  else ⟨.blocked, generation, generation⟩

/-- A request of the TaskRef gate for another generation of an implementation. -/
structure ReworkRequest where
  operationGeneration : Int
  details : Json := .obj []
  deriving DecidableEq

/-- The current operation of every stage. -/
abbrev CurrentOperations := Dict String PipelineOperation

def CurrentOperations.note (allowed : List String) (current : CurrentOperations)
    (operation : PipelineOperation) : CurrentOperations :=
  let stage := operationStage operation
  if stage ∉ allowed then current
  else
    match current.get? stage with
    | none => current.insert stage operation
    | some previous =>
        if operationOrder previous < operationOrder operation then current.insert stage operation
        else current

def currentByStage (allowed : List String) (operations : List PipelineOperation) :
    CurrentOperations :=
  operations.foldl (CurrentOperations.note allowed) Dict.empty

/-- The admission profile of a task: its own, or the default of the policy. -/
def effectiveProfile (policy : Policy) (task : TaskRow) : String :=
  if task.integrationAdmissionProfile ≠ "" then task.integrationAdmissionProfile
  else if policy.integrationAdmission.default ≠ "" then policy.integrationAdmission.default
  else "verify_admitted"

/-- A risk review is configured for the task. -/
def reviewConfigured (policy : Policy) (task : TaskRow) : Bool :=
  policy.integrationAdmission.riskReview.enabled &&
    decide (task.riskClass ∈ policy.integrationAdmission.riskReview.forRisks) &&
    policy.pools.contains "acceptance_review"

/-- The last gate: which stage an admitted task has with respect to integration. -/
def deriveIntegration (current : CurrentOperations) (verifyGeneration : Int) : Derived :=
  let reworks := max 0 (verifyGeneration - 1)
  match current.get? "integration" with
  | none => ⟨.integrationReady, verifyGeneration, reworks⟩
  | some integration =>
      let generation := integration.generationOr verifyGeneration
      if generation < verifyGeneration then ⟨.integrationReady, verifyGeneration, reworks⟩
      else
        match integration.status with
        | .requested => ⟨.integrationReady, generation, reworks⟩
        | .reserved | .running | .suspended => ⟨.integrationActive, generation, reworks⟩
        | .settled =>
            if semanticPassed integration then ⟨.integrated, generation, reworks⟩
            else ⟨.blocked, generation, reworks⟩
        | .superseded => ⟨.integrationReady, max verifyGeneration (generation + 1), reworks⟩
        | .failed | .blocked => ⟨.blocked, generation, reworks⟩
        | .cancelled => ⟨.integrationReady, verifyGeneration, reworks⟩

/-- The risk review of a verified task; `none` lets it pass. -/
def deriveReview (current : CurrentOperations) (policy : Policy) (verifyGeneration : Int)
    (allowImplRework : Bool) : Option Derived :=
  match current.get? "acceptance_review" with
  | none => some (.at .acceptanceReviewReady verifyGeneration)
  | some review =>
      if review.currentGeneration < verifyGeneration then
        some (.at .acceptanceReviewReady verifyGeneration)
      else
        match review.status with
        | .reserved | .running | .suspended => some (.at .acceptanceReviewActive verifyGeneration)
        | .blocked =>
            if review.reason = requestHashDivergence then
              some (.at .acceptanceReviewReady verifyGeneration)
            else some (.at .blocked verifyGeneration)
        | .failed => some (.at .blocked verifyGeneration)
        | .requested | .superseded | .cancelled =>
            some (.at .acceptanceReviewReady verifyGeneration)
        | .settled =>
            if verdictText review = "revise" then
              if allowImplRework then some (.rework policy verifyGeneration)
              else some (.at .replanRequested verifyGeneration)
            else if verdictText review = "replan" then
              some (.at .replanRequested verifyGeneration)
            else if verdictText review = "admit" then none
            else some (.at .blocked verifyGeneration)

/-- `max(1, int(generation or 1))`. -/
def verifiedGeneration (generation : Int) : Int := max 1 (if generation = 0 then 1 else generation)

def derivePostVerificationStage (current : CurrentOperations) (task : TaskRow) (policy : Policy)
    (verificationGeneration : Int) (allowImplRework : Bool) : Derived :=
  let verifyGeneration := verifiedGeneration verificationGeneration
  let profile := effectiveProfile policy task
  if profile ∉ ["verify_admitted", "risk_review"] then .at .admissionBlocked verifyGeneration
  else if profile = "risk_review" then
    if reviewConfigured policy task then
      (deriveReview current policy verifyGeneration allowImplRework).getD
        (deriveIntegration current verifyGeneration)
    else .at .admissionBlocked verifyGeneration
  else deriveIntegration current verifyGeneration

/-- The stage of a verification that has not passed; `rejected` is the outcome of
a settled one without a passing verdict, and `none` lets it pass. -/
def deriveVerification (verify : PipelineOperation) (rejected : Derived) : Option Derived :=
  let generation := verify.currentGeneration
  match verify.status with
  | .reserved | .running | .suspended => some (.at .verifyActive generation)
  | .blocked =>
      if verify.reason = requestHashDivergence then some (.at .verifyReady generation)
      else some (.at .blocked generation)
  | .failed => some (.at .blocked generation)
  | .requested | .superseded | .cancelled => some (.at .verifyReady generation)
  | .settled => if semanticPassed verify then none else some rejected

def deriveVerifyOnlyStage (current : CurrentOperations) (task : TaskRow) (policy : Policy) :
    Derived :=
  match current.get? "verify" with
  | none => ⟨.verifyReady, 1, 0⟩
  | some verify =>
      let generation := verify.currentGeneration
      -- A write-free audit cannot route a failed verdict to an implementation.
      (deriveVerification verify (.at .blocked generation)).getD
        (derivePostVerificationStage current task policy generation false)

/-- The stage of an implementation that has not passed; `none` lets it pass. -/
def deriveImplementation (impl : PipelineOperation) : Option Derived :=
  let generation := impl.currentGeneration
  match impl.status with
  | .requested => some (.at .implReady generation)
  | .reserved | .running | .suspended => some (.at .implActive generation)
  | .blocked =>
      if impl.reason = requestHashDivergence then some (.at .implReady generation)
      else some (.at .blocked generation)
  | .settled => if semanticPassed impl then none else some (.at .blocked generation)
  | .failed | .superseded | .cancelled => some (.at .blocked generation)

/-- `int((request or {}).get("operation_generation") or 0)`. -/
def requestedGeneration (request : Option ReworkRequest) : Int :=
  (request.map ReworkRequest.operationGeneration).getD 0

/-- The stage after a passed implementation. -/
def deriveImplemented (current : CurrentOperations) (task : TaskRow) (policy : Policy)
    (implGeneration : Int) : Derived :=
  match current.get? "verify" with
  | none => .at .verifyReady implGeneration
  | some verify =>
      let generation := verify.currentGeneration
      if generation < implGeneration then .at .verifyReady implGeneration
      else
        (deriveVerification verify (.rework policy generation)).getD
          (derivePostVerificationStage current task policy generation true)

def deriveStage (current : CurrentOperations) (task : TaskRow) (policy : Policy)
    (implReworkRequest : Option ReworkRequest) : Derived :=
  match current.get? "impl" with
  | none => ⟨.implReady, 1, 0⟩
  | some impl =>
      let generation := impl.currentGeneration
      (deriveImplementation impl).getD <|
        if requestedGeneration implReworkRequest = generation then .rework policy generation
        else deriveImplemented current task policy generation

/-- A verification whose rejection cannot be reworked any more. -/
structure SemanticBlocker where
  operationId : String
  operationGeneration : Int
  semanticVerdict : String
  maxReworkAttempts : Int
  sourceEventId : String
  controlResultRef : Json
  deriving DecidableEq

structure TaskView where
  taskId : String
  stage : Stage
  status : String
  entryMode : EntryMode
  blockedBy : List String
  blockers : List String
  requiredCapabilities : List String
  nextOperationGeneration : Int
  reworkCount : Int
  semanticBlocker : Option SemanticBlocker
  implReworkRequest : Option ReworkRequest
  deriving DecidableEq

/-- What one task is viewed against. -/
structure Surroundings where
  policy : Policy
  operations : List PipelineOperation
  terminalTaskIds : List String
  externalGateSatisfied : Bool
  implReworkRequest : Option ReworkRequest

def deriveEntryStage (current : CurrentOperations) (task : TaskRow) (given : Surroundings) :
    Derived :=
  match task.entryMode with
  | .externalGate => derivePostVerificationStage current task given.policy 1 false
  | .verifyOnly => deriveVerifyOnlyStage current task given.policy
  | .standard => deriveStage current task given.policy given.implReworkRequest

def exhaustedVerification (policy : Policy) (derived : Derived) (verify : PipelineOperation) :
    Option SemanticBlocker :=
  if derived.stage = .blocked ∧ verify.status = .settled ∧ semanticPassed verify = false ∧
      policy.maxReworkAttempts < verify.currentGeneration then
    some
      { operationId := verify.operationId
        operationGeneration := verify.currentGeneration
        semanticVerdict := verify.semanticVerdict
        maxReworkAttempts := policy.maxReworkAttempts
        sourceEventId :=
          if verify.callResultAdmittedEventId ≠ "" then verify.callResultAdmittedEventId
          else verify.lastEventId
        controlResultRef := verify.admittedControlResultRef.objectOrEmpty }
  else none

/-- The blockers that a derived stage names. -/
def derivedBlockers (task : TaskRow) (current : CurrentOperations) (derived : Derived)
    (semanticBlocker : Option SemanticBlocker) : List String :=
  let failed := sortedBy id ((current.entries.filter fun entry =>
    decide (entry.2.status ∈ [OperationStatus.failed, .blocked])).map Prod.fst)
  let rejected : Bool := match current.get? "verify" with
    | some verify => decide (task.entryMode = .verifyOnly ∧ derived.stage = .blocked ∧
        verify.status = .settled ∧ semanticPassed verify = false)
    | none => false
  (if semanticBlocker.isSome then ["semantic_rework_exhausted"] else []) ++
    failed.map (fun stage => stage ++ "_operation_failed") ++
    (if rejected then ["verify_only_verification_rejected"] else []) ++
    (match derived.stage with
      | .admissionBlocked => ["integration_admission_not_admitted"]
      | .replanRequested => ["integration_acceptance_replan_required"]
      | _ => [])

def taskView (task : TaskRow) (given : Surroundings) : TaskView :=
  let pending := task.blockedBy.filter fun dependency => dependency ∉ given.terminalTaskIds
  let view (derived : Derived) (blockers : List String)
      (semanticBlocker : Option SemanticBlocker) : TaskView :=
    { taskId := task.id
      stage := derived.stage
      status := task.status
      entryMode := task.entryMode
      blockedBy := task.blockedBy
      blockers
      requiredCapabilities := task.requiredCapabilities
      nextOperationGeneration := derived.nextGeneration
      reworkCount := derived.reworkCount
      semanticBlocker
      implReworkRequest :=
        if derived.stage = .implReworkReady then given.implReworkRequest else none }
  if pending ≠ [] then view ⟨.dependencyBlocked, 1, 0⟩ pending none
  else if task.entryMode = .externalGate ∧ given.externalGateSatisfied = false then
    view ⟨.externalGateWaiting, 1, 0⟩ ["required_manual_evidence_pending"] none
  else if task.status = "blocked" ∧ task.entryMode ≠ .externalGate then
    view ⟨.blocked, 1, 0⟩ [] none
  else
    let current := currentByStage (entryOperationStages task.entryMode) given.operations
    let derived := deriveEntryStage current task given
    let semanticBlocker :=
      (current.get? "verify").bind (exhaustedVerification given.policy derived)
    view derived (derivedBlockers task current derived semanticBlocker) semanticBlocker

structure ReconcileInput where
  policy : Policy
  tasks : List Json
  operations : List PipelineOperation
  attempts : List Json
  terminalTaskIds : List String := []
  externalGateSatisfiedTaskIds : List String := []
  implReworkRequests : Dict String ReworkRequest := ∅
  preferredRoleInstances : Dict String (Dict String String) := ∅

/-- The texts of a list without white space around them, blank ones left out. -/
def strippedSet (texts : List String) : List String :=
  (texts.map PyString.strip).filter fun text => text ≠ ""

/-- The normalized input, which the input digest covers. -/
structure NormalizedInput where
  policy : Policy
  tasks : List TaskRow
  operations : List PipelineOperation
  attempts : List Json
  terminalTaskIds : List String
  externalGateSatisfiedTaskIds : List String
  implReworkRequests : Dict String ReworkRequest
  preferredRoleInstances : Dict String (Dict String String)

def attemptId (attempt : Json) : String := attempt.textAt "attempt_id"

/-- Keep the entries whose key and value are wanted. -/
def keepEntries {ν : Type} (dict : Dict String ν) (wanted : String → ν → Bool) : Dict String ν :=
  ⟨dict.entries.filter fun entry => wanted entry.1 entry.2,
    dict.nodupKeys.sublist (List.filter_sublist.map Prod.fst)⟩

def normalize (input : ReconcileInput) (rows : List TaskRow) : NormalizedInput where
  policy := input.policy
  tasks := sortedBy taskOrder rows
  operations := sortedBy operationSortKey input.operations
  attempts := sortedBy attemptId input.attempts
  terminalTaskIds := sortedSet (strippedSet input.terminalTaskIds ++
    ((sortedBy taskOrder rows).filter fun row => row.status = "done").map TaskRow.id)
  externalGateSatisfiedTaskIds := sortedSet (strippedSet input.externalGateSatisfiedTaskIds)
  implReworkRequests :=
    (keepEntries input.implReworkRequests fun taskId _ => !PyString.isBlank taskId).sortKeys
  preferredRoleInstances :=
    (keepEntries input.preferredRoleInstances fun taskId _ => !PyString.isBlank taskId).mapValues
      fun roles => keepEntries roles fun stage role =>
        !PyString.isBlank stage && !PyString.isBlank role

/-- The operations of a task, in their sorted order. -/
def NormalizedInput.operationsOf (input : NormalizedInput) (taskId : String) :
    List PipelineOperation :=
  if taskId = "" then [] else input.operations.filter fun operation => operation.taskId = taskId

def NormalizedInput.surroundings (input : NormalizedInput) (task : TaskRow) : Surroundings where
  policy := input.policy
  operations := input.operationsOf task.id
  terminalTaskIds := input.terminalTaskIds
  externalGateSatisfied := decide (task.id ∈ input.externalGateSatisfiedTaskIds)
  implReworkRequest := input.implReworkRequests.get? task.id

/-- The tasks that still take part in scheduling. -/
def NormalizedInput.openTasks (input : NormalizedInput) : List TaskRow :=
  input.tasks.filter fun task => task.status ∉ ["done", "cancelled"]

def NormalizedInput.taskViews (input : NormalizedInput) : List TaskView :=
  input.openTasks.map fun task => taskView task (input.surroundings task)

/-- An operation is ignored when the entry mode of its task has no such stage. -/
def operationMatchesTaskEntry (operation : PipelineOperation) (tasks : List TaskRow)
    (externalGateSatisfiedIds : List String) : Bool :=
  match tasks.find? fun row => row.id = operation.taskId with
  | none => true
  | some task =>
      if task.entryMode = .externalGate ∧ operation.taskId ∉ externalGateSatisfiedIds then false
      else decide (operationStage operation ∈ entryOperationStages task.entryMode)

def NormalizedInput.activeOperations (input : NormalizedInput) : List PipelineOperation :=
  input.operations.filter fun operation =>
    decide (operation.status ∈ activeOperationStatuses) &&
      input.policy.pools.contains (operationStage operation) &&
      operationMatchesTaskEntry operation input.tasks input.externalGateSatisfiedTaskIds

def activeAttemptStatuses : List String := ["prepared", "delivering", "sent"]

def NormalizedInput.activeAttempts (input : NormalizedInput) : List Json :=
  input.attempts.filter fun attempt => attempt.textAt "status" ∈ activeAttemptStatuses

def poolRoleInstances (pool : Pool) : List String := strippedSet pool.roleInstances

/-- The active operations that take a place in a pool. -/
def NormalizedInput.poolOccupancy (input : NormalizedInput) (name : String) (pool : Pool) : Int :=
  (input.activeOperations.filter fun operation =>
    decide (operationStage operation = name) &&
      (decide (poolRoleInstances pool = []) || PyString.isBlank operation.roleInstance ||
        decide (operation.roleInstance ∈ poolRoleInstances pool))).length

def NormalizedInput.occupancy (input : NormalizedInput) : Dict String Int :=
  ⟨input.policy.pools.entries.map fun entry =>
    (entry.1, input.poolOccupancy entry.1 entry.2), by
    simpa [Function.comp_def] using input.policy.pools.nodupKeys⟩

/-- Stages in which a task does not hold a pipeline. -/
def idleStages : List Stage :=
  [.implReady, .dependencyBlocked, .blocked, .admissionBlocked, .replanRequested,
    .externalGateWaiting]

def NormalizedInput.activePipelineIds (input : NormalizedInput) : List String :=
  sortedSet (
    ((input.activeOperations.map PipelineOperation.taskId).filter fun taskId =>
      decide (taskId ∈ input.tasks.map TaskRow.id)) ++
    (input.taskViews.filter fun view => view.stage ∉ idleStages).map TaskView.taskId)

def unverifiedStages : List Stage :=
  [.implActive, .verifyReady, .verifyActive, .acceptanceReviewReady, .acceptanceReviewActive]

def NormalizedInput.unverifiedCount (input : NormalizedInput) : Nat :=
  (input.taskViews.filter fun view => view.stage ∈ unverifiedStages).length

def NormalizedInput.integrationQueueCount (input : NormalizedInput) : Nat :=
  (input.taskViews.filter fun view => view.stage = .integrationReady).length

def NormalizedInput.unverifiedBlocked (input : NormalizedInput) : Bool :=
  decide (input.policy.backpressure.maxUnverifiedTasks ≤ input.unverifiedCount)

def NormalizedInput.integrationBlocked (input : NormalizedInput) : Bool :=
  decide (input.policy.backpressure.maxIntegrationQueue ≤ input.integrationQueueCount)

def NormalizedInput.globalAvailable (input : NormalizedInput) : Int :=
  max 0 (input.policy.maxActiveTaskPipelines - input.activePipelineIds.length)

def nonempty (texts : List String) : List String := texts.filter fun text => text ≠ ""

/-- The roles of a pool in sorted order. -/
def Pool.roles (pool : Pool) : List String := sortedSet (nonempty pool.roleInstances)

/-- The capabilities of a role: those of its worker profile, else those of the pool. -/
def Pool.capabilitiesOf (pool : Pool) (role : String) : List String :=
  let profiles := Dict.ofEntries
    (pool.workerProfiles.map fun profile => (profile.role, nonempty profile.capabilities))
  (profiles.get? role).getD (nonempty pool.capabilities)

def Pool.Covers (pool : Pool) (role : String) (required : List String) : Prop :=
  ∀ capability ∈ required, capability ∈ pool.capabilitiesOf role

instance (pool : Pool) (role : String) (required : List String) :
    Decidable (pool.Covers role required) :=
  inferInstanceAs (Decidable (∀ capability ∈ required, _))

/-- The first idle role that covers what is required, the preferred one before the others. -/
def selectRole (pool : Pool) (requiredCapabilities usedRoles : List String)
    (preferredRole : String) : Option String :=
  let ordered := fromKeys ((preferredRole :: pool.roles).filter fun role =>
    decide (role ≠ "" ∧ role ∈ pool.roles))
  ordered.find? fun role =>
    decide (role ∉ usedRoles ∧ pool.Covers role requiredCapabilities)

structure Assignment where
  taskId : String
  stage : String
  roleInstance : String
  operationGeneration : Int
  implReworkRequest : Option ReworkRequest := none
  deriving DecidableEq

/-- Take turns, starting with the first list. -/
def takeTurns {α : Type} : List α → List α → List α
  | [], second => second
  | first, [] => first
  | item :: rest, other :: others => item :: other :: takeTurns rest others

/-- A view with its position among the task views. -/
abbrev Placed := TaskView × Nat

/-- Alternate rework and fresh candidates, starting with the kind of the first
one; a negative count is of neither kind. -/
def boundedReworkOrder (candidates : List Placed) : List Placed :=
  let rework := candidates.filter fun candidate => 0 < candidate.1.reworkCount
  let fresh := candidates.filter fun candidate => candidate.1.reworkCount = 0
  match candidates with
  | [] => []
  | first :: _ =>
      if rework = [] ∨ fresh = [] then candidates
      else if first ∈ rework then takeTurns rework fresh
      else takeTurns fresh rework

/-- The state of the dispatch loop of one stage. -/
structure Dispatching where
  assignments : List Assignment := []
  freshCount : Nat := 0
  usedRoles : List String
  unmatched : List Nat := []

/-- The limits of the dispatch loop of one stage. -/
structure DispatchLimits where
  stage : String
  pool : Pool
  available : Int
  freshAvailable : Int
  freshBlocked : Bool
  preferredRole : String → String

def DispatchLimits.isFresh (limits : DispatchLimits) (view : TaskView) : Bool :=
  decide (limits.stage = "impl" ∧ view.stage = .implReady)

/-- One candidate: a full pool ends the loop, and a fresh implementation is
skipped when the pipelines or a backpressure limit are exhausted. -/
def dispatchOne (limits : DispatchLimits) (state : Dispatching) (candidate : Placed) :
    Dispatching :=
  let view := candidate.1
  if limits.available ≤ state.assignments.length then state
  else if limits.isFresh view ∧ (limits.freshAvailable ≤ state.freshCount ∨ limits.freshBlocked)
  then state
  else
    match selectRole limits.pool view.requiredCapabilities state.usedRoles
        (limits.preferredRole view.taskId) with
    | none => { state with unmatched := state.unmatched ++ [candidate.2] }
    | some role =>
        { assignments := state.assignments ++
            [{ taskId := view.taskId
               stage := limits.stage
               roleInstance := role
               operationGeneration := view.nextOperationGeneration
               implReworkRequest :=
                if limits.stage = "impl" ∧ view.stage = .implReworkReady
                then view.implReworkRequest else none }]
          freshCount := if limits.isFresh view then state.freshCount + 1 else state.freshCount
          usedRoles := role :: state.usedRoles
          unmatched := state.unmatched }

/-- The three dispatch loops in their order, with the stages that they serve. -/
def dispatchOrder : List (String × List Stage) :=
  [("verify", [.verifyReady]), ("acceptance_review", [.acceptanceReviewReady]),
    ("impl", [.implReady, .implReworkReady])]

def NormalizedInput.available (input : NormalizedInput) (name : String) (pool : Pool) : Int :=
  max 0 (pool.capacity - input.poolOccupancy name pool)

def NormalizedInput.limits (input : NormalizedInput) (stage : String) (pool : Pool) :
    DispatchLimits where
  stage := stage
  pool := pool
  available := input.available stage pool
  freshAvailable := input.globalAvailable
  freshBlocked := input.unverifiedBlocked || input.integrationBlocked
  preferredRole taskId :=
    (((input.preferredRoleInstances.get? taskId).getD ∅).get? stage).getD ""

def NormalizedInput.candidates (input : NormalizedInput) (stage : String) (ready : List Stage) :
    List Placed :=
  let candidates := input.taskViews.zipIdx.filter fun candidate => candidate.1.stage ∈ ready
  if stage = "impl" then boundedReworkOrder candidates else candidates

/-- The role instances that own an active attempt. -/
def NormalizedInput.busyRoles (input : NormalizedInput) : List String :=
  nonempty (input.activeAttempts.map fun attempt => attempt.textAt "instance_id")

/-- The dispatch loop of one stage; a stage without a pool dispatches nothing. -/
def NormalizedInput.dispatchStage (input : NormalizedInput) (stage : String)
    (ready : List Stage) : Dispatching :=
  match input.policy.pools.get? stage with
  | none => { usedRoles := input.busyRoles }
  | some pool =>
      (input.candidates stage ready).foldl (dispatchOne (input.limits stage pool))
        { usedRoles := input.busyRoles }

/-- The stages that the dispatch loop of a pool serves; other pools have none. -/
def readyStages (name : String) : List Stage := (Dict.find name dispatchOrder).getD []

structure Queues where
  implReady : List String
  verifyReady : List String
  acceptanceReviewReady : List String
  integrationReady : List String
  externalGateWaiting : List String
  deriving DecidableEq

structure OccupancyReport where
  activeTaskIds : List String
  pools : Dict String Int
  activeAttempts : Nat
  deriving DecidableEq

structure PoolCapacity where
  capacity : Int
  available : Int
  deriving DecidableEq

structure CapacityReport where
  maxActiveTaskPipelines : Int
  availableTaskPipelines : Int
  pools : Dict String PoolCapacity
  deriving DecidableEq

structure BackpressureReport where
  unverifiedCount : Nat
  integrationQueueCount : Nat
  unverifiedLimitReached : Bool
  integrationLimitReached : Bool
  deriving DecidableEq

structure Projection where
  profileId : String
  profileDigest : String
  mode : String
  inputDigest : String
  tasks : List TaskView
  queues : Queues
  occupancy : OccupancyReport
  capacity : CapacityReport
  backpressure : BackpressureReport
  dispatchable : Dict String (List Assignment)
  orderedTaskIds : List String
  projectionDigest : String := ""
  deriving DecidableEq

/-- Digests of the normalized input and of the projection without its own digest. -/
structure Digests where
  input : NormalizedInput → String
  projection : Projection → String

/-- The views after the dispatch loops have noted where no role was found. -/
def NormalizedInput.finalViews (input : NormalizedInput) : List TaskView :=
  let unmatched := dispatchOrder.flatMap fun entry =>
    (input.dispatchStage entry.1 entry.2).unmatched
  input.taskViews.zipIdx.map fun placed =>
    if placed.2 ∈ unmatched then
      { placed.1 with blockers := placed.1.blockers ++ ["no_compatible_idle_role"] }
    else placed.1

/-- The ids of the views in one of the given stages. -/
def NormalizedInput.queue (input : NormalizedInput) (stages : List Stage) : List String :=
  (input.taskViews.filter fun view => view.stage ∈ stages).map TaskView.taskId

def NormalizedInput.plan (digests : Digests) (input : NormalizedInput) : Projection where
  profileId := input.policy.profileId
  profileDigest := input.policy.profileDigest
  mode := if input.policy.mode = "" then "shadow" else input.policy.mode
  inputDigest := digests.input input
  tasks := input.finalViews
  queues :=
    { implReady := input.queue [.implReady, .implReworkReady]
      verifyReady := input.queue [.verifyReady]
      acceptanceReviewReady := input.queue [.acceptanceReviewReady]
      integrationReady := input.queue [.integrationReady]
      externalGateWaiting := input.queue [.externalGateWaiting] }
  occupancy :=
    { activeTaskIds := input.activePipelineIds
      pools := input.occupancy
      activeAttempts := input.activeAttempts.length }
  capacity :=
    { maxActiveTaskPipelines := input.policy.maxActiveTaskPipelines
      availableTaskPipelines := input.globalAvailable
      pools := ⟨input.policy.pools.entries.map fun entry =>
        (entry.1, ⟨entry.2.capacity, input.available entry.1 entry.2⟩), by
        simpa [Function.comp_def] using input.policy.pools.nodupKeys⟩ }
  backpressure :=
    { unverifiedCount := input.unverifiedCount
      integrationQueueCount := input.integrationQueueCount
      unverifiedLimitReached := input.unverifiedBlocked
      integrationLimitReached := input.integrationBlocked }
  dispatchable := ⟨input.policy.pools.entries.map fun entry =>
    (entry.1, (input.dispatchStage entry.1 (readyStages entry.1)).assignments), by
    simpa [Function.comp_def] using input.policy.pools.nodupKeys⟩
  orderedTaskIds := input.taskViews.map TaskView.taskId

/-- One pass over the tasks, operations and attempts. -/
def reconcile (digests : Digests) (input : ReconcileInput) : Except ReconcileError Projection :=
  match input.tasks.mapM taskRow with
  | .error error => .error error
  | .ok rows =>
      let projection := (normalize input rows).plan digests
      .ok { projection with projectionDigest := digests.projection projection }

end ZaofuFormal.Pipeline
