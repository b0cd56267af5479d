import ZaofuFormal.Foundation.Json

/-!
# Validation of task maps

The validator goes through the tasks once, collects what they declare and
appends a text for everything that it refuses; a map passes when nothing was
appended.  The checks that it imports from other files, and those that read
command texts, are parameters.
-/

namespace ZaofuFormal.TaskMap

open Foundation

/-- The texts of a field that are not blank, trimmed. -/
def stringList : Json → List String
  | .arr items => (items.map fun item => PyString.strip item.pyStr).filter fun text => text ≠ ""
  | .str text => if PyString.isBlank text then [] else [PyString.strip text]
  | _ => []

def truthyFlag (default : Bool) : Json → Bool
  | .null => default
  | .bool value => value
  | value =>
      decide (PyString.lowerAscii (PyString.strip value.pyStr) ∈ ["1", "true", "yes", "on"])

/-- A number that cannot be read counts as zero. -/
def intValue (value : Json) : Int := value.intOrZero?.getD 0

/-- The first field, or the second one when the first is empty. -/
def either (raw : Json) (first second : String) : Json :=
  if (raw.get first).truthy then raw.get first else raw.get second

def taskId (raw : Json) : String := PyString.strip (either raw "task_id" "id").text

/-- The first list that is not empty. -/
def firstList (lists : List (List String)) : List String :=
  (lists.find? fun texts => decide (texts ≠ [])).getD []

def exclusiveFiles (raw : Json) : List String := stringList (raw.get "exclusive_files")

def tasksOf (payload : Json) : List Json :=
  match payload.get "tasks" with
  | .arr tasks => tasks
  | _ => []

/-- The wave that a task is listed under, for tasks that declare none. -/
def waveByTaskId (payload : Json) : Dict String Int :=
  match payload.get "waves" with
  | .arr waves =>
      (waves.filter Json.isObject).foldl (fun out raw =>
        (stringList (raw.get "tasks")).foldl (fun out id =>
          if out.contains id then out else out.insert id (intValue (raw.get "wave"))) out)
        Dict.empty
  | _ => Dict.empty

def firstVerificationCommand : Json → String
  | .arr items =>
      ((items.map fun item => PyString.strip
        (if item.isObject then (either item "command" "cmd").text else item.text)).find?
          fun command => decide (command ≠ "")).getD ""
  | value => PyString.strip value.text

/-- Drop the given characters at both ends. -/
def trimChars (dropped : List Char) (chars : List Char) : List Char :=
  (chars.dropWhile (· ∈ dropped)).rdropWhile (· ∈ dropped)

def dropDotSlashes : List Char → List Char
  | '.' :: '/' :: rest => dropDotSlashes rest
  | chars => chars

/-- The components of a path up to the first one with a wildcard. -/
def normalizeScopePath (path : String) : String :=
  let chars := trimChars [Json.singleQuote, Json.doubleQuote] (PyString.stripChars path.toList)
  let parts := (trimChars ['/'] (dropDotSlashes chars)).splitOn '/'
  let named := parts.filter fun part => part ≠ [] ∧ part ≠ ['.']
  let plain := named.takeWhile fun part => !part.any (· ∈ ['*', '?', '['])
  String.ofList (['/'].intercalate plain)

def canApplyRelativeRoot (pathRef : String) : Bool :=
  let text := PyString.strip pathRef
  text ≠ "" && !(List.any ["./", "../", "/"] (PyString.startsWith text))

def relativePathRoots (payload : Json) : List String :=
  let conventions := payload.get "shared_conventions"
  let texts := [PyString.strip (conventions.textAt "package_root"),
    PyString.strip (conventions.textAt "target_root"),
    String.ofList ((PyString.strip (conventions.textAt "run_cwd")).toList.takeWhile
      fun char => !PyString.isSpace char),
    PyString.strip (payload.textAt "target_root")]
  let roots := (texts.filter fun text => text ≠ "").map normalizeScopePath
  (roots.filter fun root => root ≠ "").eraseDups

/-- One path is the other one or lies below it. -/
def scopeCovers (scope ref : String) : Bool :=
  ref == scope || PyString.startsWith ref (scope ++ "/") || PyString.startsWith scope (ref ++ "/")

def pathRefCovered (pathRef : String) (scopePaths relativeRoots : List String) : Bool :=
  let ref := normalizeScopePath pathRef
  let rooted :=
    if canApplyRelativeRoot pathRef then
      (relativeRoots.map fun root => normalizeScopePath (root ++ "/" ++ pathRef)).filter
        fun candidate => candidate ≠ ""
    else []
  ref == "" || (ref :: rooted).any fun candidate =>
    scopePaths.any fun scope =>
      let normalized := normalizeScopePath scope
      normalized == "" || scopeCovers normalized candidate

structure VerificationCommand where
  id : String
  command : String

/-- The checks of other files and of command texts; two of them may raise. -/
structure PlanChecks where
  /-- Of the acceptance criteria of a task. -/
  acceptanceContractErrors : Json → String → List String
  successorBaseErrors : Json → String → List String
  taskVerificationCommands : Json → Except String (List VerificationCommand)
  verificationCommandErrors : String → List String
  verificationLevelErrors : String → List String
  commandPathRefs : String → List String
  requiredPlanPortErrors : Json → List String
  sharedConventionErrors : Json → List Json → List String
  /-- Of the owners of assemblies, the owners of bundles, and the dependencies. -/
  assemblyOwnershipErrors : Dict String String → Dict String String →
    Dict String (List String) → List String
  /-- The coverage of the goal claims, with its errors. -/
  validateGoalCoverage : Json → List Json → Json × List String
  /-- The order of the tasks, with the errors of their evidence. -/
  validateTaskMapEvidence : Json → Except String (List String × List String)
  upper : String → String

/-- What the checks of a task depend on besides the task. -/
structure PlanRules where
  requireTaskVerification : Bool
  requireInventoryBinding : Bool
  requireNonSmoke : Bool
  blockingPriorities : List String
  planScopePaths : List String
  relativeRoots : List String
  waveByTask : Dict String Int

def planRules (checks : PlanChecks) (payload : Json) (requireTaskVerification : Bool) :
    PlanRules :=
  let qualityContract := (payload.get "quality_contract").objectOrEmpty
  let binding := payload.get "require_inventory_binding"
  let priorities := firstList [stringList (qualityContract.get "blocking_priorities"), ["P0", "P1"]]
  { requireTaskVerification
    requireInventoryBinding := truthyFlag false
      (if binding.truthy then binding else qualityContract.get "require_inventory_binding")
    requireNonSmoke :=
      truthyFlag true (qualityContract.get "require_non_smoke_for_blocking_inventory")
    blockingPriorities := priorities.map checks.upper
    planScopePaths := ((tasksOf payload).filter Json.isObject).flatMap fun raw =>
      stringList (raw.get "allowed_paths") ++ exclusiveFiles raw
    relativeRoots := relativePathRoots payload
    waveByTask := waveByTaskId payload }

def inventoryBindingErrors (checks : PlanChecks) (rules : PlanRules) (raw : Json) :
    List String :=
  let id := if taskId raw = "" then "<unknown>" else taskId raw
  let priority := checks.upper (PyString.strip
    (if (raw.get "priority").truthy then raw.textAt "priority" else "P0"))
  let isAssembly :=
    PyString.lowerAscii (PyString.strip (raw.textAt "root_owner_class")) == "assembly"
  if rules.blockingPriorities ≠ [] ∧ priority ∉ rules.blockingPriorities then []
  else
    let inventoryIds := firstList [stringList (raw.get "inventory_ids"),
      stringList (raw.get "source_inventory_ids"), stringList (raw.get "inventory_refs")]
    let sourceRefs := firstList [stringList (raw.get "source_refs"),
      stringList (raw.get "source_ref"), stringList (raw.get "source_keys"),
      stringList (raw.get "source_key")]
    let verifications := [raw.get "verification", raw.get "verify_commands",
      raw.get "verification_commands", (raw.get "validation").get "command"]
    (if inventoryIds = [] ∧ ¬isAssembly then
      [id ++ ".inventory_ids or source_inventory_ids is required by quality_contract"] else []) ++
    (if sourceRefs = [] then [id ++ ".source_refs is required by quality_contract"] else []) ++
    (if verifications.all fun value => firstVerificationCommand value == "" then
      [id ++ ".verification or verify_commands is required by quality_contract"] else []) ++
    (if rules.requireNonSmoke ∧ ¬isAssembly ∧
        ¬truthyFlag false (raw.get "non_smoke_test_required") then
      [id ++ ".non_smoke_test_required=true is required by quality_contract"] else [])

def verificationScopeErrors (checks : PlanChecks) (rules : PlanRules) (raw : Json)
    (command : String) : List String :=
  let allowedPaths := stringList (raw.get "allowed_paths")
  if allowedPaths = [] then []
  else
    let scopePaths := allowedPaths ++ exclusiveFiles raw ++
      stringList (raw.get "verification_read_paths") ++ rules.planScopePaths
    ((checks.commandPathRefs command).filter fun pathRef =>
      !pathRefCovered pathRef scopePaths rules.relativeRoots).map fun pathRef =>
        "references path outside allowed_paths/exclusive_files/verification_read_paths: " ++
          Json.reprString pathRef

/-- The field that a verification command is reported under. -/
def verificationCommandField (raw : Json) (command : VerificationCommand) : String :=
  let validation := raw.get "validation"
  match validation.get "commands" with
  | .arr (_ :: _) => "validation.commands[" ++ command.id ++ "]"
  | _ => if (validation.get "command").truthy then "validation.command" else "verification"

def verificationErrors (checks : PlanChecks) (rules : PlanRules) (raw : Json) (id : String)
    (command : VerificationCommand) : List String :=
  (checks.verificationCommandErrors command.command ++
    verificationScopeErrors checks rules raw command.command ++
    checks.verificationLevelErrors command.command).map fun error =>
      id ++ "." ++ verificationCommandField raw command ++ " " ++ error

/-- What a task is refused for, apart from its id and its files. -/
def taskErrors (checks : PlanChecks) (rules : PlanRules) (raw : Json) (id : String)
    (commands : List VerificationCommand) : List String :=
  checks.acceptanceContractErrors (raw.get "acceptance_criteria") id ++
    checks.successorBaseErrors raw id ++
    (if rules.requireTaskVerification ∧ commands.isEmpty ∧
        stringList (raw.get "acceptance") = [] then
      [id ++ " requires verification or acceptance"] else []) ++
    commands.flatMap (verificationErrors checks rules raw id) ++
    (if rules.requireInventoryBinding then inventoryBindingErrors checks rules raw else [])

/-- What has been collected from the tasks so far. -/
structure PlanState where
  errors : List String
  ids : List String := []
  exclusiveClaims : Dict String String := Dict.empty
  waves : Dict String Int := Dict.empty
  taskCountByWave : Dict String Nat := Dict.empty
  missingAllowedPathReason : List String := []
  assemblyOwnerRoles : Dict String String := Dict.empty
  bundleOwnerRoles : Dict String String := Dict.empty
  taskDependencies : Dict String (List String) := Dict.empty

def PlanState.refuse (state : PlanState) (errors : List String) : PlanState :=
  { state with errors := state.errors ++ errors }

/-- Collect a task, up to the files that it owns. -/
def noteFields (checks : PlanChecks) (rules : PlanRules) (raw : Json) (id : String)
    (commands : List VerificationCommand) (state : PlanState) : PlanState :=
  let declared := raw.get "wave"
  let wave := if declared = .null then (rules.waveByTask.get? id).getD 0 else intValue declared
  let ownerRole := PyString.strip (raw.textAt "owner_role")
  let isAssembly :=
    PyString.lowerAscii (PyString.strip (raw.textAt "root_owner_class")) == "assembly"
  let reason := PyString.strip (either raw "allowed_paths_reason" "scope_reason").text
  { errors := state.errors ++
      (if id ∈ state.ids then ["duplicate task_id " ++ Json.reprString id] else []) ++
      taskErrors checks rules raw id commands
    ids := state.ids ++ [id]
    exclusiveClaims := state.exclusiveClaims
    waves := state.waves.insert id wave
    taskCountByWave := state.taskCountByWave.insert (toString wave)
      ((state.taskCountByWave.get? (toString wave)).getD 0 + 1)
    missingAllowedPathReason :=
      if stringList (raw.get "allowed_paths") ≠ [] ∧ reason = "" then
        state.missingAllowedPathReason ++ [id]
      else state.missingAllowedPathReason
    assemblyOwnerRoles :=
      if isAssembly ∧ ownerRole ≠ "" then state.assemblyOwnerRoles.insert id ownerRole
      else state.assemblyOwnerRoles
    bundleOwnerRoles :=
      if ¬isAssembly ∧ ownerRole ≠ "" then state.bundleOwnerRoles.insert id ownerRole
      else state.bundleOwnerRoles
    taskDependencies := state.taskDependencies.insert id (stringList (raw.get "blocked_by")) }

/-- A file of another task is refused, and goes to the later task all the same. -/
def claimFile (id : String) (state : PlanState) (path : String) : PlanState :=
  let owner := (state.exclusiveClaims.get? path).getD ""
  let overlap :=
    if owner ≠ "" ∧ owner ≠ id then
      ["exclusive_files overlap " ++ Json.reprString path ++ ": " ++ owner ++ " and " ++ id]
    else []
  { state.refuse overlap with exclusiveClaims := state.exclusiveClaims.insert path id }

def noteTask (checks : PlanChecks) (rules : PlanRules) (idx : Nat) (raw : Json)
    (state : PlanState) : Except String PlanState :=
  if !raw.isObject then .ok (state.refuse ["tasks[" ++ toString idx ++ "] must be an object"])
  else if taskId raw = "" then
    .ok (state.refuse ["tasks[" ++ toString idx ++ "].task_id is required"])
  else
    -- Commands that cannot be read are refused first, but raise when their fields are read.
    match checks.taskVerificationCommands raw with
    | .error detail => .error detail
    | .ok commands => .ok ((exclusiveFiles raw).foldl (claimFile (taskId raw))
        (noteFields checks rules raw (taskId raw) commands state))

def noteTasks (checks : PlanChecks) (rules : PlanRules) :
    Nat → List Json → PlanState → Except String PlanState
  | _, [], state => .ok state
  | idx, raw :: rest, state =>
      (noteTask checks rules idx raw state).bind (noteTasks checks rules (idx + 1) rest)

def dependencyErrors (state : PlanState) (idx : Nat) (raw : Json) : List String :=
  if !raw.isObject then []
  else
    let id := if taskId raw = "" then "tasks[" ++ toString idx ++ "]" else taskId raw
    (stringList (raw.get "blocked_by")).filterMap fun dep =>
      if dep ∉ state.ids then
        some (id ++ ".blocked_by references unknown task " ++ Json.reprString dep)
      else if (state.waves.get? dep).getD 0 > (state.waves.get? id).getD 0 then
        some (id ++ ".blocked_by " ++ Json.reprString dep ++ " is in a later wave")
      else none

/-- Every explicit requirement of a workspace root owner. -/
def workspaceRootOwnerRequirementValues (payload : Json) : List (String × Json) :=
  ((Dict.find "workspace_root_owner_required" payload.fields).toList.map fun value =>
    ("workspace_root_owner_required", value)) ++
  ((Dict.find "workspace_root_owner_required" (payload.get "refactor_contract").fields).toList.map
    fun value => ("refactor_contract.workspace_root_owner_required", value))

def isBool : Json → Bool
  | .bool _ => true
  | _ => false

def schemaErrors (payload : Json) : List String :=
  let schemaVersion := PyString.strip (payload.textAt "schema_version")
  (if schemaVersion ≠ "" ∧ schemaVersion ≠ "task-map.v1" then
    ["unsupported schema_version " ++ Json.reprString schemaVersion] else []) ++
  (if tasksOf payload = [] then ["tasks must be a non-empty list"] else [])

structure TaskMapSummary where
  taskCount : Nat
  waveCount : Nat
  tasksByWave : Dict String Nat
  exclusiveFileCount : Nat
  tasksMissingAllowedPathsReason : List String
  bundleOwnerCount : Nat
  assemblyTaskCount : Nat
  goalCoverage : Json
  topologicalOrder : List String

structure TaskMapValidationResult where
  passed : Bool
  errors : List String
  summary : TaskMapSummary

/-- What the whole map is refused for, once its tasks are collected. -/
def planErrors (checks : PlanChecks) (payload : Json) (state : PlanState)
    (evidenceErrors : List String) : List String :=
  let tasks := tasksOf payload
  let sourceRefs := payload.get "source_refs"
  (tasks.zipIdx.flatMap fun entry => dependencyErrors state entry.2 entry.1) ++
    (if sourceRefs ≠ .null ∧ !sourceRefs.isObject then
      ["source_refs must be an object when present"] else []) ++
    checks.requiredPlanPortErrors (payload.get "required_plan_ports") ++
    ((workspaceRootOwnerRequirementValues payload).filter fun entry => !isBool entry.2).map
      (fun entry => entry.1 ++ " must be a boolean when present") ++
    checks.sharedConventionErrors payload (tasks.filter Json.isObject) ++
    checks.assemblyOwnershipErrors state.assemblyOwnerRoles state.bundleOwnerRoles
      state.taskDependencies ++
    (checks.validateGoalCoverage payload (tasks.filter Json.isObject)).2 ++
    evidenceErrors

def validateTaskMapPayload (checks : PlanChecks) (payload : Json)
    (requireTaskVerification : Bool := true) : Except String TaskMapValidationResult := do
  let rules := planRules checks payload requireTaskVerification
  let state ← noteTasks checks rules 0 (tasksOf payload) { errors := schemaErrors payload }
  let (topologicalOrder, evidenceErrors) ← checks.validateTaskMapEvidence payload
  let errors := state.errors ++ planErrors checks payload state evidenceErrors
  return {
    passed := errors.isEmpty
    errors
    summary := {
      taskCount := state.ids.length
      waveCount := state.taskCountByWave.entries.length
      tasksByWave := state.taskCountByWave
      exclusiveFileCount := state.exclusiveClaims.entries.length
      tasksMissingAllowedPathsReason := state.missingAllowedPathReason
      bundleOwnerCount := state.bundleOwnerRoles.values.eraseDups.length
      assemblyTaskCount := state.assemblyOwnerRoles.entries.length
      goalCoverage :=
        (checks.validateGoalCoverage payload ((tasksOf payload).filter Json.isObject)).1
      topologicalOrder } }

/-- The validator returns, and refuses nothing. -/
def Passes (checks : PlanChecks) (payload : Json) (requireTaskVerification : Bool) : Prop :=
  (validateTaskMapPayload checks payload requireTaskVerification).toOption.map
    TaskMapValidationResult.passed = some true

instance (checks : PlanChecks) (payload : Json) (requireTaskVerification : Bool) :
    Decidable (Passes checks payload requireTaskVerification) :=
  inferInstanceAs (Decidable (_ = _))

end ZaofuFormal.TaskMap
