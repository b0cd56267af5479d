import ZaofuFormal.Foundation.Dict
import ZaofuFormal.Foundation.PyString

/-!
# The role session registry

The registry maps every worker instance to the UUID of its provider session
and keeps the bindings of Task-stage sessions, which move between instances.
Every operation works on the saved registry under its lock and either saves a
changed one or leaves it as it is.  Time stamps and the recorded reasons of a
rotation or release are left out: no operation reads them.
-/

namespace ZaofuFormal.State.RoleSessions

open Foundation

/-- What the registry takes from its surroundings: `uuid5` in the DNS name space
and the parsing of a UUID, both as canonical text, and the first twenty-four
hexadecimal digits of SHA-256. -/
structure Env where
  projectRoot : String
  uuid5 : String → String
  parseUuid : String → Option String
  digest : String → String

structure InstanceMeta where
  backend : String := ""
  rotationCounter : Int := 0
  sessionPath : Option String := none
  spawned : Bool := false
  activeTaskStageBindingKey : String := ""
  taskStageBindingPreviousKey : String := ""
  providerSessionConfigDigest : String := ""
  providerSessionConfigRef : String := ""
  providerSessionConfigExplicit : Bool := false
  deriving DecidableEq

inductive BindingStatus where
  | active
  | sealed
  | archived
  deriving DecidableEq

structure Placement where
  placementEpoch : Int
  roleInstance : String
  workspaceGeneration : Int
  deriving DecidableEq

structure TaskStageBinding where
  bindingKey : String
  workflowRunId : String
  taskId : String
  stage : String
  reworkAffinityId : String
  sessionId : String
  backend : String
  roleConfigDigest : String
  workspaceGeneration : Int
  status : BindingStatus
  placementHistory : List Placement
  currentRoleInstance : String := ""
  currentPlacementEpoch : Int := 0
  providerSessionObserved : Bool := false
  providerSessionRoleInstance : String := ""
  sessionPath : Option String := none
  deriving DecidableEq

structure Registry where
  entries : Dict String String := Dict.empty
  instanceMeta : Dict String InstanceMeta := Dict.empty
  taskStageBindings : Dict String TaskStageBinding := Dict.empty
  deriving DecidableEq

def Registry.metaOf (registry : Registry) (instanceId : String) : InstanceMeta :=
  (registry.instanceMeta.get? instanceId).getD {}

def Registry.setMeta (registry : Registry) (instanceId : String) (record : InstanceMeta) :
    Registry :=
  { registry with instanceMeta := registry.instanceMeta.insert instanceId record }

def Registry.setEntry (registry : Registry) (instanceId uuid : String) : Registry :=
  { registry with entries := registry.entries.insert instanceId uuid }

def Registry.dropEntry (registry : Registry) (instanceId : String) : Registry :=
  { registry with entries := registry.entries.erase instanceId }

def Registry.setBinding (registry : Registry) (key : String) (binding : TaskStageBinding) :
    Registry :=
  { registry with taskStageBindings := registry.taskStageBindings.insert key binding }

/-- The deterministic UUID of an instance, backend and rotation. -/
def uuid5Seed (env : Env) (instanceId : String) (rotation : Int) (backend : String) : String :=
  env.uuid5 (env.projectRoot ++ ":" ++ instanceId ++
    (if backend = "" then "" else ":" ++ backend) ++
    (if 0 < rotation then ":rot-" ++ toString rotation else ""))

def backendChanged (record : InstanceMeta) (backend : String) : Prop :=
  backend ≠ "" ∧ record.backend ≠ "" ∧ record.backend ≠ backend

instance (record : InstanceMeta) (backend : String) : Decidable (backendChanged record backend) :=
  inferInstanceAs (Decidable (_ ∧ _))

/-- Record the backend when one is given. -/
def InstanceMeta.withBackend (record : InstanceMeta) (backend : String) : InstanceMeta :=
  if backend = "" then record else { record with backend := backend }

/-- The record with which a missing or foreign UUID is generated. -/
def rotatedFor (record : InstanceMeta) (backend : String) : InstanceMeta :=
  if backendChanged record backend then
    { record with rotationCounter := record.rotationCounter + 1 }
  else record

def getOrCreate (env : Env) (instanceId backend : String) (registry : Registry) :
    String × Registry :=
  let record := registry.metaOf instanceId
  match registry.entries.get? instanceId, decide (backendChanged record backend) with
  | some uuid, false =>
      if backend ≠ "" ∧ record.backend = "" then
        (uuid, registry.setMeta instanceId (record.withBackend backend))
      else (uuid, registry)
  | _, _ =>
      let rotated := rotatedFor record backend
      let uuid := uuid5Seed env instanceId rotated.rotationCounter backend
      (uuid, (registry.setMeta instanceId (rotated.withBackend backend)).setEntry instanceId uuid)

/-- Bind a backend to an instance without generating a UUID. -/
def markBackend (instanceId backend : String) (registry : Registry) : Bool × Registry :=
  let record := registry.metaOf instanceId
  if record.backend ≠ "" ∧ record.backend ≠ backend then
    (true, (registry.setMeta instanceId { record with
      rotationCounter := record.rotationCounter + 1
      sessionPath := none
      backend := backend }).dropEntry instanceId)
  else if record.backend ≠ backend then
    (false, registry.setMeta instanceId { record with backend := backend })
  else (false, registry)

structure ProviderBinding where
  status : String
  recycled : Bool
  reason : String
  previousDigest : String
  previousRef : String
  digest : String
  ref : String
  deriving DecidableEq

def recycleReason (record : InstanceMeta) (digest : String) (explicit : Bool) : String :=
  if record.providerSessionConfigDigest ≠ "" ∧ record.providerSessionConfigDigest ≠ digest then
    "provider_session_config_changed"
  else if record.providerSessionConfigDigest = "" ∧ explicit ∧ record.spawned then
    "provider_session_config_currentness_unproven"
  else ""

def providerStatus (record : InstanceMeta) (digest : String) (recycled : Bool) : String :=
  if recycled then "recycled"
  else if record.providerSessionConfigDigest = digest then "current"
  else if record.providerSessionConfigDigest ≠ "" then "rebound"
  else if record.spawned then "legacy_bound"
  else "bound"

/-- Bind a frozen provider config and recycle an unprovable session. -/
def bindProviderSessionConfig (instanceId digest ref : String) (explicit : Bool)
    (registry : Registry) : Except String ProviderBinding × Registry :=
  if digest = "" ∨ ref = "" then
    (.error "provider session config requires digest and ref", registry)
  else
    let record := registry.metaOf instanceId
    let reason := recycleReason record digest explicit
    let recycled := decide (reason ≠ "")
    let recycledRecord :=
      if recycled then
        { record with
          rotationCounter := record.rotationCounter + 1
          sessionPath := none
          spawned := false }
      else record
    let bound := registry.setMeta instanceId { recycledRecord with
      providerSessionConfigDigest := digest
      providerSessionConfigRef := ref
      providerSessionConfigExplicit := explicit }
    (.ok {
        status := providerStatus record digest recycled
        recycled
        reason
        previousDigest := record.providerSessionConfigDigest
        previousRef := record.providerSessionConfigRef
        digest
        ref },
      if recycled then bound.dropEntry instanceId else bound)

/-- Generate a fresh session UUID for the instance. -/
def rotate (env : Env) (instanceId : String) (registry : Registry) : String × Registry :=
  let record := registry.metaOf instanceId
  let counter := record.rotationCounter + 1
  let uuid := uuid5Seed env instanceId counter ""
  (uuid, (registry.setMeta instanceId { record with
    rotationCounter := counter
    sessionPath := none }).setEntry instanceId uuid)

/-- Drop the cached session UUID and path of one instance. -/
def clear (instanceId : String) (registry : Registry) : Registry :=
  (registry.setMeta instanceId { registry.metaOf instanceId with
    sessionPath := none }).dropEntry instanceId

def markSpawned (instanceId : String) (registry : Registry) : Bool × Registry :=
  let record := registry.metaOf instanceId
  if record.spawned then (true, registry)
  else (false, registry.setMeta instanceId { record with spawned := true })

/-- The first instance registered under a UUID. -/
def getInstanceByUuid (registry : Registry) (uuid : String) : Option String :=
  (registry.entries.entries.find? fun entry => decide (entry.2 = uuid)).map Prod.fst

/-- The other instances that are registered under a UUID. -/
def Registry.others (registry : Registry) (instanceId uuid : String) : List String :=
  (registry.entries.entries.filter fun entry =>
    decide (entry.1 ≠ instanceId ∧ entry.2 = uuid)).map Prod.fst

/-- Take the UUID from every other instance that is registered under it. -/
def Registry.releaseOthers (registry : Registry) (instanceId uuid : String) : Registry :=
  (registry.others instanceId uuid).foldl (fun released other =>
    (released.setMeta other { released.metaOf other with sessionPath := none }).dropEntry other)
    registry

structure BindingIdentity where
  workflowRunId : String
  taskId : String
  stage : String
  reworkAffinityId : String

def BindingIdentity.stripped (identity : BindingIdentity) : BindingIdentity where
  workflowRunId := PyString.strip identity.workflowRunId
  taskId := PyString.strip identity.taskId
  stage := PyString.strip identity.stage
  reworkAffinityId := PyString.strip identity.reworkAffinityId

def BindingIdentity.values (identity : BindingIdentity) : List String :=
  [identity.workflowRunId, identity.taskId, identity.stage, identity.reworkAffinityId]

def taskStageBindingKey (env : Env) (identity : BindingIdentity) : Except String String :=
  if "" ∈ identity.stripped.values then .error "task-stage binding identity is incomplete"
  else .ok ("task-stage-" ++ env.digest (PyString.join '|' identity.stripped.values))

structure BindRequest where
  identity : BindingIdentity
  roleInstance : String
  roleConfigDigest : String
  workspaceGeneration : Int
  placementEpoch : Int
  backend : String := ""

/-- The required texts of a bind request under their names, stripped. -/
def BindRequest.fields (request : BindRequest) : List (String × String) :=
  [("workflow_run_id", request.identity.workflowRunId), ("task_id", request.identity.taskId),
    ("stage", request.identity.stage), ("rework_affinity_id", request.identity.reworkAffinityId),
    ("role_instance", request.roleInstance),
    ("role_config_digest", request.roleConfigDigest)].map fun field =>
      (field.1, PyString.strip field.2)

/-- The complaint about a request that does not reach the registry, or the empty text. -/
def BindRequest.complaint (request : BindRequest) : String :=
  let missing := (request.fields.filter fun field => decide (field.2 = "")).map Prod.fst
  if missing ≠ [] then
    "task-stage session binding missing: " ++ String.intercalate ", " missing
  else if request.workspaceGeneration < 1 then "workspace_generation must be >= 1"
  else if request.placementEpoch < 1 then "placement_epoch must be >= 1"
  else ""

/-- A binding before it is placed for the first time. -/
def newBinding (env : Env) (request : BindRequest) (key : String) : TaskStageBinding where
  bindingKey := key
  workflowRunId := request.identity.stripped.workflowRunId
  taskId := request.identity.stripped.taskId
  stage := request.identity.stripped.stage
  reworkAffinityId := request.identity.stripped.reworkAffinityId
  sessionId := env.uuid5 (env.projectRoot ++ ":task-stage:" ++ key ++ ":" ++ request.backend)
  backend := request.backend
  roleConfigDigest := PyString.strip request.roleConfigDigest
  workspaceGeneration := request.workspaceGeneration
  status := .active
  placementHistory := []

/-- The complaint about a request for an existing binding, or the empty text. -/
def rebindComplaint (request : BindRequest) (binding : TaskStageBinding) : String :=
  if binding.status = .archived then "task-stage session binding is archived"
  else if binding.roleConfigDigest ≠ PyString.strip request.roleConfigDigest then
    "task-stage role config digest changed"
  else if binding.workspaceGeneration ≠ request.workspaceGeneration then
    "task-stage workspace generation changed"
  else ""

def BindRequest.placement (request : BindRequest) : Placement where
  placementEpoch := request.placementEpoch
  roleInstance := PyString.strip request.roleInstance
  workspaceGeneration := request.workspaceGeneration

/-- Append the requested placement and make it the current one. -/
def TaskStageBinding.place (binding : TaskStageBinding) (request : BindRequest) :
    TaskStageBinding :=
  { binding with
    placementHistory := binding.placementHistory ++ [request.placement]
    currentRoleInstance := request.placement.roleInstance
    currentPlacementEpoch := request.placementEpoch
    status := .active }

/-- Place a binding that takes the request: a later epoch is appended, the
current one is confirmed without a change. -/
def placeBinding (request : BindRequest) (key : String) (binding : TaskStageBinding)
    (registry : Registry) : Except String TaskStageBinding × Registry :=
  let placed := (Except.ok (binding.place request), registry.setBinding key (binding.place request))
  match binding.placementHistory.getLast? with
  | none => placed
  | some previous =>
      if request.placementEpoch < previous.placementEpoch then
        (.error "task-stage placement epoch regressed", registry)
      else if request.placementEpoch = previous.placementEpoch then
        if previous.roleInstance ≠ request.placement.roleInstance then
          (.error "task-stage placement epoch is already bound", registry)
        else (.ok binding, registry)
      else placed

/-- Create or relocate one Task-stage provider session binding. -/
def bindTaskStageSession (env : Env) (request : BindRequest) (registry : Registry) :
    Except String TaskStageBinding × Registry :=
  if request.complaint ≠ "" then (.error request.complaint, registry)
  else
    match taskStageBindingKey env request.identity with
    | .error error => (.error error, registry)
    | .ok key =>
        match registry.taskStageBindings.get? key with
        | none => placeBinding request key (newBinding env request key) registry
        | some binding =>
            if rebindComplaint request binding ≠ "" then
              (.error (rebindComplaint request binding), registry)
            else placeBinding request key binding registry

/-- The complaint about an activation, or the empty text. -/
def activationComplaint (binding : TaskStageBinding) (roleInstance : String) : String :=
  if binding.status = .archived then "task-stage session binding is archived"
  else if binding.currentRoleInstance ≠ roleInstance then
    "task-stage session placement is not current"
  else ""

/-- Project the session of a binding onto the entries. -/
def projectSession (binding : TaskStageBinding) (roleInstance : String) (registry : Registry) :
    Registry :=
  if binding.backend = "codex" ∧ binding.providerSessionObserved = false then
    (registry.setMeta roleInstance { registry.metaOf roleInstance with
      sessionPath := none }).dropEntry roleInstance
  else if binding.sessionId ≠ "" then
    let released := (registry.releaseOthers roleInstance binding.sessionId).setEntry roleInstance
      binding.sessionId
    if binding.sessionPath.getD "" = "" then released
    else released.setMeta roleInstance { released.metaOf roleInstance with
      sessionPath := binding.sessionPath }
  else registry

/-- Project one durable Task-stage session onto a physical slot. -/
def activateTaskStageSession (bindingKey roleInstance : String) (registry : Registry) :
    Except String TaskStageBinding × Registry :=
  let key := PyString.strip bindingKey
  let roleInstance := PyString.strip roleInstance
  if key = "" ∨ roleInstance = "" then
    (.error "task-stage activation requires binding and role", registry)
  else
    match registry.taskStageBindings.get? key with
    | none => (.error "task-stage session binding does not exist", registry)
    | some binding =>
        if activationComplaint binding roleInstance ≠ "" then
          (.error (activationComplaint binding roleInstance), registry)
        else
          let record := registry.metaOf roleInstance
          let activated := registry.setMeta roleInstance { record with
            activeTaskStageBindingKey := key
            taskStageBindingPreviousKey := record.activeTaskStageBindingKey
            backend := if binding.backend = "" then record.backend else binding.backend }
          let active := { binding with status := .active }
          (.ok active, (projectSession binding roleInstance activated).setBinding key active)

def sealTaskStageSession (env : Env) (identity : BindingIdentity) (registry : Registry) :
    Except String (Option TaskStageBinding) × Registry :=
  match taskStageBindingKey env identity with
  | .error error => (.error error, registry)
  | .ok key =>
      match registry.taskStageBindings.get? key with
      | none => (.ok none, registry)
      | some binding =>
          let closed := { binding with status := .sealed }
          (.ok (some closed), registry.setBinding key closed)

def archiveTaskStageSession (env : Env) (identity : BindingIdentity) (registry : Registry) :
    Except String (Option TaskStageBinding) × Registry :=
  match taskStageBindingKey env identity with
  | .error error => (.error error, registry)
  | .ok key =>
      match registry.taskStageBindings.get? key with
      | none => (.ok none, registry)
      | some binding =>
          if binding.status ≠ .sealed then
            (.error "task-stage session must be sealed before archive", registry)
          else
            let archived := { binding with status := .archived }
            (.ok (some archived), registry.setBinding key archived)

/-- A binding after its instance was observed in a Codex session. -/
def TaskStageBinding.observed (binding : TaskStageBinding) (instanceId uuid : String)
    (sessionPath : Option String) : TaskStageBinding :=
  { binding with
    sessionId := uuid
    providerSessionObserved := true
    providerSessionRoleInstance := instanceId
    sessionPath := sessionPath.or binding.sessionPath }

/-- The binding that an observed session of the instance belongs to. -/
def Registry.activeBinding (registry : Registry) (instanceId : String) :
    Option TaskStageBinding :=
  registry.taskStageBindings.get? (registry.metaOf instanceId).activeTaskStageBindingKey

/-- Bind an observed Codex session UUID to an instance. -/
def bindCodexSession (env : Env) (instanceId sessionId : String) (sessionPath : Option String)
    (registry : Registry) : Bool × Registry :=
  match env.parseUuid sessionId with
  | none => (false, registry)
  | some uuid =>
      let record := registry.metaOf instanceId
      let observed := registry.setMeta instanceId { record with
        backend := "codex"
        sessionPath := sessionPath.or record.sessionPath }
      let rebound :=
        match registry.activeBinding instanceId with
        | none => observed
        | some binding => observed.setBinding record.activeTaskStageBindingKey
            (binding.observed instanceId uuid sessionPath)
      (true, (rebound.releaseOthers instanceId uuid).setEntry instanceId uuid)

inductive Call where
  | getOrCreate (instanceId backend : String)
  | markBackend (instanceId backend : String)
  | markSpawned (instanceId : String)
  | bindProviderSessionConfig (instanceId digest ref : String) (explicit : Bool)
  | rotate (instanceId : String)
  | clear (instanceId : String)
  | bindCodexSession (instanceId sessionId : String) (sessionPath : Option String)
  | bindTaskStageSession (request : BindRequest)
  | activateTaskStageSession (bindingKey roleInstance : String)
  | sealTaskStageSession (identity : BindingIdentity)
  | archiveTaskStageSession (identity : BindingIdentity)

/-- The registry after one call, whatever its outcome. -/
def Registry.call (env : Env) (registry : Registry) : Call → Registry
  | .getOrCreate instanceId backend => (getOrCreate env instanceId backend registry).2
  | .markBackend instanceId backend => (markBackend instanceId backend registry).2
  | .markSpawned instanceId => (markSpawned instanceId registry).2
  | .bindProviderSessionConfig instanceId digest ref explicit =>
      (bindProviderSessionConfig instanceId digest ref explicit registry).2
  | .rotate instanceId => (rotate env instanceId registry).2
  | .clear instanceId => clear instanceId registry
  | .bindCodexSession instanceId sessionId sessionPath =>
      (bindCodexSession env instanceId sessionId sessionPath registry).2
  | .bindTaskStageSession request => (bindTaskStageSession env request registry).2
  | .activateTaskStageSession bindingKey roleInstance =>
      (activateTaskStageSession bindingKey roleInstance registry).2
  | .sealTaskStageSession identity => (sealTaskStageSession env identity registry).2
  | .archiveTaskStageSession identity => (archiveTaskStageSession env identity registry).2

end ZaofuFormal.State.RoleSessions
