import ZaofuFormal.Foundation.Json
import ZaofuFormal.Foundation.Runs

/-!
# The TaskAttempt store

One JSON file holds every scheduler-owned attempt row and, for each attempt
lane, a pointer to its current row.  Every operation loads and validates the
file, works on the loaded data and, when it writes, replaces the whole file.
An operation therefore returns its outcome together with the file contents
that it leaves behind; an exception leaves behind whatever was last saved.

Row statuses are plain strings, because `update` stores any text it is given
and only the next load compares it with the known statuses.
-/

namespace ZaofuFormal.State.TaskAttempts

open Foundation

def storeSchemaVersion : String := "task-attempt-store.v1"

def attemptSchemaVersion : String := "task-attempt.v1"

def identityRoleV1 : String := "role-v1"

def identityOperationV2 : String := "operation-v2"

def attemptIdentityVersions : List String := [identityRoleV1, identityOperationV2]

def activeStatuses : List String := ["prepared", "delivering", "sent"]

def attemptStatuses : List String :=
  activeStatuses ++ ["succeeded", "failed", "expired", "superseded", "deadlettered"]

structure TaskAttempt where
  schemaVersion : String
  attemptId : String
  leaseId : String
  runId : String
  taskId : String
  parentTaskId : String
  operationId : String
  attemptKey : String
  identityVersion : String
  dispatchId : String
  role : String
  instanceId : String
  placementEpoch : Int
  briefingRef : String
  ordinal : Nat
  series : Nat
  status : String
  createdAt : String
  updatedAt : String
  leaseExpiresAt : String
  deliveryClaimedAt : String := ""
  sentAt : String := ""
  supersededFromStatus : String := ""
  supersededBy : String := ""
  terminalEventId : String := ""
  failureReason : String := ""
  failureClass : String := ""
  retryable : Option Bool := none
  recoveryOwner : String := ""
  deriving DecidableEq

def TaskAttempt.Active (row : TaskAttempt) : Prop := row.status ∈ activeStatuses

instance (row : TaskAttempt) : Decidable row.Active :=
  inferInstanceAs (Decidable (row.status ∈ activeStatuses))

/-- The contents of the store file; a missing file reads as `StoreData.empty`. -/
structure StoreData where
  schemaVersion : String
  revision : Nat
  attempts : Dict String TaskAttempt
  current : Dict String String
  deriving DecidableEq

def StoreData.empty : StoreData := ⟨"", 0, Dict.empty, Dict.empty⟩

inductive StoreError where
  | value (message : String)
  | limit (message : String)
  | store (message : String)
  deriving DecidableEq

/-- What the store takes from its surroundings: the first twenty hexadecimal
digits of SHA-256, and the path that its messages name. -/
structure Env where
  digest : String → String
  path : String

def scopeKey (runId taskId attemptKey : String) : String :=
  runId ++ "::" ++ taskId ++ "::" ++ attemptKey

def taskAttemptId (env : Env) (runId taskId dispatchId : String) : String :=
  "ta-" ++ env.digest (PyString.join '|' [runId, taskId, dispatchId])

def identityParts (runId taskId operationId role identityVersion : String) : List String :=
  if identityVersion = identityRoleV1 then [runId, taskId, operationId, role]
  else [runId, taskId, operationId]

def attemptKeyFor (env : Env) (runId taskId operationId role identityVersion : String) : String :=
  "tak-" ++ env.digest
    (PyString.join '|' (identityParts runId taskId operationId role identityVersion))

def taskAttemptLeaseId (env : Env) (attemptId : String) : String :=
  "lease-" ++ env.digest ("lease|" ++ attemptId)

/-- `role or instance_id`, the role component of an attempt key. -/
def keyRole (role instanceId : String) : String := if role = "" then instanceId else role

/-- The lane of a row: every attempt of one run, task and attempt key. -/
structure Lane where
  runId : String
  taskId : String
  attemptKey : String
  deriving DecidableEq

def Lane.scope (lane : Lane) : String := scopeKey lane.runId lane.taskId lane.attemptKey

def TaskAttempt.lane (row : TaskAttempt) : Lane := ⟨row.runId, row.taskId, row.attemptKey⟩

def requiredFields (row : TaskAttempt) : List (String × String) :=
  [("attempt_id", row.attemptId), ("lease_id", row.leaseId), ("run_id", row.runId),
    ("task_id", row.taskId), ("operation_id", row.operationId), ("attempt_key", row.attemptKey),
    ("dispatch_id", row.dispatchId), ("status", row.status)]

/-- The reason why a stored row is rejected, or the empty string. -/
def attemptRowError (env : Env) (attemptId : String) (row : TaskAttempt) : String :=
  let missing := ((requiredFields row).filter fun field => PyString.isBlank field.2).map Prod.fst
  let identityVersion :=
    if row.identityVersion = "" then identityRoleV1 else row.identityVersion
  if missing ≠ [] then attemptId ++ " missing " ++ String.intercalate ", " missing
  else if row.schemaVersion ≠ attemptSchemaVersion then attemptId ++ " has unsupported schema"
  else if row.attemptId ≠ attemptId then attemptId ++ " identity does not match its key"
  else if identityVersion ∉ attemptIdentityVersions then
    attemptId ++ " has unsupported identity_version " ++ Json.reprString identityVersion
  else if row.attemptKey ≠ attemptKeyFor env row.runId row.taskId row.operationId
      (keyRole row.role row.instanceId) identityVersion then
    attemptId ++ " attempt_key does not match its identity"
  else if row.status ∉ attemptStatuses then
    attemptId ++ " has unsupported status " ++ Json.reprString row.status
  else if row.ordinal < 1 ∨ row.series < 1 then
    attemptId ++ " ordinal/series must be positive"
  else if row.placementEpoch < 0 then attemptId ++ " placement_epoch must be >= 0"
  else if identityVersion = identityOperationV2 ∧ row.placementEpoch < 1 then
    attemptId ++ " operation-v2 placement_epoch must be >= 1"
  else ""

def rowReasons (env : Env) (data : StoreData) : List String :=
  (data.attempts.entries.map fun entry => attemptRowError env entry.1 entry.2).filter (· ≠ "")

def danglingScopes (data : StoreData) : List String :=
  (data.current.entries.filter fun entry => !data.attempts.contains entry.2).map Prod.fst

def mismatchedScopes (data : StoreData) : List String :=
  (data.current.entries.filter fun entry =>
    match data.attempts.get? entry.2 with
    | none => false
    | some row => !decide (entry.1 = row.lane.scope)).map Prod.fst

/-- Validate the file contents and normalize their schema version. -/
def loadUnlocked (env : Env) (disk : StoreData) : Except StoreError StoreData :=
  if disk.schemaVersion ≠ "" ∧ disk.schemaVersion ≠ storeSchemaVersion then
    .error (.store ("Unsupported TaskAttempt store schema " ++
      Json.reprString disk.schemaVersion ++ ": " ++ env.path))
  else
    match rowReasons env disk, danglingScopes disk, mismatchedScopes disk with
    | reason :: _, _, _ =>
        .error (.store ("TaskAttempt store row is invalid: " ++ reason ++ ": " ++ env.path))
    | [], scope :: _, _ =>
        .error (.store ("TaskAttempt store current pointer is invalid: " ++ scope ++ ": " ++
          env.path))
    | [], [], scope :: _ =>
        .error (.store ("TaskAttempt store current scope is invalid: " ++ scope ++ ": " ++
          env.path))
    | [], [], [] => .ok { disk with schemaVersion := storeSchemaVersion }

/-- Write the file: the serializer sorts keys and the revision advances by one. -/
def saveUnlocked (data : StoreData) : StoreData where
  schemaVersion := storeSchemaVersion
  revision := data.revision + 1
  attempts := data.attempts.sortKeys
  current := data.current.sortKeys

structure Dispatch where
  runId : String
  taskId : String
  dispatchId : String
  role : String
  instanceId : String
  operationId : String
  briefingRef : String := ""
  createdAt : String := ""
  leaseExpiresAt : String := ""
  maxAttempts : Int
  parentTaskId : String := ""
  identityVersion : String := identityRoleV1
  placementEpoch : Int := 0

/-- The normalized identity of a dispatch that passed the argument checks. -/
structure DispatchIdentity where
  runId : String
  taskId : String
  dispatchId : String
  identityVersion : String
  attemptId : String
  leaseId : String
  attemptKey : String

def DispatchIdentity.lane (identity : DispatchIdentity) : Lane :=
  ⟨identity.runId, identity.taskId, identity.attemptKey⟩

def dispatchIdentity (env : Env) (dispatch : Dispatch) : Except StoreError DispatchIdentity :=
  let stripped := PyString.strip dispatch.runId
  let taskId := PyString.strip dispatch.taskId
  let dispatchId := PyString.strip dispatch.dispatchId
  let identityVersion := PyString.strip dispatch.identityVersion
  if taskId = "" ∨ dispatchId = "" then
    .error (.value "TaskAttempt requires task_id and dispatch_id")
  else if identityVersion ∉ attemptIdentityVersions then
    .error (.value ("unsupported TaskAttempt identity_version " ++
      Json.reprString identityVersion))
  else if dispatch.placementEpoch < 0 then
    .error (.value "TaskAttempt placement_epoch must be >= 0")
  else if identityVersion = identityOperationV2 ∧ dispatch.placementEpoch < 1 then
    .error (.value "operation-v2 TaskAttempt placement_epoch must be >= 1")
  else
    let runId := if stripped = "" then "legacy" else stripped
    let attemptId := taskAttemptId env runId taskId dispatchId
    .ok {
      runId
      taskId
      dispatchId
      identityVersion
      attemptId
      leaseId := taskAttemptLeaseId env attemptId
      attemptKey := attemptKeyFor env runId taskId dispatch.operationId
        (keyRole dispatch.role dispatch.instanceId) identityVersion }

/-- The order in which the store ranks the rows of a lane. -/
def TaskAttempt.Before (first second : TaskAttempt) : Prop :=
  first.series < second.series ∨ (first.series = second.series ∧
    (first.ordinal < second.ordinal ∨ (first.ordinal = second.ordinal ∧
      (first.createdAt < second.createdAt ∨ (first.createdAt = second.createdAt ∧
        first.attemptId < second.attemptId)))))

instance (first second : TaskAttempt) : Decidable (first.Before second) :=
  inferInstanceAs (Decidable (_ ∨ _))

/-- The first row that no later row of the list ranks above. -/
def latestOperation : List TaskAttempt → Option TaskAttempt
  | [] => none
  | row :: rest =>
      some (rest.foldl (fun best next => if best.Before next then next else best) row)

/-- Series and ordinal of the next attempt of a lane with this latest row. -/
def nextPosition : Option TaskAttempt → Nat × Nat
  | none => (1, 1)
  | some latest =>
      if latest.status = "succeeded" then (latest.series + 1, 1)
      else (latest.series, latest.ordinal + 1)

/-- Does a new attempt of `operationId` replace the current row of its lane? -/
def replacesPrior (operationId : String) (prior : TaskAttempt) : Prop :=
  prior.Active ∨
    (prior.operationId = operationId ∧ prior.status ∉ ["succeeded", "deadlettered"])

instance (operationId : String) (prior : TaskAttempt) :
    Decidable (replacesPrior operationId prior) :=
  inferInstanceAs (Decidable (_ ∨ _))

def supersede (attemptId updatedAt : String) (prior : TaskAttempt) : TaskAttempt :=
  { prior with
    supersededFromStatus := prior.status
    status := "superseded"
    supersededBy := attemptId
    updatedAt := updatedAt }

def preparedAttempt (dispatch : Dispatch) (identity : DispatchIdentity) (position : Nat × Nat) :
    TaskAttempt where
  schemaVersion := attemptSchemaVersion
  attemptId := identity.attemptId
  leaseId := identity.leaseId
  runId := identity.runId
  taskId := identity.taskId
  parentTaskId := dispatch.parentTaskId
  operationId := dispatch.operationId
  attemptKey := identity.attemptKey
  identityVersion := identity.identityVersion
  dispatchId := identity.dispatchId
  role := dispatch.role
  instanceId := dispatch.instanceId
  placementEpoch := dispatch.placementEpoch
  briefingRef := dispatch.briefingRef
  ordinal := position.2
  series := position.1
  status := "prepared"
  createdAt := dispatch.createdAt
  updatedAt := dispatch.createdAt
  leaseExpiresAt := dispatch.leaseExpiresAt

/-- The rows of one lane, in file order. -/
def operationRows (data : StoreData) (lane : Lane) : List TaskAttempt :=
  data.attempts.values.filter fun row => decide (row.lane = lane)

/-- The position that the next attempt of a lane takes. -/
def StoreData.nextPosition (data : StoreData) (lane : Lane) : Nat × Nat :=
  TaskAttempts.nextPosition (latestOperation (operationRows data lane))

structure EnsureTaskAttemptResult where
  attempt : TaskAttempt
  created : Bool
  supersededAttemptId : String := ""
  deriving DecidableEq

/-- The rows after the current row of the lane has given way to `attemptId`,
with the id of the superseded row (empty when there is none). -/
def supersedePrior (data : StoreData) (scope operationId attemptId updatedAt : String) :
    Dict String TaskAttempt × String :=
  let priorId := (data.current.get? scope).getD ""
  match data.attempts.get? priorId with
  | none => (data.attempts, "")
  | some prior =>
      if priorId ≠ attemptId ∧ replacesPrior operationId prior then
        (data.attempts.insert priorId (supersede attemptId updatedAt prior), priorId)
      else (data.attempts, "")

def limitMessage (dispatch : Dispatch) (identity : DispatchIdentity) (ordinal : Nat) : String :=
  "TaskAttempt budget exhausted for " ++ identity.runId ++ "/" ++ identity.taskId ++ "/" ++
    dispatch.operationId ++ ": " ++ toString (ordinal - 1) ++ "/" ++ toString dispatch.maxAttempts

/-- The part of `ensureForDispatch` that runs for a dispatch without a row. -/
def createAttempt (dispatch : Dispatch) (identity : DispatchIdentity) (disk data : StoreData) :
    Except StoreError EnsureTaskAttemptResult × StoreData :=
  let position := data.nextPosition identity.lane
  if 0 < dispatch.maxAttempts ∧ dispatch.maxAttempts < position.2 then
    (.error (.limit (limitMessage dispatch identity position.2)), disk)
  else
    let superseded := supersedePrior data identity.lane.scope dispatch.operationId
      identity.attemptId dispatch.createdAt
    let attempt := preparedAttempt dispatch identity position
    (.ok {
        attempt
        created := true
        supersededAttemptId := superseded.2 },
      saveUnlocked { data with
        attempts := superseded.1.insert identity.attemptId attempt
        current := data.current.insert identity.lane.scope identity.attemptId })

def ensureForDispatch (env : Env) (dispatch : Dispatch) (disk : StoreData) :
    Except StoreError EnsureTaskAttemptResult × StoreData :=
  match dispatchIdentity env dispatch with
  | .error error => (.error error, disk)
  | .ok identity =>
      match loadUnlocked env disk with
      | .error error => (.error error, disk)
      | .ok data =>
          match data.attempts.get? identity.attemptId with
          | some existing => (.ok { attempt := existing, created := false }, disk)
          | none => createAttempt dispatch identity disk data

/--
The shared shape of the single-row operations: load, look the row up, leave it
alone when `rewrite` declines, and otherwise save the rewritten row.  The flag
tells whether the row was rewritten.
-/
def rewriteAttempt (env : Env) (attemptId : String)
    (rewrite : TaskAttempt → Option TaskAttempt) (disk : StoreData) :
    Except StoreError (Option TaskAttempt × Bool) × StoreData :=
  match loadUnlocked env disk with
  | .error error => (.error error, disk)
  | .ok data =>
      match data.attempts.get? attemptId with
      | none => (.ok (none, false), disk)
      | some row =>
          match rewrite row with
          | none => (.ok (some row, false), disk)
          | some changed =>
              (.ok (some changed, true),
                saveUnlocked { data with attempts := data.attempts.insert attemptId changed })

def claimDelivery (env : Env) (attemptId updatedAt : String) :
    StoreData → Except StoreError (Option TaskAttempt × Bool) × StoreData :=
  rewriteAttempt env attemptId fun row =>
    if row.status ≠ "prepared" then none
    else some { row with
      status := "delivering"
      updatedAt := updatedAt
      deliveryClaimedAt := updatedAt }

def markSent (env : Env) (attemptId updatedAt : String) :
    StoreData → Except StoreError (Option TaskAttempt × Bool) × StoreData :=
  rewriteAttempt env attemptId fun row =>
    if row.status ∉ ["delivering", "sent"] then none
    else some { row with
      status := "sent"
      updatedAt := updatedAt
      sentAt := if row.sentAt = "" then updatedAt else row.sentAt }

def renewLease (env : Env) (attemptId updatedAt leaseExpiresAt : String) :
    StoreData → Except StoreError (Option TaskAttempt × Bool) × StoreData :=
  rewriteAttempt env attemptId fun row =>
    if row.status ∉ activeStatuses then none
    else some { row with
      updatedAt := updatedAt
      leaseExpiresAt := leaseExpiresAt }

structure Settlement where
  status : String
  updatedAt : String
  terminalEventId : String := ""
  failureReason : String := ""
  failureClass : String := ""
  retryable : Option Bool := none
  recoveryOwner : String := ""

def orElse (value fallback : String) : String := if value = "" then fallback else value

def update (env : Env) (attemptId : String) (settlement : Settlement) :
    StoreData → Except StoreError (Option TaskAttempt × Bool) × StoreData :=
  rewriteAttempt env attemptId fun row =>
    some { row with
      status := settlement.status
      updatedAt := settlement.updatedAt
      terminalEventId := orElse settlement.terminalEventId row.terminalEventId
      failureReason := orElse settlement.failureReason row.failureReason
      failureClass := orElse settlement.failureClass row.failureClass
      retryable := settlement.retryable.orElse fun _ => row.retryable
      recoveryOwner := orElse settlement.recoveryOwner row.recoveryOwner }

def expireRow (nowIso : String) (row : TaskAttempt) : TaskAttempt :=
  { row with
    status := "expired"
    updatedAt := nowIso
    failureReason := "lease_expired"
    failureClass := "lease_expired"
    retryable := some true
    recoveryOwner := "scheduler" }

def leaseLapsed (isExpired : String → Bool) (row : TaskAttempt) : Bool :=
  decide row.Active && isExpired row.leaseExpiresAt

/-- Expire every active row whose lease has lapsed; save only when one did. -/
def expire (env : Env) (nowIso : String) (isExpired : String → Bool) (disk : StoreData) :
    Except StoreError (List TaskAttempt) × StoreData :=
  match loadUnlocked env disk with
  | .error error => (.error error, disk)
  | .ok data =>
      let expired := (data.attempts.values.filter (leaseLapsed isExpired)).map (expireRow nowIso)
      if expired = [] then (.ok [], disk)
      else
        (.ok expired, saveUnlocked { data with
          attempts := data.attempts.mapValues fun row =>
            if leaseLapsed isExpired row then expireRow nowIso row else row })

inductive Operation where
  | ensureForDispatch (dispatch : Dispatch)
  | claimDelivery (attemptId updatedAt : String)
  | markSent (attemptId updatedAt : String)
  | renewLease (attemptId updatedAt leaseExpiresAt : String)
  | update (attemptId : String) (settlement : Settlement)
  | expire (nowIso : String) (isExpired : String → Bool)

/-- The file contents after one call, whatever its outcome. -/
def step (env : Env) (disk : StoreData) : Operation → StoreData
  | .ensureForDispatch dispatch => (ensureForDispatch env dispatch disk).2
  | .claimDelivery attemptId updatedAt => (claimDelivery env attemptId updatedAt disk).2
  | .markSent attemptId updatedAt => (markSent env attemptId updatedAt disk).2
  | .renewLease attemptId updatedAt leaseExpiresAt =>
      (renewLease env attemptId updatedAt leaseExpiresAt disk).2
  | .update attemptId settlement => (update env attemptId settlement disk).2
  | .expire nowIso isExpired => (expire env nowIso isExpired disk).2

end ZaofuFormal.State.TaskAttempts
