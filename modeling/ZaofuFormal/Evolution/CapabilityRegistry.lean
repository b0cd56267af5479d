import ZaofuFormal.Foundation.Fallible
import ZaofuFormal.Foundation.JsonText
import ZaofuFormal.Foundation.Runs

/-!
# The capability registry

One JSON file holds every version of every learning asset, a pointer from an
asset to its active version, and a pointer to its canary.  Each operation takes
the lock of the file, loads it, and replaces it when it writes, so a call is
one step; a call that raises leaves the file as it was.
-/

namespace ZaofuFormal.Evolution.CapabilityRegistry

open Foundation
open Fallible (refuse required)

inductive AssetState where
  | candidate
  | validated
  | approved
  | canaryActive
  | activeRetained
  | rejected
  | expired
  | revoked
  | superseded
  deriving DecidableEq

def AssetState.text : AssetState → String
  | .candidate => "candidate"
  | .validated => "validated"
  | .approved => "approved"
  | .canaryActive => "canary_active"
  | .activeRetained => "active_retained"
  | .rejected => "rejected"
  | .expired => "expired"
  | .revoked => "revoked"
  | .superseded => "superseded"

def assetStates : List AssetState :=
  [.candidate, .validated, .approved, .canaryActive, .activeRetained, .rejected, .expired,
    .revoked, .superseded]

def AssetState.ofText? (text : String) : Option AssetState :=
  assetStates.find? fun state => state.text == text

def assetTransitions : AssetState → List AssetState
  | .candidate => [.validated, .rejected, .expired]
  | .validated => [.approved, .rejected, .expired]
  | .approved => [.canaryActive, .rejected, .expired]
  | .canaryActive => [.activeRetained, .revoked]
  | .activeRetained => [.revoked, .superseded]
  | .rejected | .expired | .revoked | .superseded => []

structure Outcome where
  outcomeId : List Char
  usageRef : String
  matched : Bool
  outcome : String
  negativeTransfer : Bool
  cost : Json
  cohort : Json
  evaluation : Json
  recordedAt : String

structure Asset where
  assetId : String
  assetKind : String
  version : Int
  digest : String
  state : AssetState
  revision : Int
  proposalFingerprint : String
  artifactRef : Json
  sourceAttemptIds : List Json
  applicability : Json
  quality : Json
  activation : Json
  rollback : Json
  dependencies : List Json
  provenance : Json
  taint : Json
  outcomes : List Outcome
  createdAt : String
  updatedAt : String
  lastReceiptRef : Option Json := none
  previousActiveKey : String := ""

structure Action where
  assetKey : String
  targetState : String
  receiptRef : Json
  updatedAt : String

structure Rejection where
  assetKey : String
  receiptRef : Json

/-- The contents of the registry file; a missing file reads as the empty one. -/
structure Registry where
  revision : Nat
  assets : Dict String Asset
  activeVersions : Dict String String
  canaryVersions : Dict String String
  rejectedFingerprints : Dict String Rejection
  actions : Dict String Action

def Registry.empty : Registry :=
  ⟨0, Dict.empty, Dict.empty, Dict.empty, Dict.empty, Dict.empty⟩

inductive StoreError where
  | store (message : String)
  | conflict (message : String)
  | missingKey (key : String)
  | value

/-- What the registry takes from its surroundings: the hexadecimal SHA-256 of a
text, the instant that an ISO text names, and the normalised evaluation of an
outcome, whose scores are floats that no operation reads again. -/
structure Env where
  sha256 : List Char → List Char
  fromIsoFormat : String → Option Int
  normalizedOutcomeEvaluation : Json → Bool → Except StoreError Json

def stableDigest (env : Env) (value : Json) : List Char :=
  env.sha256 (JsonText.dumps value ++ [Char.ofNat 10])

def isExpired (env : Env) (expiresAt now : String) : Bool :=
  match env.fromIsoFormat expiresAt, env.fromIsoFormat now with
  | some expiry, some current => expiry ≤ current
  | _, _ => true

def assetKey (assetId : String) (version : Int) : Except StoreError String :=
  if assetId = "" ∨ version < 1 then .error (.store "invalid learning asset identity")
  else .ok (assetId ++ "@" ++ String.ofList (JsonText.intText version))

def asObject (value : Json) : Except StoreError Json := required value.object? .value

def asList (value : Json) : Except StoreError (List Json) := required value.list? .value

structure Propose where
  asset : Json
  artifactRef : Json
  createdAt : String

/-- The fields that a second proposal of the same version has to repeat. -/
def stableFields (row : Asset) : Json :=
  .obj [("asset_id", .str row.assetId), ("asset_kind", .str row.assetKind),
    ("version", .int row.version), ("digest", .str row.digest),
    ("proposal_fingerprint", .str row.proposalFingerprint), ("artifact_ref", row.artifactRef)]

def proposalFingerprint (env : Env) (asset : Json) : String :=
  if asset.textAt "proposal_fingerprint" = "" then String.ofList (stableDigest env asset)
  else asset.textAt "proposal_fingerprint"

def proposedRow (env : Env) (call : Propose) (assetId : String) (version : Int) :
    Except StoreError Asset := do
  let sourceAttemptIds ← asList (call.asset.get "source_attempt_ids")
  let applicability ← asObject (call.asset.get "applicability")
  let quality ← asObject (call.asset.get "quality")
  let activation ← asObject (call.asset.get "activation")
  let rollback ← asObject (call.asset.get "rollback")
  let dependencies ← asList (call.asset.get "dependencies")
  let provenance ← asObject (call.asset.get "provenance")
  let taint ← asObject (call.asset.get "taint")
  return {
    assetId
    assetKind := call.asset.textAt "asset_kind"
    version
    digest := call.asset.textAt "digest"
    state := .candidate
    revision := 1
    proposalFingerprint := proposalFingerprint env call.asset
    artifactRef := call.artifactRef
    sourceAttemptIds, applicability, quality, activation, rollback, dependencies, provenance, taint
    outcomes := []
    createdAt := call.createdAt
    updatedAt := call.createdAt }

def propose (env : Env) (data : Registry) (call : Propose) :
    Except StoreError (Asset × Bool × Registry) := do
  let assetId := PyString.strip (call.asset.textAt "asset_id")
  let version ← required (call.asset.get "version").intOrZero? .value
  refuse (assetId = "" ∨ version < 1) (.store "learning asset requires asset_id and version")
  let key ← assetKey assetId version
  let fingerprint := proposalFingerprint env call.asset
  refuse (data.rejectedFingerprints.get? fingerprint).isSome
    (.conflict ("learning proposal fingerprint was already rejected: " ++ fingerprint))
  let row ← proposedRow env call assetId version
  match data.assets.get? key with
  | some existing =>
      refuse (stableDigest env (stableFields existing) ≠ stableDigest env (stableFields row))
        (.conflict ("learning asset conflict: " ++ key))
      return (existing, false, data)
  | none =>
      return (row, true, { data with
        revision := data.revision + 1
        assets := data.assets.insert key row })

def taintFlags : List String := ["blocked", "secret", "pii", "license_unknown"]

def tainted (row : Asset) : Bool := taintFlags.any fun flag => (row.taint.get flag).truthy

def validationPending (row : Asset) : Bool :=
  (row.provenance.get "imported").truthy &&
    decide (row.provenance.get "target_validation" ≠ .str "passed")

/-- `int(value or default)`. -/
def intOr (value : Json) (default : Int) : Except StoreError Int :=
  if !value.truthy then .ok default
  else
    match value.int? with
    | some number => .ok number
    | none => .error .value

def assertRetainPolicy (row : Asset) : Except StoreError Unit := do
  let policy := (row.activation.get "retain_policy").objectOrEmpty
  let minimum ← intOr (policy.get "min_matched_outcomes") 1
  let maximumNegative ← intOr (policy.get "max_negative_transfer") 0
  let matched := row.outcomes.filter fun item => item.matched
  let negative := matched.filter fun item => item.negativeTransfer
  refuse ((matched.length : Int) < minimum)
    (.conflict "canary retain policy lacks matched longitudinal outcomes")
  refuse (maximumNegative < (negative.length : Int))
    (.conflict "canary retain policy exceeded negative-transfer allowance")

def assertDependency (data : Registry) (dependency : Json) : Except StoreError Unit := do
  refuse (!dependency.isObject) (.conflict "learning asset dependency is malformed")
  let key ← assetKey (dependency.textAt "asset_id") (← intOr (dependency.get "version") 0)
  refuse ((data.assets.get? key).map Asset.state ≠ some .activeRetained)
    (.conflict ("learning asset dependency is inactive: " ++ key))

def assertActivationEligible (data : Registry) (row : Asset) (target : AssetState) :
    Except StoreError Unit := do
  refuse (tainted row) (.conflict "tainted learning asset cannot be activated")
  refuse (validationPending row) (.conflict "imported learning asset requires target validation")
  refuse (target = .canaryActive ∧ !(row.activation.get "canary_scope_ref").truthy)
    (.conflict "canary activation requires canary_scope_ref")
  if target = .activeRetained then assertRetainPolicy row
  row.dependencies.forM (assertDependency data)

structure Transition where
  assetId : String
  version : Int
  targetState : String
  expectedRevision : Int
  actionId : String
  receiptRef : Json
  updatedAt : String

/-- The key that a pointer names, or the empty text. -/
def pointed (pointers : Dict String String) (assetId : String) : String :=
  (pointers.get? assetId).getD ""

def assertCanarySlot (data : Registry) (row : Asset) (assetId key : String) :
    Except StoreError Unit := do
  refuse (pointed data.activeVersions assetId ≠ row.activation.textAt "expected_active_key")
    (.conflict ("active-version CAS failed for " ++ assetId))
  refuse (pointed data.canaryVersions assetId ≠ "" ∧ pointed data.canaryVersions assetId ≠ key)
    (.conflict ("another canary already owns " ++ assetId))

def assertTransition (data : Registry) (row : Asset) (assetId key : String)
    (target : AssetState) : Except StoreError Unit := do
  if target = .canaryActive ∨ target = .activeRetained then
    assertActivationEligible data row target
  if target = .canaryActive then assertCanarySlot data row assetId key

def Asset.move (row : Asset) (call : Transition) (target : AssetState) (previousKey : String) :
    Asset :=
  { row with
    state := target
    revision := row.revision + 1
    updatedAt := call.updatedAt
    lastReceiptRef := some call.receiptRef
    previousActiveKey := if target = .activeRetained then previousKey else row.previousActiveKey }

def movedActive (data : Registry) (row : Asset) (assetId key : String) (target : AssetState) :
    Dict String String :=
  match target with
  | .activeRetained => data.activeVersions.insert assetId key
  | .revoked =>
      if data.activeVersions.get? assetId = some key then
        if row.previousActiveKey ≠ "" then
          data.activeVersions.insert assetId row.previousActiveKey
        else data.activeVersions.erase assetId
      else data.activeVersions
  | _ => data.activeVersions

def movedCanary (data : Registry) (assetId key : String) (target : AssetState) :
    Dict String String :=
  match target with
  | .activeRetained => data.canaryVersions.erase assetId
  | .canaryActive => data.canaryVersions.insert assetId key
  | .revoked =>
      if data.canaryVersions.get? assetId = some key then data.canaryVersions.erase assetId
      else data.canaryVersions
  | _ => data.canaryVersions

def Registry.move (data : Registry) (call : Transition) (target : AssetState) (key : String)
    (row : Asset) : Registry where
  revision := data.revision + 1
  assets := data.assets.insert key
    (row.move call target (pointed data.activeVersions call.assetId))
  activeVersions := movedActive data row call.assetId key target
  canaryVersions := movedCanary data call.assetId key target
  rejectedFingerprints :=
    if target = .rejected then
      data.rejectedFingerprints.insert row.proposalFingerprint ⟨key, call.receiptRef⟩
    else data.rejectedFingerprints
  actions := data.actions.insert call.actionId
    ⟨key, call.targetState, call.receiptRef, call.updatedAt⟩

/-- An action id that was used before answers with the row it names. -/
def replayed (data : Registry) (prior : Action) (key targetState actionId : String) :
    Except StoreError (Asset × Bool × Registry) :=
  if prior.assetKey ≠ key ∨ prior.targetState ≠ targetState then
    .error (.conflict ("asset action id conflict: " ++ actionId))
  else
    match data.assets.get? key with
    | some row => .ok (row, false, data)
    | none => .error (.missingKey key)

def staleRevision (expected current : Int) : StoreError :=
  .conflict ("stale learning asset revision: expected " ++ toString expected ++ ", current " ++
    toString current)

def transition (data : Registry) (call : Transition) :
    Except StoreError (Asset × Bool × Registry) := do
  let target ← required (AssetState.ofText? call.targetState)
    (.store ("unsupported asset state: " ++ call.targetState))
  let key ← assetKey call.assetId call.version
  match data.actions.get? call.actionId with
  | some prior => replayed data prior key call.targetState call.actionId
  | none =>
      let row ← required (data.assets.get? key) (.store ("learning asset not found: " ++ key))
      refuse (row.revision ≠ call.expectedRevision)
        (staleRevision call.expectedRevision row.revision)
      refuse (target ∉ assetTransitions row.state)
        (.conflict ("unsupported learning asset transition: " ++ row.state.text ++ " -> " ++
          call.targetState))
      assertTransition data row call.assetId key target
      return (row.move call target (pointed data.activeVersions call.assetId), true,
        data.move call target key row)

structure RecordOutcome where
  assetId : String
  version : Int
  usageRef : String
  matched : Bool
  outcome : String
  cost : Json
  cohort : Json
  evaluation : Json
  recordedAt : String

def normalizedCohort (raw : Json) : Json :=
  .obj (["task_family", "repository", "provider", "model", "language"].filterMap fun key =>
    let value := PyString.strip (raw.textAt key)
    if value = "" then none else some (key, .str value))

def Asset.touch (row : Asset) (updatedAt : String) : Asset :=
  { row with
    revision := row.revision + 1
    updatedAt }

def recordOutcome (env : Env) (data : Registry) (call : RecordOutcome) :
    Except StoreError (Asset × Bool × Registry) := do
  refuse (PyString.strip call.usageRef = "") (.store "learning asset outcome requires usage_ref")
  refuse (call.outcome ∉ ["passed", "failed", "regressed", "neutral"])
    (.store ("unsupported learning asset outcome: " ++ call.outcome))
  let key ← assetKey call.assetId call.version
  let outcomeId := stableDigest env
    (.obj [("asset_key", .str key), ("usage_ref", .str call.usageRef)])
  let row ← required (data.assets.get? key) (.store ("learning asset not found: " ++ key))
  refuse (row.state ≠ .canaryActive ∧ row.state ≠ .activeRetained)
    (.conflict "learning asset outcome requires canary or retained activation")
  if row.outcomes.any fun item => item.outcomeId == outcomeId then return (row, false, data)
  else
    let evaluation ← env.normalizedOutcomeEvaluation call.evaluation call.matched
    let item : Outcome := {
      outcomeId
      usageRef := call.usageRef
      matched := call.matched
      outcome := call.outcome
      negativeTransfer := call.matched && (call.outcome == "failed" || call.outcome == "regressed")
      cost := call.cost
      cohort := normalizedCohort call.cohort
      evaluation
      recordedAt := call.recordedAt }
    let recorded := { row.touch call.recordedAt with outcomes := row.outcomes ++ [item] }
    return (recorded, true, { data with
      revision := data.revision + 1
      assets := data.assets.insert key recorded })

structure RecordTargetValidation where
  assetId : String
  version : Int
  expectedRevision : Int
  actionId : String
  passed : Bool
  receiptRef : Json
  updatedAt : String

/-- The provenance with the verdict of the target's own validation. -/
def validatedProvenance (row : Asset) (passed : Bool) (receiptRef : Json) : Json :=
  .obj (Dict.put "target_validation_receipt_ref" receiptRef
    (Dict.put "target_validation" (.str (if passed then "passed" else "failed"))
      row.provenance.fields))

def recordTargetValidation (data : Registry) (call : RecordTargetValidation) :
    Except StoreError (Asset × Bool × Registry) := do
  let key ← assetKey call.assetId call.version
  let targetState := if call.passed then "target_validation_passed" else "target_validation_failed"
  match data.actions.get? call.actionId with
  | some prior => replayed data prior key targetState call.actionId
  | none =>
      let row ← required (data.assets.get? key) (.store ("learning asset not found: " ++ key))
      refuse (row.revision ≠ call.expectedRevision)
        (staleRevision call.expectedRevision row.revision)
      refuse (!(row.provenance.get "imported").truthy)
        (.conflict "target validation applies only to imported learning assets")
      let validated := { row.touch call.updatedAt with
        provenance := validatedProvenance row call.passed call.receiptRef }
      return (validated, true, { data with
        revision := data.revision + 1
        assets := data.assets.insert key validated
        actions := data.actions.insert call.actionId
          ⟨key, targetState, call.receiptRef, call.updatedAt⟩ })

/-- Each list of admitted values, and the field of the context that it restricts. -/
def applicabilityFields : List (String × String) :=
  [("task_families", "task_family"), ("providers", "provider"), ("models", "model"),
    ("languages", "language"), ("repositories", "repository")]

def outside (row : Asset) (context : Json) (field : String × String) : Bool :=
  match row.applicability.get field.1 with
  | .arr [] => false
  | .arr allowed => !((allowed.map Json.pyStr).contains (context.textAt field.2))
  | _ => false

def suppliedScopes (context : Json) : List String :=
  match context.get "canary_scope_refs" with
  | .arr scopes => scopes.map Json.pyStr
  | _ => []

def applicabilityReason (env : Env) (row : Asset) (context : Json) (now : String) : String :=
  if row.state ≠ .canaryActive ∧ row.state ≠ .activeRetained then "inactive"
  else if (row.quality.get "contradiction_refs").truthy then "contradicted"
  else if row.quality.textAt "expires_at" ≠ "" ∧
      isExpired env (row.quality.textAt "expires_at") now = true then "expired"
  else if row.state = .canaryActive ∧ row.activation.textAt "canary_scope_ref" ≠ "" ∧
      row.activation.textAt "canary_scope_ref" ∉ suppliedScopes context then
    "outside_canary_scope"
  else if tainted row then "tainted"
  else if validationPending row then "target_validation_pending"
  else
    match applicabilityFields.find? (outside row context) with
    | some field => "outside_" ++ field.1
    | none => ""

structure Exclusion where
  assetId : String
  version : Int
  state : AssetState
  reason : String

structure Resolution where
  selected : List Asset
  excluded : List Exclusion

/-- The file lists the assets in key order. -/
def resolveAssets (env : Env) (data : Registry) (context : Json) (now : String) : Resolution :=
  let rows := data.assets.sortKeys.values
  { selected := rows.filter fun row => applicabilityReason env row context now == ""
    excluded := (rows.filter fun row => applicabilityReason env row context now != "").map
      fun row => ⟨row.assetId, row.version, row.state, applicabilityReason env row context now⟩ }

inductive Call where
  | propose (call : Propose)
  | transition (call : Transition)
  | recordOutcome (call : RecordOutcome)
  | recordTargetValidation (call : RecordTargetValidation)

def perform (env : Env) (data : Registry) : Call → Except StoreError (Asset × Bool × Registry)
  | .propose call => propose env data call
  | .transition call => transition data call
  | .recordOutcome call => recordOutcome env data call
  | .recordTargetValidation call => recordTargetValidation data call

/-- The registry that a call leaves behind. -/
def step (env : Env) (data : Registry) (call : Call) : Registry :=
  match perform env data call with
  | .ok (_, _, next) => next
  | .error _ => data

def after (env : Env) (calls : List Call) : Registry := Runs.run (step env) Registry.empty calls

end ZaofuFormal.Evolution.CapabilityRegistry
