import ZaofuFormal.Foundation.Digest
import ZaofuFormal.Foundation.History
import ZaofuFormal.Foundation.JsonText
import ZaofuFormal.Foundation.Runs

/-!
# The evolution trial store

One JSON file holds the registered evolution attempts and the rows of their
trials.  Every operation takes the lock of the file, loads it, and replaces it
when a row changes, so a call is one step of the store; a call that raises
leaves the file as it was.  The comparisons that the file also holds are read
and written by no operation on trials.
-/

namespace ZaofuFormal.Evolution.TrialStore

open Foundation

inductive TrialStatus where
  | prepared
  | running
  | failed
  | settled
  | deadLetter
  deriving DecidableEq

def trialArms : List String := ["control", "baseline", "candidate"]

def trialOutcomes : List String := ["passed", "semantic_failed", "infrastructure_failed"]

structure Attempt where
  attemptId : String
  artifactRef : List (String × Json)
  idempotencyKey : String
  maxTrialAttempts : Int
  status : String
  createdAt : String
  updatedAt : String
  deriving DecidableEq

structure Trial where
  trialId : String
  attemptId : String
  arm : String
  replicate : Int
  attemptNumber : Nat := 0
  status : TrialStatus := .prepared
  leaseOwner : String := ""
  leaseExpiresAt : String := ""
  startedAt : String := ""
  settledAt : String := ""
  acceptedSettlementId : String := ""
  settlementRef : List (String × Json) := []
  archiveRef : String := ""
  archiveDigest : String := ""
  costReceiptRefs : List String := []
  retryable : Option Bool := none
  failureClass : String := ""
  createdAt : String
  updatedAt : String
  outcome : Option String := none
  deriving DecidableEq

/-- The contents of the store file; a missing file reads as the empty one. -/
structure StoreData where
  revision : Nat
  attempts : Dict String Attempt
  trials : Dict String Trial

def StoreData.empty : StoreData := ⟨0, Dict.empty, Dict.empty⟩

inductive StoreError where
  | store (message : String)
  | conflict (message : String)
  | missingKey (key : String)
  deriving DecidableEq

/-- What the store takes from its surroundings: the hexadecimal SHA-256 of a
text, and the instant that an ISO text names, in UTC when it names no zone. -/
structure Env where
  sha256 : List Char → List Char
  fromIsoFormat : String → Option Int

def stableDigest (env : Env) (value : Json) : List Char :=
  env.sha256 (JsonText.dumps value ++ [Char.ofNat 10])

def isExpired (env : Env) (expiresAt now : String) : Bool :=
  match env.fromIsoFormat expiresAt, env.fromIsoFormat now with
  | some expiry, some current => expiry ≤ current
  | _, _ => true

def StoreData.saveTrial (data : StoreData) (trialId : String) (row : Trial) : StoreData :=
  { data with revision := data.revision + 1, trials := data.trials.insert trialId row }

/-- A manifest reaches the store only after its validation, which refuses a
number of trial attempts that is not positive. -/
structure RegisterAttempt where
  attemptId : String
  artifactRef : List (String × Json)
  idempotencyKey : String
  maxTrialAttempts : Int
  createdAt : String
  positive : 0 < maxTrialAttempts

def attemptIdentity (artifactRef : List (String × Json)) (idempotencyKey : String)
    (maxTrialAttempts : Int) : Json :=
  .obj [("artifact_ref", .obj artifactRef), ("idempotency_key", .str idempotencyKey),
    ("max_trial_attempts", .int maxTrialAttempts)]

def registerAttempt (env : Env) (data : StoreData) (call : RegisterAttempt) :
    Except StoreError (Attempt × Bool) × StoreData :=
  match data.attempts.get? call.attemptId with
  | some existing =>
      if stableDigest env (attemptIdentity existing.artifactRef existing.idempotencyKey
          existing.maxTrialAttempts) ≠ stableDigest env (attemptIdentity call.artifactRef
          call.idempotencyKey call.maxTrialAttempts) then
        (.error (.conflict ("evolution attempt identity conflict: " ++ call.attemptId)), data)
      else (.ok (existing, false), data)
  | none =>
      let row : Attempt := ⟨call.attemptId, call.artifactRef, call.idempotencyKey,
        call.maxTrialAttempts, "materialized", call.createdAt, call.createdAt⟩
      (.ok (row, true), { data with
        revision := data.revision + 1
        attempts := data.attempts.insert call.attemptId row })

structure EnsureTrial where
  attemptId : String
  arm : String
  replicate : Int
  createdAt : String

def trialId (env : Env) (attemptId arm : String) (replicate : Int) : String :=
  "evotrial-" ++ String.ofList ((stableDigest env (.obj [("attempt_id", .str attemptId),
    ("arm", .str arm), ("replicate", .int replicate)])).take 20)

def ensureTrial (env : Env) (data : StoreData) (call : EnsureTrial) :
    Except StoreError (Trial × Bool) × StoreData :=
  if call.arm ∉ trialArms then
    (.error (.store "trial arm must be control, baseline, or candidate"), data)
  else if call.replicate < 1 then (.error (.store "trial replicate must be positive"), data)
  else
    let key := trialId env call.attemptId call.arm call.replicate
    if data.attempts.get? call.attemptId = none then
      (.error (.store ("evolution attempt not found: " ++ call.attemptId)), data)
    else
      match data.trials.get? key with
      | some existing => (.ok (existing, false), data)
      | none =>
          let row : Trial := {
            trialId := key
            attemptId := call.attemptId
            arm := call.arm
            replicate := call.replicate
            createdAt := call.createdAt
            updatedAt := call.createdAt }
          (.ok (row, true), data.saveTrial key row)

structure ClaimTrial where
  trialId : String
  leaseOwner : String
  now : String
  leaseExpiresAt : String

def Trial.exhaust (row : Trial) (now : String) : Trial :=
  { row with
    status := .deadLetter
    failureClass := "trial_attempt_budget_exhausted"
    retryable := some false
    updatedAt := now }

def Trial.claim (row : Trial) (call : ClaimTrial) : Trial :=
  { row with
    status := .running
    attemptNumber := row.attemptNumber + 1
    leaseOwner := call.leaseOwner
    leaseExpiresAt := call.leaseExpiresAt
    startedAt := call.now
    updatedAt := call.now
    retryable := none
    failureClass := "" }

def claimTrial (env : Env) (data : StoreData) (call : ClaimTrial) :
    Except StoreError (Trial × Bool) × StoreData :=
  if call.leaseOwner = "" then (.error (.store "trial lease_owner is required"), data)
  else
    match data.trials.get? call.trialId with
    | none => (.error (.store ("evolution trial not found: " ++ call.trialId)), data)
    | some row =>
        if row.status = .settled ∨ row.status = .deadLetter then (.ok (row, false), data)
        else if row.status = .running ∧ isExpired env row.leaseExpiresAt call.now = false then
          (.ok (row, false), data)
        else
          match data.attempts.get? row.attemptId with
          | none => (.error (.missingKey row.attemptId), data)
          | some parent =>
              if parent.maxTrialAttempts < row.attemptNumber + 1 then
                (.ok (row.exhaust call.now, false),
                  data.saveTrial call.trialId (row.exhaust call.now))
              else if row.status = .failed ∧ row.retryable ≠ some true then
                (.ok (row, false), data)
              else (.ok (row.claim call, true), data.saveTrial call.trialId (row.claim call))

structure SettleTrial where
  trialId : String
  leaseOwner : String
  attemptNumber : Int
  outcome : String
  settlementRef : List (String × Json)
  archiveRef : String
  archiveDigest : String
  costReceiptRefs : List String
  failureClass : String
  retryable : Option Bool := none
  settledAt : String

/-- What identifies a settlement: neither the worker nor the time is part of it. -/
def SettleTrial.identity (call : SettleTrial) : Json :=
  .obj [("trial_id", .str call.trialId), ("attempt_number", .int call.attemptNumber),
    ("outcome", .str call.outcome), ("settlement_ref", .obj call.settlementRef),
    ("archive_ref", .str call.archiveRef), ("archive_digest", .str call.archiveDigest),
    ("cost_receipt_refs", .arr (call.costReceiptRefs.map .str)),
    ("failure_class", .str call.failureClass),
    ("retryable", (call.retryable.map Json.bool).getD .null)]

def settlementId (env : Env) (call : SettleTrial) : String :=
  "evoset-" ++ String.ofList ((stableDigest env call.identity).take 20)

inductive Verdict where
  | duplicate
  | stale
  | deadLetter
  | retryable
  | accepted
  deriving DecidableEq

def infrastructureFailure (failureClass : String) : String :=
  if failureClass = "" then "infrastructure_failure" else failureClass

def Trial.settleDead (env : Env) (row : Trial) (call : SettleTrial) : Trial :=
  { row with
    status := .deadLetter
    outcome := some call.outcome
    acceptedSettlementId := settlementId env call
    settlementRef := call.settlementRef
    archiveRef := call.archiveRef
    archiveDigest := call.archiveDigest
    costReceiptRefs := call.costReceiptRefs
    failureClass := infrastructureFailure call.failureClass
    retryable := some false
    leaseOwner := ""
    leaseExpiresAt := ""
    settledAt := call.settledAt
    updatedAt := call.settledAt }

def Trial.reopen (row : Trial) (call : SettleTrial) : Trial :=
  { row with
    status := .failed
    retryable := some true
    failureClass := infrastructureFailure call.failureClass
    leaseOwner := ""
    leaseExpiresAt := ""
    updatedAt := call.settledAt }

def Trial.settle (env : Env) (row : Trial) (call : SettleTrial) : Trial :=
  { row with
    status := .settled
    outcome := some call.outcome
    acceptedSettlementId := settlementId env call
    settlementRef := call.settlementRef
    archiveRef := call.archiveRef
    archiveDigest := call.archiveDigest
    costReceiptRefs := call.costReceiptRefs
    failureClass := call.failureClass
    retryable := some false
    settledAt := call.settledAt
    updatedAt := call.settledAt }

/-- The worker holds the lease of the attempt that the row is running. -/
def Trial.LeasedTo (row : Trial) (call : SettleTrial) : Prop :=
  row.status = .running ∧ row.leaseOwner = call.leaseOwner ∧
    (row.attemptNumber : Int) = call.attemptNumber

instance (row : Trial) (call : SettleTrial) : Decidable (row.LeasedTo call) :=
  inferInstanceAs (Decidable (_ ∧ _))

def settleTrial (env : Env) (data : StoreData) (call : SettleTrial) :
    Except StoreError (Trial × Verdict) × StoreData :=
  if call.outcome ∉ trialOutcomes then
    (.error (.store ("unsupported trial outcome: " ++ call.outcome)), data)
  else
    match data.trials.get? call.trialId with
    | none => (.error (.store ("evolution trial not found: " ++ call.trialId)), data)
    | some row =>
        if row.acceptedSettlementId ≠ "" then
          (.ok (row, if row.acceptedSettlementId = settlementId env call then .duplicate
            else .stale), data)
        else if ¬row.LeasedTo call then (.ok (row, .stale), data)
        else if call.outcome = "infrastructure_failed" then
          if call.retryable = some false then
            (.ok (row.settleDead env call, .deadLetter),
              data.saveTrial call.trialId (row.settleDead env call))
          else
            (.ok (row.reopen call, .retryable), data.saveTrial call.trialId (row.reopen call))
        else
          (.ok (row.settle env call, .accepted),
            data.saveTrial call.trialId (row.settle env call))

inductive Call where
  | register (call : RegisterAttempt)
  | ensure (call : EnsureTrial)
  | claim (call : ClaimTrial)
  | settle (call : SettleTrial)

inductive Answer where
  | raised (error : StoreError)
  | registered (row : Attempt) (created : Bool)
  | ensured (row : Trial) (created : Bool)
  | claimed (row : Trial) (granted : Bool)
  | settled (row : Trial) (verdict : Verdict)

/-- The answer of a call that returned or raised. -/
def Answer.of {α β : Type} (answer : α → β → Answer) : Except StoreError (α × β) → Answer
  | .error error => .raised error
  | .ok (row, flag) => answer row flag

def perform (env : Env) (data : StoreData) : Call → Answer × StoreData
  | .register call => ((registerAttempt env data call).map (.of .registered) id)
  | .ensure call => ((ensureTrial env data call).map (.of .ensured) id)
  | .claim call => ((claimTrial env data call).map (.of .claimed) id)
  | .settle call => ((settleTrial env data call).map (.of .settled) id)

/-- The store after a sequence of calls on a fresh file. -/
def after (env : Env) (calls : List Call) : StoreData :=
  Runs.run (fun data call => (perform env data call).2) StoreData.empty calls

def answerTo (env : Env) (before : List Call) (call : Call) : Answer :=
  (perform env (after env before) call).1

def trialAfter (env : Env) (calls : List Call) (trialId : String) : Option Trial :=
  (after env calls).trials.get? trialId

/-- Each call with its answer, in order. -/
def history (env : Env) : StoreData → List Call → List (Call × Answer)
  | _, [] => []
  | data, call :: rest =>
      (call, (perform env data call).1) :: history env (perform env data call).2 rest

end ZaofuFormal.Evolution.TrialStore
