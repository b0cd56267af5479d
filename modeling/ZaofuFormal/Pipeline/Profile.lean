import ZaofuFormal.Foundation.Fallible
import ZaofuFormal.Workflow.Redrive

/-!
# Task pipeline profiles

The compiler of the immutable task pipeline policy.  It reads an untyped
mapping, renames the camel-case spellings of its keys, rejects unknown and
conflicting fields and bounds every number.  The flow kind decides which
profile id is accepted.
-/

namespace ZaofuFormal.Pipeline

open Foundation
open Workflow (FloatValue FloatError)

structure WorkerProfile where
  name : String
  role : String
  skills : List String := []
  capabilities : List String := []
  deriving DecidableEq

structure Pool where
  capacity : Int := 0
  roleInstances : List String := []
  skills : List String := []
  capabilities : List String := []
  workerProfiles : List WorkerProfile := []
  deriving DecidableEq

structure Backpressure where
  maxUnverifiedTasks : Int := 0
  maxIntegrationQueue : Int := 0
  deriving DecidableEq

structure WorkerLifecycle where
  mode : String := "on_demand"
  idleSeconds : Int := 120
  deriving DecidableEq

structure Affinity where
  implRework : String := "prefer_previous_session"
  verifyIndependence : String := "different_role"
  sessionBinding : String := "task_stage"
  crossTaskContext : String := "fresh"
  deriving DecidableEq

structure RiskReview where
  enabled : Bool := false
  forRisks : List String := []
  timeoutSeconds : Int := 180
  maxTurns : Int := 1
  budgetUsd : FloatValue := .finite 1
  fallback : String := "fail_closed"
  deriving DecidableEq

structure IntegrationAdmission where
  default : String := "verify_admitted"
  riskReview : RiskReview := {}
  deriving DecidableEq

structure Candidate where
  integration : String := "incremental_serial_cas"
  integrationCapacity : Int := 1
  rollingSmoke : String := "required"
  incrementalEvent : String := "integration.queue.integrated"
  freezeEvent : String := "candidate.ready"
  deliveryEvent : String := "run.delivery.completed"
  partialCandidateAutoShip : String := "forbidden"
  finalVerifyTarget : String := "frozen_exact_commit"
  deriving DecidableEq

/-- A frozen policy; the defaults are the values that a missing field reads as. -/
structure Policy where
  profileId : String := ""
  flowKind : String := ""
  mode : String := "shadow"
  maxActiveTaskPipelines : Int := 0
  maxReworkAttempts : Int := 0
  pools : Dict String Pool := ∅
  integrationAdmission : IntegrationAdmission := {}
  backpressure : Backpressure := {}
  workerLifecycle : WorkerLifecycle := {}
  affinity : Affinity := {}
  candidate : Candidate := {}
  profileDigest : String := ""
  deriving DecidableEq

/-- `TaskPipelineProfileError`, or the `OverflowError` of a number that is too large. -/
inductive ProfileError where
  | profile (message : String)
  | overflow
  deriving DecidableEq

def mapping (raw : Json) (context : String) : Except ProfileError (Dict String Json) :=
  match raw with
  | .obj fields => .ok (Dict.ofEntries fields)
  | _ => .error (.profile (context ++ " must be a mapping"))

/-- One field of a mapping under its canonical name. -/
def normalizeField (aliases : List (String × String)) (allowed : List String) (context : String)
    (normalized : Dict String Json) (field : String × Json) :
    Except ProfileError (Dict String Json) :=
  let key := (Dict.find field.1 aliases).getD field.1
  if key ∉ allowed then
    .error (.profile (context ++ ": unknown field " ++ Json.reprString field.1))
  else
    match normalized.get? key with
    | some earlier =>
        if Json.equal earlier field.2 then .ok (normalized.insert key field.2)
        else .error (.profile (context ++ ": conflicting field " ++ Json.reprString key))
    | none => .ok (normalized.insert key field.2)

def normalizeMapping (raw : Json) (aliases : List (String × String)) (allowed : List String)
    (context : String) : Except ProfileError (Dict String Json) := do
  let values ← mapping raw context
  values.entries.foldlM (normalizeField aliases allowed context) Dict.empty

/-- `values.get(key)`. -/
def field (values : Dict String Json) (key : String) : Json := (values.get? key).getD .null

/-- `values.get(key, default)`. -/
def fieldOr (values : Dict String Json) (key : String) (default : Json) : Json :=
  (values.get? key).getD default

/-- `str(values.get(key) or default)`. -/
def textOr (values : Dict String Json) (key default : String) : String :=
  if (field values key).truthy then (field values key).pyStr else default

/-- `list(dict.fromkeys(items))`. -/
def fromKeys (items : List String) : List String :=
  (Dict.ofEntries (items.map fun item => (item, ()))).keys

@[simp] theorem mem_fromKeys (items : List String) (item : String) :
    item ∈ fromKeys items ↔ item ∈ items := by
  rw [fromKeys, Dict.ofEntries, Dict.mem_keys_insertAll]
  simp [Dict.keys, Dict.empty]

def stringList (raw : Json) (context : String) : Except ProfileError (List String) :=
  match raw with
  | .null => .ok []
  | .arr items => .ok (fromKeys
      ((items.map fun item => PyString.strip item.pyStr).filter fun text => text ≠ ""))
  | _ => .error (.profile (context ++ " must be a list"))

def betweenMessage (context : String) (minimum maximum : String) : String :=
  context ++ " must be between " ++ minimum ++ " and " ++ maximum

def boundedInt (value : Json) (minimum maximum : Int) (context : String) :
    Except ProfileError Int :=
  match value.int? with
  | none => .error (.profile (context ++ " must be an integer"))
  | some parsed =>
      if minimum ≤ parsed ∧ parsed ≤ maximum then .ok parsed
      else .error (.profile (betweenMessage context (toString minimum) (toString maximum)))

/-- The bounds of a float are given with the text that the message prints. -/
def boundedFloat (toFloat : Json → Except FloatError FloatValue) (value : Json)
    (minimum maximum : FloatValue × String) (context : String) :
    Except ProfileError FloatValue :=
  match toFloat value with
  | .error .conversion => .error (.profile (context ++ " must be numeric"))
  | .error .overflow => .error .overflow
  | .ok parsed =>
      if minimum.1.le parsed && parsed.le maximum.1 then .ok parsed
      else .error (.profile (betweenMessage context minimum.2 maximum.2))

/-- A field that only one value may have. -/
def required (context key actual expected : String) : Except ProfileError Unit :=
  if actual = expected then .ok ()
  else .error (.profile (context ++ "." ++ key ++ " must be " ++ Json.reprString expected))

/-- What the compiler takes from its surroundings: number parsing and the
digest of the compiled policy. -/
structure ProfileEnv where
  toFloat : Json → Except FloatError FloatValue
  policyDigest : Policy → String

def compileWorkerProfile (context : String) (item : Json) : Except ProfileError WorkerProfile := do
  let profile ← normalizeMapping item [] ["name", "role", "skills", "capabilities"] context
  let name := PyString.strip (field profile "name").text
  let role := PyString.strip (field profile "role").text
  if name = "" ∨ role = "" then
    .error (.profile (context ++ " requires name and role"))
  else
    let skills ← stringList (field profile "skills") (context ++ ".skills")
    let capabilities ← stringList (field profile "capabilities") (context ++ ".capabilities")
    .ok { name, role, skills, capabilities }

/-- `values.get("worker_profiles") or []`, compiled item by item. -/
def compileWorkerProfiles (context : String) (raw : Json) :
    Except ProfileError (List WorkerProfile) :=
  if !raw.truthy then .ok []
  else
    match raw with
    | .arr items => items.zipIdx.mapM fun item => compileWorkerProfile
        (context ++ ".workerProfiles[" ++ toString item.2 ++ "]") item.1
    | _ => .error (.profile (context ++ ".workerProfiles must be a list"))

def poolAliases : List (String × String) :=
  [("workerProfiles", "worker_profiles"), ("roleInstances", "role_instances")]

def poolKeys : List String :=
  ["capacity", "role", "role_instances", "skills", "capabilities", "worker_profiles"]

/-- The roles of a pool: its instances, its role, those of its workers and the defaults. -/
def poolRoles (instances : List String) (role : String) (workers : List WorkerProfile)
    (defaultRoles : List String) : List String :=
  fromKeys (instances ++ (if role = "" then [] else [role]) ++ workers.map WorkerProfile.role ++
    defaultRoles)

def compilePool (raw : Json) (context : String) (defaultRoles : List String) :
    Except ProfileError Pool := do
  let values ← normalizeMapping raw poolAliases poolKeys context
  let capacity ← boundedInt (fieldOr values "capacity" (.int 0)) 1 16 (context ++ ".capacity")
  let instances ← stringList (field values "role_instances") (context ++ ".roleInstances")
  let role := PyString.strip (field values "role").text
  let workerProfiles ← compileWorkerProfiles context (field values "worker_profiles")
  let roles := poolRoles instances role workerProfiles defaultRoles
  if roles = [] then
    .error (.profile (context ++ " requires a role or worker profile"))
  else if (roles.length : Int) < capacity then
    .error (.profile (context ++ ".capacity exceeds predeclared role instances"))
  else
    let skills ← stringList (field values "skills") (context ++ ".skills")
    let capabilities ← stringList (field values "capabilities") (context ++ ".capabilities")
    .ok { capacity, roleInstances := roles, skills, capabilities, workerProfiles }

def compileBackpressure (raw : Json) (profileId : String) : Except ProfileError Backpressure := do
  let context := profileId ++ ".backpressure"
  let values ← normalizeMapping raw
    [("maxUnverifiedTasks", "max_unverified_tasks"),
      ("maxIntegrationQueue", "max_integration_queue")]
    ["max_unverified_tasks", "max_integration_queue"] context
  let maxUnverifiedTasks ← boundedInt (fieldOr values "max_unverified_tasks" (.int 0)) 1 64
    (context ++ ".maxUnverifiedTasks")
  let maxIntegrationQueue ← boundedInt (fieldOr values "max_integration_queue" (.int 0)) 1 32
    (context ++ ".maxIntegrationQueue")
  .ok { maxUnverifiedTasks, maxIntegrationQueue }

def compileWorkerLifecycle (raw : Json) (profileId : String) :
    Except ProfileError WorkerLifecycle := do
  let context := profileId ++ ".workerLifecycle"
  let values ← normalizeMapping raw [("idleSeconds", "idle_seconds")] ["mode", "idle_seconds"]
    context
  let mode := PyString.strip (textOr values "mode" "on_demand")
  if mode ≠ "on_demand" then .error (.profile (context ++ ".mode must be on_demand"))
  else
    let idleSeconds ← boundedInt (fieldOr values "idle_seconds" (.int 120)) 10 86400
      (context ++ ".idleSeconds")
    .ok { mode, idleSeconds }

def compileAffinity (raw : Json) (profileId : String) : Except ProfileError Affinity := do
  let context := profileId ++ ".affinity"
  let values ← normalizeMapping raw
    [("implRework", "impl_rework"), ("verifyIndependence", "verify_independence"),
      ("sessionBinding", "session_binding"), ("crossTaskContext", "cross_task_context")]
    ["impl_rework", "verify_independence", "session_binding", "cross_task_context"] context
  let expected : Affinity := {}
  let result : Affinity :=
    { implRework := textOr values "impl_rework" expected.implRework
      verifyIndependence := textOr values "verify_independence" expected.verifyIndependence
      sessionBinding := textOr values "session_binding" expected.sessionBinding
      crossTaskContext := textOr values "cross_task_context" expected.crossTaskContext }
  required context "impl_rework" result.implRework expected.implRework
  required context "verify_independence" result.verifyIndependence expected.verifyIndependence
  required context "session_binding" result.sessionBinding expected.sessionBinding
  required context "cross_task_context" result.crossTaskContext expected.crossTaskContext
  .ok result

/-- `values.get(key) or default`. -/
def valueOr (values : Dict String Json) (key : String) (default : Json) : Json :=
  if (field values key).truthy then field values key else default

def compileRiskReview (env : ProfileEnv) (risk : Dict String Json) (context : String) :
    Except ProfileError RiskReview := do
  let context := context ++ ".riskReview"
  let enabled ← match fieldOr risk "enabled" (.bool false) with
    | .bool enabled => Except.ok enabled
    | _ => Except.error (ProfileError.profile (context ++ ".enabled must be a boolean"))
  let forRisks ← stringList (valueOr risk "for_risks" (.arr [.str "high", .str "critical"]))
    (context ++ ".forRisks")
  if forRisks = [] ∨ ∃ risk ∈ forRisks, risk ∉ ["high", "critical"] then
    .error (.profile (context ++ ".forRisks only admits high/critical"))
  else
    let timeoutSeconds ← boundedInt (fieldOr risk "timeout_seconds" (.int 180)) 1 3600
      (context ++ ".timeoutSeconds")
    let maxTurns ← boundedInt (fieldOr risk "max_turns" (.int 1)) 1 1 (context ++ ".maxTurns")
    let budgetUsd ← boundedFloat env.toFloat (fieldOr risk "budget_usd" (.float 1 "1.0"))
      (.finite (1 / 100), "0.01") (.finite 100, "100.0") (context ++ ".budgetUsd")
    let fallback := PyString.strip (textOr risk "fallback" "fail_closed")
    if fallback ≠ "fail_closed" then
      .error (.profile (context ++ ".fallback must be fail_closed"))
    else .ok { enabled, forRisks, timeoutSeconds, maxTurns, budgetUsd, fallback }

def compileIntegrationAdmission (env : ProfileEnv) (raw : Json) (profileId : String) :
    Except ProfileError IntegrationAdmission := do
  let context := profileId ++ ".integrationAdmission"
  let values ← normalizeMapping raw [("riskReview", "risk_review")] ["default", "risk_review"]
    context
  let default := PyString.strip (textOr values "default" "verify_admitted")
  if default ∉ ["verify_admitted", "risk_review"] then
    .error (.profile (context ++ ".default is unknown: " ++ Json.reprString default))
  else
    let risk ← normalizeMapping (valueOr values "risk_review" (.obj []))
      [("forRisks", "for_risks"), ("timeoutSeconds", "timeout_seconds"),
        ("maxTurns", "max_turns"), ("budgetUsd", "budget_usd")]
      ["enabled", "for_risks", "timeout_seconds", "max_turns", "budget_usd", "fallback"]
      (context ++ ".riskReview")
    let riskReview ← compileRiskReview env risk context
    if default = "risk_review" ∧ riskReview.enabled = false then
      .error (.profile (context ++ ".default risk_review requires riskReview.enabled"))
    else .ok { default, riskReview }

def candidateAliases : List (String × String) :=
  [("integrationCapacity", "integration_capacity"), ("rollingSmoke", "rolling_smoke"),
    ("incrementalEvent", "incremental_event"), ("freezeEvent", "freeze_event"),
    ("deliveryEvent", "delivery_event"),
    ("partialCandidateAutoShip", "partial_candidate_auto_ship"),
    ("finalVerifyTarget", "final_verify_target")]

def candidateKeys : List String :=
  ["integration", "integration_capacity", "rolling_smoke", "incremental_event", "freeze_event",
    "delivery_event", "partial_candidate_auto_ship", "final_verify_target"]

def compileCandidate (raw : Json) (profileId : String) : Except ProfileError Candidate := do
  let context := profileId ++ ".candidate"
  let values ← normalizeMapping raw candidateAliases candidateKeys context
  let expected : Candidate := {}
  let integrationCapacity ← boundedInt (fieldOr values "integration_capacity" (.int 1)) 1 1
    (context ++ ".integrationCapacity")
  let result : Candidate :=
    { integration := textOr values "integration" expected.integration
      integrationCapacity
      rollingSmoke := textOr values "rolling_smoke" expected.rollingSmoke
      incrementalEvent := textOr values "incremental_event" expected.incrementalEvent
      freezeEvent := textOr values "freeze_event" expected.freezeEvent
      deliveryEvent := textOr values "delivery_event" expected.deliveryEvent
      partialCandidateAutoShip :=
        textOr values "partial_candidate_auto_ship" expected.partialCandidateAutoShip
      finalVerifyTarget := textOr values "final_verify_target" expected.finalVerifyTarget }
  required context "integration" result.integration expected.integration
  required context "rolling_smoke" result.rollingSmoke expected.rollingSmoke
  required context "partial_candidate_auto_ship" result.partialCandidateAutoShip
    expected.partialCandidateAutoShip
  required context "final_verify_target" result.finalVerifyTarget expected.finalVerifyTarget
  let events := [result.incrementalEvent, result.freezeEvent, result.deliveryEvent]
  if "" ∈ events ∨ ¬ events.Nodup then
    .error (.profile (context ++
      ": incremental/freeze/delivery events must be non-empty and distinct"))
  else .ok result

def taskPipelineProfileIds : List (String × String) :=
  [("issue", "issue-flow-v4-task-pipeline"), ("prd", "prd-flow-v4-task-pipeline"),
    ("refactor", "refactor-flow-v4-task-pipeline")]

def topLevelAliases : List (String × String) :=
  [("maxActiveTaskPipelines", "max_active_task_pipelines"),
    ("maxReworkAttempts", "max_rework_attempts"),
    ("integrationAdmission", "integration_admission"), ("workerLifecycle", "worker_lifecycle")]

def topLevelKeys : List String :=
  ["mode", "max_active_task_pipelines", "max_rework_attempts", "pools", "integration_admission",
    "backpressure", "worker_lifecycle", "affinity", "candidate"]

/-- `sorted(set(names) - known)`, printed as a list. -/
def unknownNames (names known : List String) : List Json :=
  ((names.filter fun name => name ∉ known).insertionSort fun first second => first ≤ second).map
    Json.str

def reviewSkill : String := "zf-integration-acceptance-review"

/-- An enabled risk review needs a pool, and in it the review skill. -/
def checkRiskReview (profileId : String) (pools : Dict String Pool)
    (admission : IntegrationAdmission) : Except ProfileError Unit :=
  if admission.riskReview.enabled = false then .ok ()
  else
    match pools.get? "acceptance_review" with
    | none => .error (.profile
        (profileId ++ ": enabled risk_review requires acceptance_review pool"))
    | some pool =>
        if reviewSkill ∈ pool.skills ++ pool.workerProfiles.flatMap WorkerProfile.skills then .ok ()
        else .error (.profile
          (profileId ++ ": enabled risk_review requires zf-integration-acceptance-review skill"))

/-- The raw value of a pool that must be there. -/
def requiredPool (profileId : String) (pools : Dict String Json) (name : String) :
    Except ProfileError Json :=
  match pools.get? name with
  | some raw => .ok raw
  | none => .error (.profile (profileId ++ ".pools." ++ name ++ " is required"))

def compilePools (raw : Json) (profileId : String) (defaultImplRoles defaultVerifyRoles :
    List String) : Except ProfileError (Dict String Pool) := do
  let poolsRaw ← mapping raw (profileId ++ ".pools")
  let unknown := unknownNames poolsRaw.keys ["impl", "verify", "acceptance_review"]
  if unknown ≠ [] then
    .error (.profile (profileId ++ ".pools: unknown pool(s) " ++ (Json.arr unknown).repr))
  else
    let implRaw ← requiredPool profileId poolsRaw "impl"
    let verifyRaw ← requiredPool profileId poolsRaw "verify"
    let impl ← compilePool implRaw (profileId ++ ".pools.impl") defaultImplRoles
    let verify ← compilePool verifyRaw (profileId ++ ".pools.verify") defaultVerifyRoles
    let pools := Dict.ofEntries [("impl", impl), ("verify", verify)]
    match poolsRaw.get? "acceptance_review" with
    | none => .ok pools
    | some reviewRaw =>
        let review ← compilePool reviewRaw (profileId ++ ".pools.acceptance_review") []
        .ok (pools.insert "acceptance_review" review)

/-- The policy of a selected profile. -/
def compileSelected (env : ProfileEnv) (flowKind profileId : String) (raw : Json)
    (defaultImplRoles defaultVerifyRoles : List String) : Except ProfileError Policy := do
  let values ← normalizeMapping raw topLevelAliases topLevelKeys (profileId ++ ".taskPipeline")
  let mode := PyString.lowerAscii (PyString.strip (textOr values "mode" "shadow"))
  if mode ∉ ["shadow", "blocking"] then
    .error (.profile (profileId ++ ".taskPipeline.mode must be shadow or blocking"))
  else
    let maxActiveTaskPipelines ← boundedInt (fieldOr values "max_active_task_pipelines" (.int 0))
      1 32 (profileId ++ ".maxActiveTaskPipelines")
    let pools ← compilePools (field values "pools") profileId defaultImplRoles defaultVerifyRoles
    let backpressure ← compileBackpressure (field values "backpressure") profileId
    let workerLifecycle ← compileWorkerLifecycle (field values "worker_lifecycle") profileId
    let affinity ← compileAffinity (field values "affinity") profileId
    let integrationAdmission ← compileIntegrationAdmission env
      (field values "integration_admission") profileId
    let candidate ← compileCandidate (field values "candidate") profileId
    checkRiskReview profileId pools integrationAdmission
    let maxReworkAttempts ← boundedInt (fieldOr values "max_rework_attempts" (.int 2)) 0 8
      (profileId ++ ".maxReworkAttempts")
    let policy : Policy :=
      { profileId, flowKind, mode, maxActiveTaskPipelines, maxReworkAttempts, pools
        integrationAdmission, backpressure, workerLifecycle, affinity, candidate }
    .ok { policy with profileDigest := env.policyDigest policy }

/-- A missing profile without raw values selects no task pipeline. -/
def compileTaskPipelineProfile (env : ProfileEnv) (flowKind profileId : String)
    (raw : Json) (defaultImplRoles defaultVerifyRoles : List String) :
    Except ProfileError (Option Policy) :=
  let kind := PyString.lowerAscii (PyString.strip flowKind)
  let selected := PyString.strip profileId
  if selected = "" ∧ raw = .null then .ok none
  else
    match Dict.find kind taskPipelineProfileIds with
    | none => .error (.profile
        ("unsupported Task Pipeline flow kind: " ++ Json.reprString kind))
    | some expected =>
        if selected ≠ expected then
          .error (.profile (kind ++ " Task Pipeline profile must be " ++
            Json.reprString expected ++ ", got " ++ Json.reprString selected))
        else
          (compileSelected env kind selected raw defaultImplRoles defaultVerifyRoles).map some

theorem boundedInt_ok {value : Json} {minimum maximum parsed : Int} {context : String}
    (read : boundedInt value minimum maximum context = .ok parsed) :
    minimum ≤ parsed ∧ parsed ≤ maximum := by
  unfold boundedInt at read
  split at read
  · cases read
  · split at read
    · rename_i within
      rw [← Except.ok.inj read]
      exact within
    · cases read

variable {raw : Json} {defaultImplRoles defaultVerifyRoles : List String} {profileId : String}
  {env : ProfileEnv}

theorem compilePool_capacity {context : String} {defaultRoles : List String}
    {pool : Pool} (compiled : compilePool raw context defaultRoles = .ok pool) :
    1 ≤ pool.capacity := by
  unfold compilePool at compiled
  obtain ⟨values, _, compiled⟩ := Fallible.bind_eq_ok compiled
  obtain ⟨capacity, bounded, compiled⟩ := Fallible.bind_eq_ok compiled
  obtain ⟨instances, _, compiled⟩ := Fallible.bind_eq_ok compiled
  obtain ⟨workerProfiles, _, compiled⟩ := Fallible.bind_eq_ok compiled
  dsimp only at compiled
  split at compiled
  · cases compiled
  split at compiled
  · cases compiled
  obtain ⟨skills, _, compiled⟩ := Fallible.bind_eq_ok compiled
  obtain ⟨capabilities, _, compiled⟩ := Fallible.bind_eq_ok compiled
  rw [← Except.ok.inj compiled]
  exact (boundedInt_ok bounded).1

/-- The pools of a compiled policy: the two that every policy has, and each with a capacity. -/
structure CompiledPools (pools : Dict String Pool) : Prop where
  impl : ∃ pool, pools.get? "impl" = some pool
  verify : ∃ pool, pools.get? "verify" = some pool
  capacity : ∀ name pool, pools.get? name = some pool → 1 ≤ pool.capacity

theorem compilePools_ok {pools : Dict String Pool}
    (compiled : compilePools raw profileId defaultImplRoles defaultVerifyRoles = .ok pools) :
    CompiledPools pools := by
  unfold compilePools at compiled
  obtain ⟨poolsRaw, _, compiled⟩ := Fallible.bind_eq_ok compiled
  dsimp only at compiled
  split at compiled
  · cases compiled
  obtain ⟨implRaw, _, compiled⟩ := Fallible.bind_eq_ok compiled
  obtain ⟨verifyRaw, _, compiled⟩ := Fallible.bind_eq_ok compiled
  obtain ⟨impl, implCompiled, compiled⟩ := Fallible.bind_eq_ok compiled
  obtain ⟨verify, verifyCompiled, compiled⟩ := Fallible.bind_eq_ok compiled
  have base : CompiledPools (Dict.ofEntries [("impl", impl), ("verify", verify)]) := by
    have lookup (name : String) : (Dict.ofEntries [("impl", impl), ("verify", verify)]).get? name =
        Dict.find name [("impl", impl), ("verify", verify)] := Dict.get?_ofEntries (by simp) name
    refine ⟨⟨impl, by simp [lookup, Dict.find]⟩, ⟨verify, by simp [lookup, Dict.find]⟩, ?_⟩
    intro name pool found
    rw [lookup] at found
    simp only [Dict.find] at found
    split at found
    · rw [← Option.some.inj found]
      exact compilePool_capacity implCompiled
    · split at found
      · rw [← Option.some.inj found]
        exact compilePool_capacity verifyCompiled
      · cases found
  split at compiled
  · rw [← Except.ok.inj compiled]
    exact base
  · obtain ⟨review, reviewCompiled, compiled⟩ := Fallible.bind_eq_ok compiled
    rw [← Except.ok.inj compiled]
    obtain ⟨implPool, implFound⟩ := base.impl
    obtain ⟨verifyPool, verifyFound⟩ := base.verify
    refine ⟨⟨implPool, ?_⟩, ⟨verifyPool, ?_⟩, ?_⟩
    · rw [Dict.get?_insert_ne _ _ (by decide), implFound]
    · rw [Dict.get?_insert_ne _ _ (by decide), verifyFound]
    · intro name pool found
      rw [Dict.get?_insert] at found
      split at found
      · rw [← Option.some.inj found]
        exact compilePool_capacity reviewCompiled
      · exact base.capacity name pool found

theorem compileRiskReview_ok {risk : Dict String Json} {context : String}
    {review : RiskReview} (compiled : compileRiskReview env risk context = .ok review) :
    review.forRisks ≠ [] ∧ ∀ risk ∈ review.forRisks, risk ∈ ["high", "critical"] := by
  unfold compileRiskReview at compiled
  dsimp only at compiled
  split at compiled
  case h_2 =>
    obtain ⟨_, impossible, _⟩ := Fallible.bind_eq_ok compiled
    cases impossible
  obtain ⟨enabled, _, compiled⟩ := Fallible.bind_eq_ok compiled
  obtain ⟨forRisks, _, compiled⟩ := Fallible.bind_eq_ok compiled
  split at compiled
  · cases compiled
  rename_i known
  obtain ⟨timeoutSeconds, _, compiled⟩ := Fallible.bind_eq_ok compiled
  obtain ⟨maxTurns, _, compiled⟩ := Fallible.bind_eq_ok compiled
  obtain ⟨budgetUsd, _, compiled⟩ := Fallible.bind_eq_ok compiled
  split at compiled
  · cases compiled
  rw [← Except.ok.inj compiled]
  obtain ⟨nonempty, members⟩ := not_or.mp known
  refine ⟨nonempty, fun risk member => ?_⟩
  by_contra outside
  exact members ⟨risk, member, outside⟩

theorem compileIntegrationAdmission_ok {admission : IntegrationAdmission}
    (compiled : compileIntegrationAdmission env raw profileId = .ok admission) :
    admission.riskReview.forRisks ≠ [] ∧
      ∀ risk ∈ admission.riskReview.forRisks, risk ∈ ["high", "critical"] := by
  unfold compileIntegrationAdmission at compiled
  obtain ⟨values, _, compiled⟩ := Fallible.bind_eq_ok compiled
  dsimp only at compiled
  split at compiled
  · cases compiled
  obtain ⟨risk, _, compiled⟩ := Fallible.bind_eq_ok compiled
  obtain ⟨review, reviewCompiled, compiled⟩ := Fallible.bind_eq_ok compiled
  split at compiled
  · cases compiled
  rw [← Except.ok.inj compiled]
  exact compileRiskReview_ok reviewCompiled

theorem checkRiskReview_ok {pools : Dict String Pool}
    {admission : IntegrationAdmission}
    (checked : checkRiskReview profileId pools admission = .ok ())
    (enabled : admission.riskReview.enabled = true) :
    ∃ pool, pools.get? "acceptance_review" = some pool := by
  unfold checkRiskReview at checked
  rw [if_neg (by simp [enabled])] at checked
  cases found : pools.get? "acceptance_review" with
  | none =>
      rw [found] at checked
      cases checked
  | some pool => exact ⟨pool, rfl⟩

/-- What the compiler guarantees about the limits of a policy. -/
structure CompiledPolicy (policy : Policy) : Prop where
  pools : CompiledPools policy.pools
  review : policy.integrationAdmission.riskReview.enabled = true →
    ∃ pool, policy.pools.get? "acceptance_review" = some pool
  someRisk : policy.integrationAdmission.riskReview.forRisks ≠ []
  knownRisks : ∀ risk ∈ policy.integrationAdmission.riskReview.forRisks,
    risk ∈ ["high", "critical"]
  reworks : 0 ≤ policy.maxReworkAttempts

theorem compileSelected_ok {flowKind : String} {policy : Policy}
    (compiled : compileSelected env flowKind profileId raw defaultImplRoles defaultVerifyRoles =
      .ok policy) : CompiledPolicy policy := by
  unfold compileSelected at compiled
  obtain ⟨values, _, compiled⟩ := Fallible.bind_eq_ok compiled
  dsimp only at compiled
  split at compiled
  · cases compiled
  obtain ⟨maxActiveTaskPipelines, _, compiled⟩ := Fallible.bind_eq_ok compiled
  obtain ⟨pools, poolsCompiled, compiled⟩ := Fallible.bind_eq_ok compiled
  obtain ⟨backpressure, _, compiled⟩ := Fallible.bind_eq_ok compiled
  obtain ⟨workerLifecycle, _, compiled⟩ := Fallible.bind_eq_ok compiled
  obtain ⟨affinity, _, compiled⟩ := Fallible.bind_eq_ok compiled
  obtain ⟨admission, admissionCompiled, compiled⟩ := Fallible.bind_eq_ok compiled
  obtain ⟨candidate, _, compiled⟩ := Fallible.bind_eq_ok compiled
  obtain ⟨_, checked, compiled⟩ := Fallible.bind_eq_ok compiled
  obtain ⟨maxReworkAttempts, reworks, compiled⟩ := Fallible.bind_eq_ok compiled
  rw [← Except.ok.inj compiled]
  obtain ⟨someRisk, knownRisks⟩ := compileIntegrationAdmission_ok admissionCompiled
  exact ⟨compilePools_ok poolsCompiled, checkRiskReview_ok checked, someRisk, knownRisks,
    (boundedInt_ok reworks).1⟩

theorem compileTaskPipelineProfile_ok {flowKind : String} {policy : Policy}
    (compiled : compileTaskPipelineProfile env flowKind profileId raw defaultImplRoles
      defaultVerifyRoles = .ok (some policy)) : CompiledPolicy policy := by
  unfold compileTaskPipelineProfile at compiled
  dsimp only at compiled
  split at compiled
  · cases compiled
  split at compiled
  · cases compiled
  split at compiled
  · cases compiled
  cases selected : compileSelected env (PyString.lowerAscii (PyString.strip flowKind))
      (PyString.strip profileId) raw defaultImplRoles defaultVerifyRoles with
  | error error =>
      rw [selected] at compiled
      cases compiled
  | ok result =>
      rw [selected] at compiled
      obtain rfl : result = policy := Option.some.inj (Except.ok.inj compiled)
      exact compileSelected_ok selected

end ZaofuFormal.Pipeline
