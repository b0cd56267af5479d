import ZaofuFormal.Pipeline.Generations

/-!
# Exclusive roles

Each dispatch loop starts with the roles that own an active attempt and knows
nothing of the roles that the loops before it have assigned.  A role instance
is therefore assigned once per stage, and once per plan exactly when the pools
that the plan assigns from share no role instance.  The profile compiler does
not compare the pools.
-/

namespace ZaofuFormal.Pipeline

open Foundation Foundation.Sorting

def DisjointPools (pools : Dict String Pool) (first second : String) : Prop :=
  ∀ left right, pools.get? first = some left → pools.get? second = some right →
    ∀ role ∈ left.roles, role ∉ right.roles

/-- The pools that a plan can assign from share no role instance. -/
def ExclusivePools (policy : Policy) : Prop :=
  DisjointPools policy.pools "impl" "verify" ∧
    (policy.integrationAdmission.riskReview.enabled = true →
      DisjointPools policy.pools "impl" "acceptance_review" ∧
        DisjointPools policy.pools "verify" "acceptance_review")

/-- No role instance receives two assignments in a plan of the policy. -/
def ExclusivePlans (digests : Digests) (policy : Policy) : Prop :=
  ∀ input projection, input.policy = policy → reconcile digests input = .ok projection →
    (projection.assignments.map Assignment.roleInstance).Nodup

/-- The pools from which a plan of the policy can assign. -/
def AssignsFrom (policy : Policy) (name : String) : Prop :=
  name = "verify" ∨ name = "impl" ∨
    name = "acceptance_review" ∧ policy.integrationAdmission.riskReview.enabled = true

variable {first second : String} {digests : Digests}

theorem DisjointPools.symm {pools : Dict String Pool}
    (disjoint : DisjointPools pools first second) : DisjointPools pools second first :=
  fun left right foundLeft foundRight role member other =>
    disjoint right left foundRight foundLeft role other member

theorem ExclusivePools.disjoint {policy : Policy} (exclusive : ExclusivePools policy)
    (fromFirst : AssignsFrom policy first)
    (fromSecond : AssignsFrom policy second) (different : first ≠ second) :
    DisjointPools policy.pools first second := by
  obtain ⟨implVerify, reviewed⟩ := exclusive
  rcases fromFirst with rfl | rfl | ⟨rfl, enabled⟩
  · rcases fromSecond with rfl | rfl | ⟨rfl, enabled⟩
    · exact absurd rfl different
    · exact implVerify.symm
    · exact (reviewed enabled).2
  · rcases fromSecond with rfl | rfl | ⟨rfl, enabled⟩
    · exact implVerify
    · exact absurd rfl different
    · exact (reviewed enabled).1
  · rcases fromSecond with rfl | rfl | ⟨rfl, _⟩
    · exact (reviewed enabled).2.symm
    · exact (reviewed enabled).1.symm
    · exact absurd rfl different

/-- Only a policy with a risk review leads to one. -/
theorem ReadyAt.enabled {mode : EntryMode} {current : CurrentOperations} {policy : Policy}
    {generation : Int}
    (readyAt : ReadyAt mode current policy .acceptanceReviewReady generation) :
    policy.integrationAdmission.riskReview.enabled = true := by
  cases readyAt with
  | reviewVerify _ enabled => exact enabled
  | reviewGate enabled => exact enabled

/-- A role is assigned from the pool of the stage, and only from a pool in use. -/
theorem assigned_from {input : ReconcileInput} {projection : Projection}
    (planned : reconcile digests input = .ok projection) {name : String}
    {assignments : List Assignment}
    (listed : projection.dispatchable.get? name = some assignments) {assignment : Assignment}
    (member : assignment ∈ assignments) :
    AssignsFrom input.policy name ∧ ∃ pool, input.policy.pools.get? name = some pool ∧
      assignment.roleInstance ∈ pool.roles := by
  have assigned : assignment ∈ projection.assignments := by
    rw [Projection.assignments, List.mem_flatten]
    exact ⟨assignments, (Dict.mem_values_iff _ _).mpr ⟨name, listed⟩, member⟩
  obtain ⟨_, _, stage, _, served, readyAt⟩ := assignment_ready planned assigned
  obtain ⟨rows, _, rfl⟩ := reconcile_ok planned
  obtain ⟨pool, found, rfl⟩ := plan_dispatchable digests listed
  obtain ⟨chosen, _, serves, _⟩ :=
    (dispatched_stage (normalize input rows) found (readyStages name)).served
  obtain ⟨candidate, _, served'⟩ := Lists.exists_mem_of_forall₂ serves member
  have sameName : assignment.stage = name := by rw [served'.made]; rfl
  rw [sameName] at served
  refine ⟨?_, pool, found, served'.inPool⟩
  rcases readyStages_cases served with ⟨rfl, _⟩ | ⟨rfl, rfl⟩ | ⟨rfl, _⟩
  · exact Or.inl rfl
  · exact Or.inr (Or.inr ⟨rfl, readyAt.enabled⟩)
  · exact Or.inr (Or.inl rfl)

theorem exclusive_of_disjoint {policy : Policy}
    (exclusive : ExclusivePools policy) : ExclusivePlans digests policy := by
  rintro input projection rfl planned
  have entries (entry : String × List Assignment)
      (listed : entry ∈ projection.dispatchable.entries) :
      projection.dispatchable.get? entry.1 = some entry.2 :=
    (Dict.get?_eq_some_iff _ _ _).mpr listed
  rw [Projection.assignments, Dict.values, List.map_flatten, List.map_map, List.nodup_flatten]
  constructor
  · intro roles member
    obtain ⟨entry, listed, rfl⟩ := List.mem_map.mp member
    obtain ⟨rows, _, rfl⟩ := reconcile_ok planned
    obtain ⟨pool, found, same⟩ := plan_dispatchable digests (entries entry listed)
    rw [Function.comp_apply, ← same]
    exact (dispatched_stage (normalize input rows) found (readyStages entry.1)).distinctRoles
  · rw [List.pairwise_map]
    have distinct : projection.dispatchable.entries.Pairwise fun first second =>
        first.1 ≠ second.1 := List.pairwise_map.mp projection.dispatchable.nodupKeys
    refine distinct.imp_of_mem fun {first second} firstListed secondListed different => ?_
    intro role firstRole secondRole
    obtain ⟨assignment, member, rfl⟩ := List.mem_map.mp firstRole
    obtain ⟨other, otherMember, sameRole⟩ := List.mem_map.mp secondRole
    obtain ⟨fromFirst, left, foundLeft, inLeft⟩ :=
      assigned_from planned (entries first firstListed) member
    obtain ⟨fromSecond, right, foundRight, inRight⟩ :=
      assigned_from planned (entries second secondListed) otherMember
    exact exclusive.disjoint fromFirst fromSecond different left right foundLeft foundRight _
      inLeft (sameRole ▸ inRight)

/-- A rework of an implementation, a review and a verification are ready at the same time. -/
def sharingTasks (risk : String) : List Json :=
  [.obj [("id", .str "I")],
    .obj [("id", .str "R"), ("contract", .obj
      [("integration_admission_profile", .str "risk_review"), ("risk_class", .str risk),
        ("evidence_contract", .obj [("execution_mode", .str "external_gate")])])],
    .obj [("id", .str "V"), ("contract", .obj
      [("evidence_contract", .obj [("execution_mode", .str "verify_only")])])]]

def sharingRow (id profile risk : String) (entryMode : EntryMode) : TaskRow where
  id
  status := "backlog"
  blockedReason := ""
  priority := 3
  createdAt := ""
  blockedBy := []
  requiredCapabilities := []
  integrationAdmissionProfile := profile
  riskClass := risk
  entryMode

def sharingRows (risk : String) : List TaskRow :=
  [sharingRow "I" "" "" .standard, sharingRow "R" "risk_review" risk .externalGate,
    sharingRow "V" "" "" .verifyOnly]

def busyAttempt (role : String) : Json :=
  .obj [("attempt_id", .str role), ("status", .str "sent"), ("instance_id", .str role)]

/-- All roles but one own an active attempt. -/
def sharingInput (policy : Policy) (role risk : String) : ReconcileInput where
  policy
  tasks := sharingTasks risk
  operations :=
    [{ taskId := "I", operationId := "op1", taskPipelineStage := "impl", generation := -1
       status := .settled }]
  attempts := ((policy.pools.values.flatMap Pool.roles).filter fun other => other ≠ role).map
    busyAttempt
  externalGateSatisfiedTaskIds := ["R"]
  implReworkRequests := Dict.ofEntries [("I", { operationGeneration := -1 })]

theorem sharingTasks_read {risk : String} (known : risk ∈ ["high", "critical"]) :
    (sharingTasks risk).mapM taskRow = .ok (sharingRows risk) := by
  simp only [List.mem_cons, List.not_mem_nil, or_false] at known
  rcases known with rfl | rfl <;> decide +kernel

theorem sharingRows_sorted {risk : String} (known : risk ∈ ["high", "critical"]) :
    sortedBy taskOrder (sharingRows risk) = sharingRows risk := by
  simp only [List.mem_cons, List.not_mem_nil, or_false] at known
  rcases known with rfl | rfl <;> decide +kernel

/-- A role that alone is idle is selected. -/
theorem selectRole_only {pool : Pool} {used : List String} {role preferred : String}
    (member : role ∈ pool.roles) (idle : role ∉ used)
    (busy : ∀ other ∈ pool.roles, other ≠ role → other ∈ used) :
    selectRole pool [] used preferred = some role := by
  cases selected : selectRole pool [] used preferred with
  | none =>
      have unsuitable := List.find?_eq_none.mp selected role
      rw [mem_fromKeys, List.mem_filter] at unsuitable
      refine absurd ?_ (unsuitable ⟨List.mem_cons_of_mem _ member, ?_⟩)
      · simp [idle, Pool.Covers]
      · simp [member, role_ne_empty member]
  | some other =>
      obtain ⟨inPool, unused, _⟩ := selectRole_some selected
      by_cases same : other = role
      · rw [same]
      · exact absurd (busy other inPool same) unused

theorem boundedReworkOrder_singleton (candidate : Placed) :
    boundedReworkOrder [candidate] = [candidate] := by
  unfold boundedReworkOrder
  by_cases reworked : 0 < candidate.1.reworkCount
  · have notFresh : candidate.1.reworkCount ≠ 0 := by omega
    simp [notFresh]
  · simp [reworked]

theorem dispatch_single {limits : DispatchLimits} {busy : List String} {candidate : Placed}
    {role : String} (room : 1 ≤ limits.available)
    (notFresh : limits.isFresh candidate.1 = false)
    (selected : selectRole limits.pool candidate.1.requiredCapabilities busy
      (limits.preferredRole candidate.1.taskId) = some role) :
    ([candidate].foldl (dispatchOne limits) { usedRoles := busy }).assignments =
      [limits.assign candidate.1 role] := by
  have notFull : ¬ limits.available ≤ ((0 : Nat) : Int) := by omega
  simp only [List.foldl_cons, List.foldl_nil, dispatchOne, List.length_nil, notFull, if_false,
    notFresh, Bool.false_eq_true, false_and, selected, List.nil_append]
  rfl

section Sharing

variable {policy : Policy} {role risk : String}

theorem sharing_role_idle (rows : List TaskRow) :
    role ∉ (normalize (sharingInput policy role risk) rows).busyRoles := by
  intro busy
  rw [NormalizedInput.busyRoles, nonempty, List.mem_filter, List.mem_map] at busy
  obtain ⟨⟨attempt, active, named⟩, _⟩ := busy
  have listed := (mem_sortedBy _ _ _).mp (List.mem_filter.mp active).1
  obtain ⟨other, kept, rfl⟩ := List.mem_map.mp listed
  have different := (List.mem_filter.mp kept).2
  rw [busyAttempt, Json.textAt, Json.get] at named
  simp only [Json.fields, Dict.find] at named
  simp at named different
  exact different named

theorem sharing_others_busy (rows : List TaskRow) {name other : String} {pool : Pool}
    (found : policy.pools.get? name = some pool) (member : other ∈ pool.roles)
    (different : other ≠ role) :
    other ∈ (normalize (sharingInput policy role risk) rows).busyRoles := by
  have named : (busyAttempt other).textAt "instance_id" = other := Json.text_str other
  have active : (busyAttempt other).textAt "status" = "sent" := Json.text_str "sent"
  have listed : busyAttempt other ∈ (sharingInput policy role risk).attempts := by
    refine List.mem_map_of_mem (List.mem_filter.mpr ⟨?_, by simpa using different⟩)
    exact List.mem_flatMap.mpr ⟨pool, (Dict.mem_values_iff _ _).mpr ⟨name, found⟩, member⟩
  rw [← named]
  refine mem_busyRoles listed ?_ ?_
  · rw [active]
    decide
  · rw [named]
    exact role_ne_empty member

theorem sharing_occupancy (rows : List TaskRow) (name : String) (pool : Pool) :
    (normalize (sharingInput policy role risk) rows).poolOccupancy name pool = 0 := by
  rfl

/-- The views of the three tasks. -/
def sharingView (policy : Policy) (role risk : String) (row : TaskRow) : TaskView :=
  taskView row ((normalize (sharingInput policy role risk) (sharingRows risk)).surroundings row)

theorem sharing_taskViews (policy : Policy) (role : String) (known : risk ∈ ["high", "critical"]) :
    (normalize (sharingInput policy role risk) (sharingRows risk)).taskViews =
      [sharingView policy role risk (sharingRow "I" "" "" .standard),
        sharingView policy role risk (sharingRow "R" "risk_review" risk .externalGate),
        sharingView policy role risk (sharingRow "V" "" "" .verifyOnly)] := by
  have rows : (normalize (sharingInput policy role risk) (sharingRows risk)).openTasks =
      sharingRows risk := by
    unfold NormalizedInput.openTasks
    dsimp only [normalize]
    rw [sharingRows_sorted known]
    rfl
  rw [NormalizedInput.taskViews, rows]
  rfl

theorem sharing_implView (role risk : String) (compiled : CompiledPolicy policy) :
    (sharingView policy role risk (sharingRow "I" "" "" .standard)).stage = .implReworkReady := by
  have allowed : (-1 : Int) ≤ policy.maxReworkAttempts := by
    have nonneg := compiled.reworks
    omega
  have derived : (sharingView policy role risk (sharingRow "I" "" "" .standard)).stage =
      (Derived.rework policy (-1)).stage := by with_unfolding_all rfl
  rw [derived, Derived.rework, if_pos allowed]

theorem sharing_verifyView (policy : Policy) (role risk : String) :
    (sharingView policy role risk (sharingRow "V" "" "" .verifyOnly)).stage = .verifyReady := by
  with_unfolding_all rfl

theorem sharing_reviewView (role : String) (compiled : CompiledPolicy policy)
    (risky : risk ∈ policy.integrationAdmission.riskReview.forRisks) :
    (sharingView policy role risk (sharingRow "R" "risk_review" risk .externalGate)).stage =
      if policy.integrationAdmission.riskReview.enabled then .acceptanceReviewReady
      else .admissionBlocked := by
  have derived : (sharingView policy role risk
      (sharingRow "R" "risk_review" risk .externalGate)).stage =
        (if reviewConfigured policy (sharingRow "R" "risk_review" risk .externalGate)
          then Derived.at .acceptanceReviewReady 1 else .at .admissionBlocked 1).stage := by
    with_unfolding_all rfl
  rw [derived]
  cases enabled : policy.integrationAdmission.riskReview.enabled with
  | false => simp [reviewConfigured, enabled, Derived.at]
  | true =>
      obtain ⟨pool, found⟩ := compiled.review enabled
      simp [reviewConfigured, enabled, Derived.at, sharingRow, risky, Dict.contains, found]

/-- Each of the loops has one candidate, which is no fresh implementation. -/
theorem sharing_candidates (compiled : CompiledPolicy policy)
    (risky : risk ∈ policy.integrationAdmission.riskReview.forRisks) {name : String}
    (assigns : AssignsFrom policy name) :
    ∃ candidate : Placed, candidate.1.requiredCapabilities = [] ∧
      candidate.1.stage ≠ .implReady ∧
      (normalize (sharingInput policy role risk) (sharingRows risk)).candidates name
        (readyStages name) = [candidate] := by
  have views := sharing_taskViews policy role (compiled.knownRisks risk risky)
  have implView := sharing_implView role risk compiled
  have reviewView := sharing_reviewView role compiled risky
  have verifyView := sharing_verifyView policy role risk
  rcases assigns with rfl | rfl | ⟨rfl, enabled⟩
  · refine ⟨(sharingView policy role risk (sharingRow "V" "" "" .verifyOnly), 2), rfl, by
      rw [verifyView]; decide, ?_⟩
    have stages : readyStages "verify" = [.verifyReady] := by decide
    simp only [NormalizedInput.candidates, views, List.zipIdx_cons, List.zipIdx_nil, stages,
      List.filter_cons, List.filter_nil, implView, reviewView, verifyView]
    cases policy.integrationAdmission.riskReview.enabled <;> simp
  · refine ⟨(sharingView policy role risk (sharingRow "I" "" "" .standard), 0), rfl, by
      rw [implView]; decide, ?_⟩
    have stages : readyStages "impl" = [.implReady, .implReworkReady] := by decide
    simp only [NormalizedInput.candidates, views, List.zipIdx_cons, List.zipIdx_nil, stages,
      List.filter_cons, List.filter_nil, implView, reviewView, verifyView]
    cases policy.integrationAdmission.riskReview.enabled <;> simp [boundedReworkOrder_singleton]
  · refine ⟨(sharingView policy role risk (sharingRow "R" "risk_review" risk .externalGate), 1),
      by with_unfolding_all rfl, by rw [reviewView, enabled]; decide, ?_⟩
    have stages : readyStages "acceptance_review" = [.acceptanceReviewReady] := by decide
    simp only [NormalizedInput.candidates, views, List.zipIdx_cons, List.zipIdx_nil, stages,
      List.filter_cons, List.filter_nil, implView, reviewView, verifyView, enabled]
    simp

/-- Each of the loops assigns the role that alone is idle. -/
theorem sharing_assigned (compiled : CompiledPolicy policy)
    (risky : risk ∈ policy.integrationAdmission.riskReview.forRisks) {name : String} {pool : Pool}
    (assigns : AssignsFrom policy name) (found : policy.pools.get? name = some pool)
    (member : role ∈ pool.roles) :
    role ∈ ((normalize (sharingInput policy role risk) (sharingRows risk)).dispatchStage name
      (readyStages name)).assignments.map Assignment.roleInstance := by
  obtain ⟨candidate, required, notReady, candidates⟩ := sharing_candidates compiled risky assigns
  have lookup : (normalize (sharingInput policy role risk) (sharingRows risk)).policy.pools.get?
      name = some pool := found
  rw [NormalizedInput.dispatchStage, lookup]
  dsimp only
  have room : 1 ≤ ((normalize (sharingInput policy role risk) (sharingRows risk)).limits name
      pool).available := by
    have capacity := compiled.pools.capacity name pool found
    simp only [NormalizedInput.limits, NormalizedInput.available, sharing_occupancy]
    omega
  have notFresh : ((normalize (sharingInput policy role risk) (sharingRows risk)).limits name
      pool).isFresh candidate.1 = false := by
    simp [DispatchLimits.isFresh, notReady]
  have selected : selectRole pool candidate.1.requiredCapabilities
      (normalize (sharingInput policy role risk) (sharingRows risk)).busyRoles
      (((normalize (sharingInput policy role risk) (sharingRows risk)).limits name
        pool).preferredRole candidate.1.taskId) = some role := by
    rw [required]
    exact selectRole_only member (sharing_role_idle _) fun other inPool =>
      sharing_others_busy _ found inPool
  rw [candidates, dispatch_single room notFresh selected]
  simp [DispatchLimits.assign]

end Sharing

/-- Stages with different names share no role in a plan without repetitions. -/
theorem roles_disjoint {dispatchable : Dict String (List Assignment)}
    (nodup : (dispatchable.values.flatten.map Assignment.roleInstance).Nodup)
    {left right : List Assignment}
    (foundLeft : dispatchable.get? first = some left)
    (foundRight : dispatchable.get? second = some right) (different : first ≠ second) :
    List.Disjoint (left.map Assignment.roleInstance) (right.map Assignment.roleInstance) := by
  rw [Dict.values, List.map_flatten, List.map_map, List.nodup_flatten, List.pairwise_map] at nodup
  have leftListed := (Dict.get?_eq_some_iff _ _ _).mp foundLeft
  have rightListed := (Dict.get?_eq_some_iff _ _ _).mp foundRight
  have symmetric : Std.Symm fun entry other : String × List Assignment =>
      List.Disjoint ((List.map Assignment.roleInstance ∘ Prod.snd) entry)
        ((List.map Assignment.roleInstance ∘ Prod.snd) other) :=
    ⟨fun _ _ disjoint => disjoint.symm⟩
  refine nodup.2.forall leftListed rightListed ?_
  intro same
  exact different (congrArg Prod.fst same)

theorem disjoint_of_exclusive {policy : Policy}
    (compiled : CompiledPolicy policy) (exclusive : ExclusivePlans digests policy)
    (fromFirst : AssignsFrom policy first)
    (fromSecond : AssignsFrom policy second) (different : first ≠ second) :
    DisjointPools policy.pools first second := by
  intro left right foundLeft foundRight role inLeft inRight
  obtain ⟨risk, risky⟩ := List.exists_mem_of_ne_nil _ compiled.someRisk
  have read : (sharingInput policy role risk).tasks.mapM taskRow = .ok (sharingRows risk) :=
    sharingTasks_read (compiled.knownRisks risk risky)
  have planned : ∃ projection, reconcile digests (sharingInput policy role risk) = .ok projection ∧
      projection.dispatchable = ((normalize (sharingInput policy role risk)
        (sharingRows risk)).plan digests).dispatchable := by
    rw [reconcile, read]
    exact ⟨_, rfl, rfl⟩
  obtain ⟨projection, reconciled, dispatchable⟩ := planned
  have nodup := exclusive _ projection rfl reconciled
  rw [Projection.assignments, dispatchable] at nodup
  have listed {name : String} {pool : Pool} (found : policy.pools.get? name = some pool) :
      ((normalize (sharingInput policy role risk) (sharingRows risk)).plan
        digests).dispatchable.get? name = some ((normalize (sharingInput policy role risk)
          (sharingRows risk)).dispatchStage name (readyStages name)).assignments := by
    refine (plan_get? digests _ name).trans ?_
    rw [show (normalize (sharingInput policy role risk) (sharingRows risk)).policy = policy from
      rfl, found]
    rfl
  exact roles_disjoint nodup (listed foundLeft) (listed foundRight) different
    (sharing_assigned compiled risky fromFirst foundLeft inLeft)
    (sharing_assigned compiled risky fromSecond foundRight inRight)

/-- A plan of a compiled policy assigns no role instance twice, whatever its
input, exactly when the pools that it assigns from share none. -/
theorem exclusive_iff_disjoint (digests : Digests) {env : ProfileEnv} {flowKind profileId : String}
    {raw : Json} {defaultImplRoles defaultVerifyRoles : List String} {policy : Policy}
    (compiled : compileTaskPipelineProfile env flowKind profileId raw defaultImplRoles
      defaultVerifyRoles = .ok (some policy)) :
    ExclusivePlans digests policy ↔ ExclusivePools policy := by
  have guarantees := compileTaskPipelineProfile_ok compiled
  refine ⟨fun exclusive => ⟨?_, fun enabled => ⟨?_, ?_⟩⟩, exclusive_of_disjoint⟩
  · exact disjoint_of_exclusive guarantees exclusive (Or.inr (Or.inl rfl)) (Or.inl rfl) (by decide)
  · exact disjoint_of_exclusive guarantees exclusive (Or.inr (Or.inl rfl))
      (Or.inr (Or.inr ⟨rfl, enabled⟩)) (by decide)
  · exact disjoint_of_exclusive guarantees exclusive (Or.inl rfl)
      (Or.inr (Or.inr ⟨rfl, enabled⟩)) (by decide)

/-- Numbers are read as they are; other values do not occur in the profiles below. -/
def sampleEnv : ProfileEnv where
  toFloat
    | .float value _ => .ok (.finite value)
    | .int value => .ok (.finite value)
    | _ => .error .conversion
  policyDigest _ := "digest"

/-- A profile with one developer and one tester. -/
def twoPoolProfile (developer tester : String) : Json :=
  .obj [("max_active_task_pipelines", .int 2),
    ("pools", .obj
      [("impl", .obj [("capacity", .int 1), ("role", .str developer)]),
        ("verify", .obj [("capacity", .int 1), ("role", .str tester)])]),
    ("backpressure", .obj [("max_unverified_tasks", .int 4), ("max_integration_queue", .int 4)]),
    ("worker_lifecycle", .obj []), ("affinity", .obj []), ("integration_admission", .obj []),
    ("candidate", .obj [])]

def twoPoolPolicy (developer tester : String) : Policy where
  profileId := "prd-flow-v4-task-pipeline"
  flowKind := "prd"
  maxActiveTaskPipelines := 2
  maxReworkAttempts := 2
  pools := Dict.ofEntries
    [("impl", { capacity := 1, roleInstances := [developer] }),
      ("verify", { capacity := 1, roleInstances := [tester] })]
  integrationAdmission := { riskReview := { forRisks := ["high", "critical"] } }
  backpressure := ⟨4, 4⟩
  profileDigest := "digest"

/-- The profile compiles to the policy. -/
def CompilesTo (profile : Json) (policy : Policy) : Prop :=
  compileTaskPipelineProfile sampleEnv "prd" "prd-flow-v4-task-pipeline" profile [] [] =
    .ok (some policy)

theorem compilesTo_of_toOption {profile : Json} {policy : Policy}
    (compiled : (compileTaskPipelineProfile sampleEnv "prd" "prd-flow-v4-task-pipeline" profile []
      []).toOption.map id = some (some policy)) : CompilesTo profile policy := by
  obtain ⟨result, outcome, rfl⟩ := Fallible.ok_of_toOption_map compiled
  exact outcome

theorem separate_roles_exclusive :
    CompilesTo (twoPoolProfile "dev-1" "test-1") (twoPoolPolicy "dev-1" "test-1") ∧
      ExclusivePlans sampleDigests (twoPoolPolicy "dev-1" "test-1") := by
  have compiled : CompilesTo (twoPoolProfile "dev-1" "test-1") (twoPoolPolicy "dev-1" "test-1") :=
    compilesTo_of_toOption (by decide +kernel)
  refine ⟨compiled, (exclusive_iff_disjoint sampleDigests compiled).mpr
    ⟨?_, fun enabled => by cases enabled⟩⟩
  intro left right foundLeft foundRight
  obtain rfl : { capacity := 1, roleInstances := ["dev-1"] } = left := Option.some.inj foundLeft
  obtain rfl : { capacity := 1, roleInstances := ["test-1"] } = right := Option.some.inj foundRight
  decide +kernel

/-- A new task and a task that is only verified. -/
def twoTaskInput (policy : Policy) : ReconcileInput where
  policy
  tasks :=
    [.obj [("id", .str "A")],
      .obj [("id", .str "B"), ("contract", .obj
        [("evidence_contract", .obj [("execution_mode", .str "verify_only")])])]]
  operations := []
  attempts := []

/-- The compiler accepts two pools with one role, and the plan assigns it twice. -/
theorem shared_role_assigned_twice :
    CompilesTo (twoPoolProfile "dev-1" "dev-1") (twoPoolPolicy "dev-1" "dev-1") ∧
      ∃ projection, reconcile sampleDigests (twoTaskInput (twoPoolPolicy "dev-1" "dev-1")) =
          .ok projection ∧
        projection.assignments =
          [⟨"A", "impl", "dev-1", 1, none⟩, ⟨"B", "verify", "dev-1", 1, none⟩] ∧
        ¬ (projection.assignments.map Assignment.roleInstance).Nodup := by
  refine ⟨compilesTo_of_toOption (by decide +kernel), ?_⟩
  have assigned : (reconcile sampleDigests (twoTaskInput (twoPoolPolicy "dev-1"
      "dev-1"))).toOption.map Projection.assignments =
        some [⟨"A", "impl", "dev-1", 1, none⟩, ⟨"B", "verify", "dev-1", 1, none⟩] := by
    decide +kernel
  obtain ⟨projection, planned, same⟩ := Fallible.ok_of_toOption_map assigned
  refine ⟨projection, planned, same, ?_⟩
  rw [same]
  decide

end ZaofuFormal.Pipeline
