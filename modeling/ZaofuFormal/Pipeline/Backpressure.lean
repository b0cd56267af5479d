import ZaofuFormal.Pipeline.ClosedGenerations

/-!
# Backpressure after a dispatch

The number of unverified tasks is compared with its limit once, before the dispatch
loop; the loop itself stops at the capacity of the pool and at the free pipelines.
When all fresh implementations of a plan are running, the limit holds if it has room
for whatever the idle workers can take, and with interchangeable workers exactly if it
has room for every front of the queue that they can take.
-/

namespace ZaofuFormal.Pipeline

open Foundation Foundation.Sorting
open Workflow (OperationStatus)

/-! ## The tasks that a plan starts -/

/-- The tasks that have an assignment in the implementation pool. -/
def Projection.implementing (projection : Projection) : List String :=
  ((projection.dispatchable.get? "impl").getD []).map Assignment.taskId

/-- The views of fresh tasks among the given ids. -/
def NormalizedInput.freshViews (input : NormalizedInput) (ids : List String) : List TaskView :=
  input.taskViews.filter fun view => decide (view.stage = .implReady ∧ view.taskId ∈ ids)

/-- A later pass over the same tasks: the fresh tasks of a plan have an active implementation,
and nothing else has changed. -/
structure Activated (before after : NormalizedInput) (started : List String) : Prop where
  rest : after = { before with operations := after.operations }
  active : ∀ view ∈ before.freshViews started,
    ∃ impl, (currentByStage (entryOperationStages .standard)
        (after.operationsOf view.taskId)).get? "impl" = some impl ∧
      impl.status ∈ activeOperationStatuses
  others : ∀ view ∈ before.freshViews started,
    (after.operationsOf view.taskId).filter (fun operation => operationStage operation ≠ "impl") =
      (before.operationsOf view.taskId).filter fun operation => operationStage operation ≠ "impl"
  unchanged : ∀ taskId, taskId ∉ (before.freshViews started).map TaskView.taskId →
    after.operationsOf taskId = before.operationsOf taskId

/-! ## The views of a fresh task -/

/-- The same surroundings with other operations. -/
def Surroundings.withOperations (given : Surroundings) (operations : List PipelineOperation) :
    Surroundings :=
  { given with operations }

section Views

variable {task : TaskRow} {given : Surroundings}

theorem taskView_stage (task : TaskRow) (given : Surroundings) :
    (taskView task given).stage =
      if task.blockedBy.filter (fun dependency => dependency ∉ given.terminalTaskIds) ≠ [] then
        .dependencyBlocked
      else if task.entryMode = .externalGate ∧ given.externalGateSatisfied = false then
        .externalGateWaiting
      else if task.status = "blocked" ∧ task.entryMode ≠ .externalGate then .blocked
      else (deriveEntryStage (currentByStage (entryOperationStages task.entryMode)
        given.operations) task given).stage := by
  unfold taskView
  dsimp only
  split_ifs <;> rfl

theorem taskView_reached (reached : Reached task given) :
    (taskView task given).stage = (deriveEntryStage
      (currentByStage (entryOperationStages task.entryMode) given.operations) task given).stage := by
  rw [taskView_stage, if_neg (not_not_intro reached.dependencies), if_neg reached.gate,
    if_neg reached.unblocked]

theorem Reached.withOperations (reached : Reached task given)
    (operations : List PipelineOperation) : Reached task (given.withOperations operations) where
  dependencies := reached.dependencies
  gate := reached.gate
  unblocked := reached.unblocked

/-- The stage depends on the operations only through the current ones. -/
theorem taskView_stage_congr {operations : List PipelineOperation}
    (same : currentByStage (entryOperationStages task.entryMode) operations =
      currentByStage (entryOperationStages task.entryMode) given.operations) :
    (taskView task (given.withOperations operations)).stage = (taskView task given).stage := by
  rw [taskView_stage, taskView_stage]
  unfold Surroundings.withOperations deriveEntryStage
  dsimp only
  rw [same]

theorem taskView_unreached (stopped : ¬ Reached task given) (operations : List PipelineOperation) :
    (taskView task (given.withOperations operations)).stage = (taskView task given).stage := by
  rw [taskView_stage, taskView_stage]
  unfold Surroundings.withOperations
  dsimp only
  by_cases pending : task.blockedBy.filter (fun dependency =>
      dependency ∉ given.terminalTaskIds) ≠ []
  · rw [if_pos pending, if_pos pending]
  by_cases gate : task.entryMode = .externalGate ∧ given.externalGateSatisfied = false
  · rw [if_neg pending, if_neg pending, if_pos gate, if_pos gate]
  by_cases blocked : task.status = "blocked" ∧ task.entryMode ≠ .externalGate
  · rw [if_neg pending, if_neg pending, if_neg gate, if_neg gate, if_pos blocked, if_pos blocked]
  · exact absurd ⟨not_not.mp pending, gate, blocked⟩ stopped

variable {current : CurrentOperations}

/-- Only a task with an implementation stage of its own can be fresh. -/
theorem standard_of_implReady (ready : (deriveEntryStage current task given).stage = .implReady) :
    task.entryMode = .standard := by
  unfold deriveEntryStage at ready
  cases mode : task.entryMode with
  | standard => rfl
  | verifyOnly =>
      rw [mode] at ready
      exact absurd ready deriveVerifyOnlyStage_not_implReady
  | externalGate =>
      rw [mode] at ready
      exact absurd ready (postVerification_not_implReady (by decide))

theorem postVerification_not_rework {policy : Policy} {generation : Int} :
    (derivePostVerificationStage current task policy generation false).stage ≠
      .implReworkReady := by
  intro ready
  have assignable : (derivePostVerificationStage current task policy generation false).stage ∈
      assignableStages := by
    rw [ready]
    decide
  rcases derivePostVerificationStage_ready assignable with ⟨_, derived⟩ | ⟨impossible, _⟩
  · rw [derived] at ready
    cases ready
  · cases impossible

theorem standard_of_reworkReady
    (ready : (deriveEntryStage current task given).stage = .implReworkReady) :
    task.entryMode = .standard := by
  unfold deriveEntryStage at ready
  cases mode : task.entryMode with
  | standard => rfl
  | externalGate =>
      rw [mode] at ready
      exact absurd ready postVerification_not_rework
  | verifyOnly =>
      rw [mode] at ready
      dsimp only at ready
      unfold deriveVerifyOnlyStage at ready
      split at ready
      · cases ready
      · rcases verification_stage ready with post | rejected | stops
        · exact absurd post postVerification_not_rework
        · cases rejected
        · exact absurd stops (by decide)

/-- Fresh tasks of one id have the same stage: it depends on the implementation only. -/
theorem deriveStage_implReady_congr {other : TaskRow}
    {policy : Policy} {request : Option ReworkRequest}
    (ready : (deriveStage current task policy request).stage = .implReady) :
    (deriveStage current other policy request).stage = .implReady := by
  unfold deriveStage at ready ⊢
  cases found : current.get? "impl" with
  | none => rfl
  | some impl =>
      rw [found] at ready
      dsimp only at ready ⊢
      cases stops : deriveImplementation impl with
      | some derived =>
          rw [stops] at ready
          exact ready
      | none =>
          rw [stops, Option.getD_none] at ready
          split at ready
          · exact absurd ready (rework_stage_ne _ _ (by decide))
          · exact absurd ready (deriveImplemented_not_implReady _)

theorem deriveStage_active {policy : Policy}
    {request : Option ReworkRequest} {impl : PipelineOperation}
    (found : current.get? "impl" = some impl) (active : impl.status ∈ activeOperationStatuses) :
    (deriveStage current task policy request).stage = .implActive := by
  unfold deriveStage
  rw [found]
  dsimp only
  unfold deriveImplementation
  simp only [activeOperationStatuses, List.mem_cons, List.not_mem_nil, or_false] at active
  rcases active with same | same | same <;> rw [same] <;> rfl

/-- The implementations do not count where the entry mode has no such stage. -/
theorem currentByStage_without_impl {allowed : List String} (outside : "impl" ∉ allowed)
    (operations : List PipelineOperation) :
    currentByStage allowed (operations.filter fun operation => operationStage operation ≠ "impl") =
      currentByStage allowed operations := by
  unfold currentByStage
  rw [List.foldl_filter]
  congr 1
  funext current operation
  split
  · rfl
  · rename_i implementation
    rw [decide_eq_true_eq, not_not] at implementation
    unfold CurrentOperations.note
    dsimp only
    rw [implementation, if_pos outside]

end Views

/-! ## The views after the start -/

/-- Two disjoint parts of a list are counted apart. -/
theorem length_filter_or {α : Type} {items : List α} {both first second : α → Bool}
    (split : ∀ item ∈ items, (both item = true ↔ first item = true ∨ second item = true) ∧
      (first item = true → ¬ second item = true)) :
    (items.filter both).length = (items.filter first).length + (items.filter second).length := by
  induction items with
  | nil => rfl
  | cons item rest ih =>
      obtain ⟨here, others⟩ := List.forall_mem_cons.mp split
      have tail := ih others
      rw [List.filter_cons, List.filter_cons, List.filter_cons]
      cases firstHere : first item with
      | true =>
          rw [if_pos (here.1.mpr (Or.inl firstHere)), if_pos rfl, if_neg (here.2 firstHere),
            List.length_cons, List.length_cons, tail]
          omega
      | false =>
          cases secondHere : second item with
          | true =>
              rw [if_pos (here.1.mpr (Or.inr secondHere)), if_neg Bool.false_ne_true, if_pos rfl,
                List.length_cons, List.length_cons, tail]
              omega
          | false =>
              rw [if_neg Bool.false_ne_true, if_neg Bool.false_ne_true, if_neg, tail]
              rw [here.1, firstHere, secondHere]
              simp

section Started

variable {before after : NormalizedInput} {started : List String}

theorem Activated.surroundings (activated : Activated before after started) (task : TaskRow) :
    after.surroundings task =
      (before.surroundings task).withOperations (after.operationsOf task.id) := by
  have rest := activated.rest
  unfold NormalizedInput.surroundings
  rw [rest]
  rfl

theorem Activated.openTasks (activated : Activated before after started) :
    after.openTasks = before.openTasks := by
  rw [activated.rest]
  rfl

theorem taskView_taskId (task : TaskRow) (given : Surroundings) :
    (taskView task given).taskId = task.id := by
  simp only [taskView]
  split_ifs <;> rfl

theorem mem_freshViews {input : NormalizedInput} {ids : List String} {view : TaskView} :
    view ∈ input.freshViews ids ↔
      view ∈ input.taskViews ∧ view.stage = .implReady ∧ view.taskId ∈ ids := by
  rw [NormalizedInput.freshViews, List.mem_filter, decide_eq_true_eq]

/-- Two tasks of one id that reach their operations are fresh together. -/
theorem implReady_congr {input : NormalizedInput} {task twin : TaskRow} (sameId : twin.id = task.id)
    (ready : (taskView twin (input.surroundings twin)).stage = .implReady)
    (reached : Reached task (input.surroundings task)) (standard : task.entryMode = .standard) :
    (taskView task (input.surroundings task)).stage = .implReady := by
  have twinReached : Reached twin (input.surroundings twin) :=
    reached_of_stage (by rw [ready]; decide)
  rw [taskView_reached twinReached] at ready
  have twinMode := standard_of_implReady ready
  rw [taskView_reached reached]
  unfold deriveEntryStage at ready ⊢
  rw [twinMode] at ready
  rw [standard]
  dsimp only at ready ⊢
  unfold NormalizedInput.surroundings at ready ⊢
  rw [sameId] at ready
  exact deriveStage_implReady_congr ready

theorem Activated.stage_of_fresh (activated : Activated before after started) {task : TaskRow}
    {view : TaskView} (fresh : view ∈ before.freshViews started) (sameId : view.taskId = task.id) :
    (taskView task (after.surroundings task)).stage =
      if (taskView task (before.surroundings task)).stage = .implReady then .implActive
      else (taskView task (before.surroundings task)).stage := by
  obtain ⟨impl, found, active⟩ := activated.active view fresh
  have others := activated.others view fresh
  obtain ⟨viewed, ready, _⟩ := mem_freshViews.mp fresh
  obtain ⟨twin, _, rfl⟩ := List.mem_map.mp viewed
  rw [sameId] at found others
  rw [taskView_taskId] at sameId
  rw [activated.surroundings task]
  have notStandard (other : task.entryMode ≠ .standard)
      (outside : "impl" ∉ entryOperationStages task.entryMode) :
      (taskView task
          ((before.surroundings task).withOperations (after.operationsOf task.id))).stage =
        if (taskView task (before.surroundings task)).stage = .implReady then .implActive
        else (taskView task (before.surroundings task)).stage := by
    rw [taskView_stage_congr, if_neg]
    · intro impossible
      have reached := reached_of_stage (show _ ∉ stoppedStages by rw [impossible]; decide)
      rw [taskView_reached reached] at impossible
      exact other (standard_of_implReady impossible)
    · rw [← currentByStage_without_impl outside, others, currentByStage_without_impl outside]
      rfl
  cases mode : task.entryMode with
  | verifyOnly => exact notStandard (by rw [mode]; decide) (by rw [mode]; decide)
  | externalGate => exact notStandard (by rw [mode]; decide) (by rw [mode]; decide)
  | standard =>
      by_cases reached : Reached task (before.surroundings task)
      · rw [if_pos (implReady_congr sameId ready reached mode),
          taskView_reached (reached.withOperations (after.operationsOf task.id))]
        unfold deriveEntryStage
        rw [mode]
        exact deriveStage_active found active
      · rw [taskView_unreached reached, if_neg]
        intro impossible
        exact reached (reached_of_stage (by rw [impossible]; decide))

/-- The started tasks are active, and the other ones are where they were. -/
theorem Activated.stage (activated : Activated before after started) {task : TaskRow}
    (present : task ∈ before.openTasks) :
    (taskView task (after.surroundings task)).stage =
      if (taskView task (before.surroundings task)).stage = .implReady ∧ task.id ∈ started then
        .implActive
      else (taskView task (before.surroundings task)).stage := by
  by_cases fresh : task.id ∈ (before.freshViews started).map TaskView.taskId
  · obtain ⟨view, listed, sameId⟩ := List.mem_map.mp fresh
    rw [activated.stage_of_fresh listed sameId]
    have wanted : task.id ∈ started := sameId ▸ (mem_freshViews.mp listed).2.2
    simp only [wanted, and_true]
  · have same : after.surroundings task = before.surroundings task := by
      rw [activated.surroundings, activated.unchanged task.id fresh]
      rfl
    rw [same, if_neg]
    rintro ⟨ready, wanted⟩
    refine fresh (List.mem_map.mpr ⟨_, mem_freshViews.mpr ⟨List.mem_map_of_mem present, ready, ?_⟩,
      taskView_taskId task _⟩)
    rwa [taskView_taskId]

/-- The unverified tasks after the start: those before it and the started ones. -/
theorem Activated.unverifiedCount (activated : Activated before after started) :
    after.unverifiedCount = before.unverifiedCount + (before.freshViews started).length := by
  unfold NormalizedInput.unverifiedCount NormalizedInput.freshViews NormalizedInput.taskViews
  rw [activated.openTasks, List.filter_map, List.filter_map, List.filter_map, List.length_map,
    List.length_map, List.length_map]
  refine length_filter_or fun task present => ?_
  simp only [Function.comp_apply, decide_eq_true_eq, activated.stage present, taskView_taskId]
  by_cases fresh : (taskView task (before.surroundings task)).stage = .implReady ∧
      task.id ∈ started
  · rw [if_pos fresh, fresh.1]
    refine ⟨iff_of_true (by decide) (Or.inr ⟨rfl, fresh.2⟩), fun impossible => ?_⟩
    exact absurd impossible (by decide)
  · rw [if_neg fresh]
    exact ⟨(or_iff_left fresh).symm, fun _ => fresh⟩

end Started

/-! ## The admissions of the loop -/

namespace DispatchLimits

variable (limits : DispatchLimits) (busy : List String)

/-- The roles of the pool that own no active attempt. -/
def idleRoles : List String := limits.pool.roles.filter fun role => role ∉ busy

/-- The tasks that the loop can start: it needs free capacity and an idle role for each. -/
def workers : Nat := min limits.available.toNat (limits.idleRoles busy).length

/-- The fresh tasks among them that the pipelines and the limits before the plan allow. -/
def startable : Nat := if limits.freshBlocked then 0 else limits.freshAvailable.toNat

/-- Some idle role covers what the candidate requires. -/
def Placeable (candidate : Placed) : Prop :=
  ∃ role ∈ limits.idleRoles busy, limits.pool.Covers role candidate.1.requiredCapabilities

instance (candidate : Placed) : Decidable (limits.Placeable busy candidate) :=
  inferInstanceAs (Decidable (∃ role ∈ _, _))

/-- The first placeable fresh tasks among the candidates, as many as can be started. -/
def firstFresh (candidates : List Placed) : List Placed :=
  (limits.freshOnes (candidates.filter fun candidate => limits.Placeable busy candidate)).take
    limits.startable

/-- The workers that the candidates need, when no fresh task starts beyond those. -/
def demand (candidates : List Placed) : Nat :=
  (candidates.filter fun candidate =>
    limits.Placeable busy candidate ∧ limits.isFresh candidate.1 = false).length +
      (limits.firstFresh busy candidates).length

end DispatchLimits

def placedIds (candidates : List Placed) : List String :=
  candidates.map fun candidate => candidate.1.taskId

/-- The loop finds a role for the candidate and nothing holds it back. -/
def DispatchLimits.Takes (limits : DispatchLimits) (state : Dispatching) (candidate : Placed) :
    Prop :=
  (state.assignments.length : Int) < limits.available ∧
    (limits.isFresh candidate.1 = true →
      (state.freshCount : Int) < limits.freshAvailable ∧ limits.freshBlocked = false) ∧
    (selectRole limits.pool candidate.1.requiredCapabilities state.usedRoles
      (limits.preferredRole candidate.1.taskId)).isSome = true

def Dispatching.taskIds (state : Dispatching) : List String :=
  state.assignments.map Assignment.taskId

section Loop

variable {limits : DispatchLimits} {busy : List String} {state : Dispatching}
  {candidate : Placed} {seen : List Placed}

theorem dispatchOne_of_takes (takes : limits.Takes state candidate) :
    (dispatchOne limits state candidate).taskIds = state.taskIds ++ [candidate.1.taskId] ∧
      (dispatchOne limits state candidate).freshCount =
        state.freshCount + (limits.freshOnes [candidate]).length := by
  obtain ⟨room, fresh, matched⟩ := takes
  obtain ⟨role, selected⟩ := Option.isSome_iff_exists.mp matched
  have admitted : ¬ (limits.isFresh candidate.1 = true ∧
      (limits.freshAvailable ≤ state.freshCount ∨ limits.freshBlocked = true)) := by
    rintro ⟨new, stops⟩
    obtain ⟨below, free⟩ := fresh new
    rcases stops with above | blocked
    · omega
    · rw [free] at blocked
      cases blocked
  unfold dispatchOne
  dsimp only
  rw [if_neg (not_le.mpr room), if_neg admitted, selected]
  unfold Dispatching.taskIds
  rw [List.map_append]
  refine ⟨rfl, ?_⟩
  cases new : limits.isFresh candidate.1 <;> simp [DispatchLimits.freshOnes, new]

theorem dispatchOne_of_not_takes (passes : ¬ limits.Takes state candidate) :
    (dispatchOne limits state candidate).taskIds = state.taskIds ∧
      (dispatchOne limits state candidate).freshCount = state.freshCount := by
  rcases dispatchOne_cases limits state candidate with
    ⟨unmatched, same⟩ | ⟨role, room, fresh, selected, _⟩
  · rw [same]
    exact ⟨rfl, rfl⟩
  · exact absurd ⟨room, fresh, Option.isSome_iff_exists.mpr ⟨role, selected⟩⟩ passes

theorem mem_idleRoles {role : String} :
    role ∈ limits.idleRoles busy ↔ role ∈ limits.pool.roles ∧ role ∉ busy := by
  rw [DispatchLimits.idleRoles, List.mem_filter, decide_eq_true_eq]

theorem nodup_idleRoles : (limits.idleRoles busy).Nodup :=
  ((sortedBy_perm id _).nodup_iff.mpr (List.nodup_dedup _)).filter _

/-- The assigned roles are different idle ones. -/
theorem Dispatched.roles_subperm (dispatched : Dispatched limits busy seen state) :
    (state.assignments.map Assignment.roleInstance).Subperm (limits.idleRoles busy) := by
  refine List.subperm_of_subset dispatched.distinctRoles fun role given => ?_
  obtain ⟨assignment, member, rfl⟩ := List.mem_map.mp given
  obtain ⟨_, _, serves, _⟩ := dispatched.served
  obtain ⟨_, _, served⟩ := Lists.exists_mem_of_forall₂ serves member
  exact mem_idleRoles.mpr ⟨served.inPool, dispatched.idle assignment member⟩

theorem Dispatched.length_le_workers (dispatched : Dispatched limits busy seen state) :
    state.assignments.length ≤ limits.workers busy := by
  have roles := dispatched.roles_subperm.length_le
  have capacity := dispatched.withinCapacity
  rw [List.length_map] at roles
  unfold DispatchLimits.workers
  omega

theorem Dispatched.freshCount_le (dispatched : Dispatched limits busy seen state) :
    state.freshCount ≤ limits.startable := by
  have pipelines := dispatched.withinPipelines
  unfold DispatchLimits.startable
  split
  · rename_i pressure
    exact (dispatched.withinPressure pressure).le
  · omega

/-- The started tasks with their roles. -/
theorem Dispatched.placed (dispatched : Dispatched limits busy seen state) :
    ∃ picks : List (Placed × String), (picks.map Prod.fst).Sublist seen ∧
      state.taskIds = placedIds (picks.map Prod.fst) ∧
      state.freshCount = (limits.freshOnes (picks.map Prod.fst)).length ∧
      picks.length = state.assignments.length ∧ (picks.map Prod.snd).Nodup ∧
      ∀ pick ∈ picks, pick.2 ∈ limits.idleRoles busy ∧
        limits.pool.Covers pick.2 pick.1.1.requiredCapabilities := by
  obtain ⟨chosen, among, serves, count⟩ := dispatched.served
  have ids : state.taskIds = placedIds chosen := by
    rw [← List.forall₂_eq_eq_eq]
    refine List.forall₂_map_left_iff.mpr (List.forall₂_map_right_iff.mpr (serves.flip.imp ?_))
    rintro assignment candidate served
    rw [served.made]
    rfl
  have length : chosen.length = (state.assignments.map Assignment.roleInstance).length := by
    rw [List.length_map, serves.length_eq]
  refine ⟨chosen.zip (state.assignments.map Assignment.roleInstance), ?_⟩
  rw [List.map_fst_zip length.le, List.map_snd_zip length.ge, List.length_zip, ← length, min_self]
  refine ⟨among, ids, count, serves.length_eq, dispatched.distinctRoles, fun pick paired => ?_⟩
  rw [List.zip_map_right] at paired
  obtain ⟨⟨candidate, assignment⟩, together, rfl⟩ := List.mem_map.mp paired
  have served := (List.forall₂_iff_zip.mp serves).2 together
  have idle := dispatched.idle assignment (List.of_mem_zip together).2
  exact ⟨mem_idleRoles.mpr ⟨served.inPool, idle⟩, served.covers⟩

/-- Every idle role covers what the candidate requires, or none does. -/
def DispatchLimits.AnyRole (limits : DispatchLimits) (busy : List String) (candidate : Placed) :
    Prop :=
  limits.Placeable busy candidate →
    ∀ role ∈ limits.idleRoles busy, limits.pool.Covers role candidate.1.requiredCapabilities

/-- A role is left as long as not every idle one is assigned. -/
theorem selectRole_iff (dispatched : Dispatched limits busy seen state)
    (anyRole : limits.AnyRole busy candidate) (preferred : String) :
    (selectRole limits.pool candidate.1.requiredCapabilities state.usedRoles preferred).isSome =
        true ↔
      limits.Placeable busy candidate ∧
        state.assignments.length < (limits.idleRoles busy).length := by
  constructor
  · intro matched
    obtain ⟨role, selected⟩ := Option.isSome_iff_exists.mp matched
    obtain ⟨inPool, unused, covers⟩ := selectRole_some selected
    rw [dispatched.usedRoles, not_or] at unused
    have idle : role ∈ limits.idleRoles busy := mem_idleRoles.mpr ⟨inPool, unused.1⟩
    refine ⟨⟨role, idle, covers⟩, not_le.mp fun all => unused.2 ?_⟩
    rw [← List.length_map (f := Assignment.roleInstance)] at all
    exact (dispatched.roles_subperm.perm_of_length_le all).mem_iff.mpr idle
  · rintro ⟨placeable, free⟩
    obtain ⟨role, idle, unassigned⟩ : ∃ role ∈ limits.idleRoles busy,
        role ∉ state.assignments.map Assignment.roleInstance := by
      by_contra all
      push Not at all
      have few := (List.subperm_of_subset nodup_idleRoles all).length_le
      rw [List.length_map] at few
      omega
    obtain ⟨inPool, notBusy⟩ := mem_idleRoles.mp idle
    unfold selectRole
    dsimp only
    rw [List.find?_isSome]
    refine ⟨role, ?_, ?_⟩
    · rw [mem_fromKeys, List.mem_filter, decide_eq_true_eq]
      exact ⟨List.mem_cons_of_mem _ inPool, role_ne_empty inPool, inPool⟩
    · rw [decide_eq_true_eq, dispatched.usedRoles, not_or]
      exact ⟨⟨notBusy, unassigned⟩, anyRole placeable role idle⟩

/-- The candidate needs a worker after those that have been seen. -/
def DispatchLimits.Wanted (limits : DispatchLimits) (busy : List String) (seen : List Placed)
    (candidate : Placed) : Prop :=
  limits.Placeable busy candidate ∧
    (limits.isFresh candidate.1 = true → (limits.firstFresh busy seen).length < limits.startable)

theorem takes_iff (dispatched : Dispatched limits busy seen state)
    (anyRole : limits.AnyRole busy candidate)
    (count : state.freshCount = (limits.firstFresh busy seen).length) :
    limits.Takes state candidate ↔
      state.assignments.length < limits.workers busy ∧ limits.Wanted busy seen candidate := by
  rw [DispatchLimits.Takes, selectRole_iff dispatched anyRole, DispatchLimits.Wanted, ← count]
  have pressure : (state.freshCount : Int) < limits.freshAvailable ∧
      limits.freshBlocked = false ↔ state.freshCount < limits.startable := by
    unfold DispatchLimits.startable
    cases limits.freshBlocked <;> simp
  rw [pressure]
  unfold DispatchLimits.workers
  rw [lt_min_iff, Int.lt_toNat]
  tauto

/-- One more candidate, of which only a wanted one counts. -/
theorem firstFresh_append (limits : DispatchLimits) (busy : List String) (seen : List Placed)
    (candidate : Placed) :
    (limits.Wanted busy seen candidate →
      limits.firstFresh busy (seen ++ [candidate]) =
        limits.firstFresh busy seen ++ limits.freshOnes [candidate]) ∧
    (¬ limits.Wanted busy seen candidate →
      limits.firstFresh busy (seen ++ [candidate]) = limits.firstFresh busy seen) := by
  unfold DispatchLimits.Wanted DispatchLimits.firstFresh DispatchLimits.freshOnes
  rw [List.filter_append, List.filter_append, List.take_append, List.length_take]
  by_cases placeable : limits.Placeable busy candidate
  · cases fresh : limits.isFresh candidate.1 with
    | false => simp [placeable, fresh]
    | true =>
        simp only [placeable, fresh, List.filter_cons, decide_true, if_true, List.filter_nil,
          true_and, forall_const, min_lt_iff, lt_irrefl, false_or, not_lt]
        refine ⟨fun below => ?_, fun full => ?_⟩
        · rw [List.take_of_length_le (l := [candidate])]
          rw [List.length_singleton]
          omega
        · rw [Nat.sub_eq_zero_of_le full, List.take_zero, List.append_nil]
  · simp [placeable]

theorem demand_append (limits : DispatchLimits) (busy : List String) (seen : List Placed)
    (candidate : Placed) :
    (limits.Wanted busy seen candidate →
      limits.demand busy (seen ++ [candidate]) = limits.demand busy seen + 1) ∧
    (¬ limits.Wanted busy seen candidate →
      limits.demand busy (seen ++ [candidate]) = limits.demand busy seen) := by
  obtain ⟨wanted, unwanted⟩ := firstFresh_append limits busy seen candidate
  unfold DispatchLimits.demand
  rw [List.filter_append, List.length_append]
  refine ⟨fun wants => ?_, fun passes => ?_⟩
  · rw [wanted wants, List.length_append]
    cases fresh : limits.isFresh candidate.1 <;>
      simp [wants.1, fresh, DispatchLimits.freshOnes] <;> omega
  · have none : ¬ (limits.Placeable busy candidate ∧ limits.isFresh candidate.1 = false) := by
      rintro ⟨placeable, old⟩
      refine passes ⟨placeable, fun fresh => ?_⟩
      rw [old] at fresh
      cases fresh
    rw [unwanted passes, List.filter_cons_of_neg (by simpa using none)]
    rfl

theorem length_lt_of_takes (dispatched : Dispatched limits busy seen state)
    (anyRole : limits.AnyRole busy candidate) (takes : limits.Takes state candidate) :
    state.assignments.length < limits.workers busy := by
  have roles := ((selectRole_iff dispatched anyRole _).mp takes.2.2).2
  have capacity := takes.1
  unfold DispatchLimits.workers
  omega

/-- The tasks that the loop has started are those of a front of its candidates: of all of
them, or of as many as need every worker. -/
structure Filled (limits : DispatchLimits) (busy : List String) (seen : List Placed)
    (state : Dispatching) (front chosen : List Placed) : Prop where
  starts : front <+: seen
  among : chosen ⊆ seen
  ids : state.taskIds = placedIds chosen
  fresh : limits.freshOnes chosen = limits.firstFresh busy front
  count : state.freshCount = (limits.firstFresh busy front).length
  needs : chosen.length = limits.demand busy front
  all : front = seen ∨ limits.demand busy front = limits.workers busy

theorem Filled.length {front chosen : List Placed}
    (filled : Filled limits busy seen state front chosen) :
    state.assignments.length = limits.demand busy front := by
  have same := congrArg List.length filled.ids
  rwa [Dispatching.taskIds, placedIds, List.length_map, List.length_map, filled.needs] at same

theorem filled_dispatchOne {front chosen : List Placed}
    (filled : Filled limits busy seen state front chosen)
    (dispatched : Dispatched limits busy seen state) (anyRole : limits.AnyRole busy candidate) :
    ∃ front chosen, Filled limits busy (seen ++ [candidate])
      (dispatchOne limits state candidate) front chosen := by
  have among : chosen ⊆ seen ++ [candidate] :=
    List.Subset.trans filled.among (List.subset_append_left _ _)
  have stays (passes : ¬ limits.Takes state candidate)
      (full : limits.demand busy front = limits.workers busy) :
      Filled limits busy (seen ++ [candidate]) (dispatchOne limits state candidate) front chosen :=
    { filled with
      starts := filled.starts.trans (List.prefix_append _ _)
      among := among
      ids := (dispatchOne_of_not_takes passes).1.trans filled.ids
      count := (dispatchOne_of_not_takes passes).2.trans filled.count
      all := Or.inr full }
  rcases filled.all with rfl | full
  · have takes := takes_iff dispatched anyRole filled.count
    obtain ⟨wanted, unwanted⟩ := firstFresh_append limits busy front candidate
    obtain ⟨more, same⟩ := demand_append limits busy front candidate
    by_cases taken : limits.Takes state candidate
    · have wants := (takes.mp taken).2
      obtain ⟨ids, count⟩ := dispatchOne_of_takes taken
      refine ⟨front ++ [candidate], chosen ++ [candidate], List.prefix_rfl, ?_, ?_, ?_, ?_, ?_,
        Or.inl rfl⟩
      · exact List.append_subset.mpr ⟨among, List.subset_append_right _ _⟩
      · rw [ids, filled.ids, placedIds, placedIds, List.map_append]
        rfl
      · rw [wanted wants, ← filled.fresh, DispatchLimits.freshOnes, List.filter_append]
        rfl
      · rw [count, wanted wants, List.length_append, filled.count]
      · rw [more wants, List.length_append, filled.needs]
        rfl
    · by_cases wants : limits.Wanted busy front candidate
      · have length := filled.length
        have bound := dispatched.length_le_workers
        have above : ¬ state.assignments.length < limits.workers busy := fun below =>
          taken (takes.mpr ⟨below, wants⟩)
        exact ⟨front, chosen, stays taken (by omega)⟩
      · refine ⟨front ++ [candidate], chosen, List.prefix_rfl, among, ?_, ?_, ?_, ?_, Or.inl rfl⟩
        · rw [(dispatchOne_of_not_takes taken).1, filled.ids]
        · rw [unwanted wants, filled.fresh]
        · rw [unwanted wants, (dispatchOne_of_not_takes taken).2, filled.count]
        · rw [same wants, filled.needs]
  · refine ⟨front, chosen, stays (fun taken => ?_) full⟩
    have below := length_lt_of_takes dispatched anyRole taken
    have length := filled.length
    omega

theorem filled_loop {candidates : List Placed}
    (anyRole : ∀ candidate ∈ candidates, limits.AnyRole busy candidate) :
    ∃ front chosen, Filled limits busy candidates
      (candidates.foldl (dispatchOne limits) { usedRoles := busy }) front chosen := by
  induction candidates using List.reverseRecOn with
  | nil =>
      refine ⟨[], [], List.prefix_rfl, List.Subset.refl _, rfl, ?_, ?_, ?_, Or.inl rfl⟩ <;>
        simp [DispatchLimits.freshOnes, DispatchLimits.firstFresh, DispatchLimits.demand]
  | append_singleton seen candidate ih =>
      obtain ⟨front, chosen, filled⟩ := ih fun other member =>
        anyRole other (List.mem_append_left _ member)
      rw [List.foldl_append]
      exact filled_dispatchOne filled (dispatched_loop limits busy seen)
        (anyRole candidate (List.mem_append_right _ List.mem_cons_self))

/-- What a shorter front starts is started by a longer one. -/
theorem firstFresh_starts (limits : DispatchLimits) (busy : List String)
    {shorter longer : List Placed} (starts : shorter <+: longer) :
    limits.firstFresh busy shorter <+: limits.firstFresh busy longer :=
  ((starts.filter _).filter _).take _

/-- No front for which there are workers starts a task that the loop does not. -/
theorem Filled.covers {candidates front chosen other : List Placed}
    (filled : Filled limits busy candidates state front chosen) (starts : other <+: candidates)
    (enough : limits.demand busy other ≤ limits.workers busy) :
    limits.firstFresh busy other ⊆ limits.firstFresh busy front := by
  rcases filled.all with rfl | full
  · exact (firstFresh_starts limits busy starts).subset
  rcases List.prefix_or_prefix_of_prefix starts filled.starts with shorter | longer
  · exact (firstFresh_starts limits busy shorter).subset
  · have started := firstFresh_starts limits busy longer
    have reworks := (longer.filter fun candidate =>
      limits.Placeable busy candidate ∧ limits.isFresh candidate.1 = false).length_le
    have length := started.length_le
    unfold DispatchLimits.demand at enough full
    rw [started.eq_of_length (by omega)]
    exact List.Subset.refl _

end Loop

/-! ## Room for the started tasks -/

/-- The limit, or the number before the plan, leaves room for the fresh tasks among the ids. -/
def NormalizedInput.HasRoom (input : NormalizedInput) (ids : List String) : Prop :=
  ((input.unverifiedCount + (input.freshViews ids).length : Nat) : Int) ≤
    max input.policy.backpressure.maxUnverifiedTasks input.unverifiedCount

def NormalizedInput.implCandidates (input : NormalizedInput) : List Placed :=
  input.candidates "impl" (readyStages "impl")

/-- Whichever fresh tasks different idle roles could take, there is room. -/
def NormalizedInput.RoomForAny (input : NormalizedInput) (pool : Pool) : Prop :=
  ∀ picks : List (Placed × String), (picks.map Prod.fst).Sublist input.implCandidates →
    (picks.map Prod.snd).Nodup →
    (∀ pick ∈ picks, pick.1.1.stage = .implReady ∧
      pick.2 ∈ (input.limits "impl" pool).idleRoles input.busyRoles ∧
      pool.Covers pick.2 pick.1.1.requiredCapabilities) →
    picks.length ≤ min (input.limits "impl" pool).startable
      ((input.limits "impl" pool).workers input.busyRoles) →
    input.HasRoom (placedIds (picks.map Prod.fst))

/-- For every front of the candidates that the idle workers can take, there is room. -/
def NormalizedInput.RoomForFronts (input : NormalizedInput) (pool : Pool) : Prop :=
  ∀ front : List Placed, front <+: input.implCandidates →
    (input.limits "impl" pool).demand input.busyRoles front ≤
      (input.limits "impl" pool).workers input.busyRoles →
    input.HasRoom (placedIds ((input.limits "impl" pool).firstFresh input.busyRoles front))

/-- The idle roles can take the same candidates. -/
def NormalizedInput.Interchangeable (input : NormalizedInput) (pool : Pool) : Prop :=
  ∀ candidate ∈ input.implCandidates,
    (input.limits "impl" pool).AnyRole input.busyRoles candidate

section Room

variable {input : NormalizedInput} {pool : Pool}

theorem hasRoom_mono {ids more : List String} (within : ids ⊆ more) (room : input.HasRoom more) :
    input.HasRoom ids := by
  refine le_trans (Int.ofNat_le.mpr (Nat.add_le_add_left (List.Sublist.length_le
    (List.monotone_filter_right _ fun view fresh => ?_)) _)) room
  rw [decide_eq_true_eq] at fresh ⊢
  exact ⟨fresh.1, within fresh.2⟩

theorem isFresh_limits (view : TaskView) :
    (input.limits "impl" pool).isFresh view = true ↔ view.stage = .implReady := by
  rw [DispatchLimits.isFresh, decide_eq_true_eq]
  exact and_iff_right rfl

theorem implCandidates_ready {candidate : Placed} (listed : candidate ∈ input.implCandidates) :
    candidate.1 ∈ input.taskViews ∧
      (candidate.1.stage = .implReady ∨ candidate.1.stage = .implReworkReady) := by
  obtain ⟨viewed, ready⟩ := List.mem_filter.mp ((candidates_views_subperm input "impl"
    (readyStages "impl")).subset (List.mem_map_of_mem listed))
  rw [decide_eq_true_eq] at ready
  refine ⟨viewed, ?_⟩
  rcases readyStages_cases ready with ⟨impossible, _⟩ | ⟨impossible, _⟩ | ⟨_, stages⟩
  · exact absurd impossible (by decide)
  · exact absurd impossible (by decide)
  · exact stages

/-- No task of a fresh one's id is due for a rework. -/
theorem not_rework_of_fresh {view twin : TaskView} (viewed : view ∈ input.taskViews)
    (listed : twin ∈ input.taskViews) (sameId : twin.taskId = view.taskId)
    (ready : twin.stage = .implReady) : view.stage ≠ .implReworkReady := by
  intro rework
  obtain ⟨task, _, rfl⟩ := List.mem_map.mp viewed
  obtain ⟨other, _, rfl⟩ := List.mem_map.mp listed
  rw [taskView_taskId, taskView_taskId] at sameId
  have reached : Reached task (input.surroundings task) :=
    reached_of_stage (by rw [rework]; decide)
  have standard : task.entryMode = .standard := by
    rw [taskView_reached reached] at rework
    exact standard_of_reworkReady rework
  have fresh := implReady_congr sameId ready reached standard
  rw [rework] at fresh
  cases fresh

/-- The reworks among the started tasks take no room. -/
theorem hasRoom_freshOnes (pool : Pool) {chosen : List Placed}
    (among : chosen ⊆ input.implCandidates) :
    input.HasRoom (placedIds chosen) ↔
      input.HasRoom (placedIds ((input.limits "impl" pool).freshOnes chosen)) := by
  have same : input.freshViews (placedIds chosen) =
      input.freshViews (placedIds ((input.limits "impl" pool).freshOnes chosen)) := by
    refine List.filter_congr fun view listed => ?_
    rw [decide_eq_decide]
    refine and_congr_right fun ready => ⟨fun started => ?_, fun started => ?_⟩
    · obtain ⟨candidate, member, sameId⟩ := List.mem_map.mp started
      obtain ⟨viewed, stages⟩ := implCandidates_ready (among member)
      have rework := not_rework_of_fresh viewed listed sameId.symm ready
      refine List.mem_map.mpr ⟨candidate, List.mem_filter.mpr ⟨member, ?_⟩, sameId⟩
      exact (isFresh_limits _).mpr (stages.resolve_right rework)
    · exact (List.filter_sublist.map _).subset started
  rw [NormalizedInput.HasRoom, same]
  rfl

theorem hasRoom_of_any (found : input.policy.pools.get? "impl" = some pool)
    (room : input.RoomForAny pool) :
    input.HasRoom (input.dispatchStage "impl" (readyStages "impl")).taskIds := by
  have dispatched := dispatched_stage input found (readyStages "impl")
  obtain ⟨picks, among, ids, count, needs, distinct, placed⟩ := dispatched.placed
  have fresh : (input.limits "impl" pool).freshOnes (picks.map Prod.fst) =
      (picks.filter fun pick => (input.limits "impl" pool).isFresh pick.1.1).map Prod.fst :=
    List.filter_map
  rw [ids, hasRoom_freshOnes pool among.subset, fresh]
  refine room _ ((List.filter_sublist.map _).trans among)
    ((List.filter_sublist.map _).nodup distinct) (fun pick member => ?_) (le_min ?_ ?_)
  · obtain ⟨paired, isNew⟩ := List.mem_filter.mp member
    exact ⟨(isFresh_limits _).mp isNew, placed pick paired⟩
  · rw [fresh, List.length_map] at count
    exact count ▸ dispatched.freshCount_le
  · exact (List.length_filter_le _ _).trans (needs.le.trans dispatched.length_le_workers)

theorem hasRoom_iff_fronts (found : input.policy.pools.get? "impl" = some pool)
    (interchangeable : input.Interchangeable pool) :
    input.HasRoom (input.dispatchStage "impl" (readyStages "impl")).taskIds ↔
      input.RoomForFronts pool := by
  have dispatched := dispatched_stage input found (readyStages "impl")
  obtain ⟨front, chosen, filled⟩ := filled_loop interchangeable
  have loop : (input.implCandidates.foldl (dispatchOne (input.limits "impl" pool))
      { usedRoles := input.busyRoles }) = input.dispatchStage "impl" (readyStages "impl") := by
    rw [NormalizedInput.dispatchStage, found]
    rfl
  rw [loop] at filled
  rw [filled.ids, hasRoom_freshOnes pool filled.among, filled.fresh]
  refine ⟨fun room other starts enough => ?_, fun room => ?_⟩
  · exact hasRoom_mono (List.map_subset _ (filled.covers starts enough)) room
  · exact room front filled.starts (filled.length ▸ dispatched.length_le_workers)

end Room

/-! ## Every plan -/

theorem implementing_plan (digests : Digests) (input : NormalizedInput) {pool : Pool}
    (found : input.policy.pools.get? "impl" = some pool) :
    (input.plan digests).implementing =
      (input.dispatchStage "impl" (readyStages "impl")).taskIds := by
  unfold Projection.implementing
  rw [plan_get?, found]
  rfl

/-- The limit, or the number of unverified tasks before the plan, bounds the number after it. -/
def Projection.Withstands (projection : Projection) (limit : Int) (after : NormalizedInput) :
    Prop :=
  (after.unverifiedCount : Int) ≤ max limit projection.backpressure.unverifiedCount

/-- Two new tasks, two workers, and room for the given number of unverified tasks. -/
def twoFreshInput (maxUnverifiedTasks : Int) : ReconcileInput where
  policy :=
    { maxActiveTaskPipelines := 2
      pools := Dict.ofEntries [("impl", { capacity := 2, roleInstances := ["dev-1", "dev-2"] })]
      backpressure := ⟨maxUnverifiedTasks, 1⟩ }
  tasks := [.obj [("id", .str "T1")], .obj [("id", .str "T2")]]
  operations := []
  attempts := []

def startedImpl (taskId : String) : PipelineOperation where
  taskId := taskId
  operationId := taskId
  taskPipelineStage := "impl"
  generation := 1
  status := .running

/-- The next pass, in which both tasks run. -/
def bothStarted (before : NormalizedInput) : NormalizedInput :=
  { before with operations := [startedImpl "T1", startedImpl "T2"] }

theorem operationsOf_bothStarted (before : NormalizedInput) (taskId : String) :
    (bothStarted before).operationsOf taskId = if taskId = "" then [] else
      [startedImpl "T1", startedImpl "T2"].filter fun operation => operation.taskId = taskId := rfl

theorem activated_bothStarted {before : NormalizedInput} {started : List String}
    (fresh : (before.freshViews started).map TaskView.taskId = ["T1", "T2"])
    (none : before.operations = []) : Activated before (bothStarted before) started where
  rest := rfl
  active view listed := by
    have named : view.taskId ∈ ["T1", "T2"] := fresh ▸ List.mem_map_of_mem listed
    simp only [List.mem_cons, List.not_mem_nil, or_false] at named
    rcases named with same | same
    · refine ⟨startedImpl "T1", ?_, by decide⟩
      rw [same, operationsOf_bothStarted]
      decide +kernel
    · refine ⟨startedImpl "T2", ?_, by decide⟩
      rw [same, operationsOf_bothStarted]
      decide +kernel
  others view listed := by
    have named : view.taskId ∈ ["T1", "T2"] := fresh ▸ List.mem_map_of_mem listed
    simp only [List.mem_cons, List.not_mem_nil, or_false] at named
    rw [operationsOf_bothStarted, NormalizedInput.operationsOf, none]
    rcases named with same | same
    · rw [same]
      decide +kernel
    · rw [same]
      decide +kernel
  unchanged taskId other := by
    rw [fresh] at other
    simp only [List.mem_cons, List.not_mem_nil, or_false, not_or] at other
    rw [operationsOf_bothStarted, NormalizedInput.operationsOf, none]
    simp [startedImpl, Ne.symm other.1, Ne.symm other.2]

def freshRow (id : String) : TaskRow where
  id := id
  status := "backlog"
  blockedReason := ""
  priority := 3
  createdAt := ""
  blockedBy := []
  requiredCapabilities := []
  integrationAdmissionProfile := ""
  riskClass := ""
  entryMode := .standard

def freshRows : List TaskRow := [freshRow "T1", freshRow "T2"]

end ZaofuFormal.Pipeline
