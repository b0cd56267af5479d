import ZaofuFormal.Pipeline.IntegrationGate

/-!
# The dispatch plan of one pass

Each stage has its own dispatch loop.  The invariant of the loop says which
candidates were served so far and keeps the three quotas: the capacity of the
pool, the idle roles of the pool, and the fresh implementations that the
pipelines and the backpressure limits still allow.
-/

namespace ZaofuFormal.Pipeline

open Foundation Foundation.Sorting

/-- A selected role is an idle member of the pool that covers what is required. -/
theorem selectRole_some {pool : Pool} {required used : List String} {preferred role : String}
    (selected : selectRole pool required used preferred = some role) :
    role ∈ pool.roles ∧ role ∉ used ∧ pool.Covers role required := by
  have suitable := List.find?_some selected
  have listed := List.mem_of_find?_eq_some selected
  rw [mem_fromKeys, List.mem_filter] at listed
  simp only [decide_eq_true_eq] at suitable listed
  exact ⟨listed.2.2, suitable⟩

theorem mem_roleInstances_of_mem_roles {pool : Pool} {role : String}
    (member : role ∈ pool.roles) : role ∈ pool.roleInstances := by
  rw [Pool.roles, mem_sortedSet, nonempty, List.mem_filter] at member
  exact member.1

/-- The assignment of a candidate to a role. -/
def DispatchLimits.assign (limits : DispatchLimits) (view : TaskView) (role : String) :
    Assignment where
  taskId := view.taskId
  stage := limits.stage
  roleInstance := role
  operationGeneration := view.nextOperationGeneration
  implReworkRequest :=
    if limits.stage = "impl" ∧ view.stage = .implReworkReady then view.implReworkRequest else none

/-- A candidate is passed over, or the loop has found a role for it. -/
theorem dispatchOne_cases (limits : DispatchLimits) (state : Dispatching) (candidate : Placed) :
    (∃ unmatched, dispatchOne limits state candidate = { state with unmatched }) ∨
    ∃ role, (state.assignments.length : Int) < limits.available ∧
      (limits.isFresh candidate.1 = true →
        (state.freshCount : Int) < limits.freshAvailable ∧ limits.freshBlocked = false) ∧
      selectRole limits.pool candidate.1.requiredCapabilities state.usedRoles
        (limits.preferredRole candidate.1.taskId) = some role ∧
      dispatchOne limits state candidate =
        { assignments := state.assignments ++ [limits.assign candidate.1 role]
          freshCount :=
            if limits.isFresh candidate.1 then state.freshCount + 1 else state.freshCount
          usedRoles := role :: state.usedRoles
          unmatched := state.unmatched } := by
  unfold dispatchOne
  dsimp only
  split
  · exact Or.inl ⟨state.unmatched, rfl⟩
  rename_i room
  split
  · exact Or.inl ⟨state.unmatched, rfl⟩
  rename_i admitted
  split
  · exact Or.inl ⟨_, rfl⟩
  · rename_i role selected
    refine Or.inr ⟨role, not_le.mp room, fun fresh => ?_, selected, rfl⟩
    obtain ⟨pipelines, pressure⟩ := not_or.mp (not_and.mp admitted fresh)
    exact ⟨not_le.mp pipelines, Bool.eq_false_iff.mpr pressure⟩

/-- An assignment is what the loop makes of a candidate. -/
structure Serves (limits : DispatchLimits) (candidate : Placed) (assignment : Assignment) :
    Prop where
  made : assignment = limits.assign candidate.1 assignment.roleInstance
  inPool : assignment.roleInstance ∈ limits.pool.roles
  covers : limits.pool.Covers assignment.roleInstance candidate.1.requiredCapabilities

/-- The candidates among the given ones that are fresh implementations. -/
def DispatchLimits.freshOnes (limits : DispatchLimits) (candidates : List Placed) : List Placed :=
  candidates.filter fun candidate => limits.isFresh candidate.1

/-- What the loop has done after it has seen some of its candidates. -/
structure Dispatched (limits : DispatchLimits) (busy : List String) (seen : List Placed)
    (state : Dispatching) : Prop where
  served : ∃ chosen : List Placed, chosen.Sublist seen ∧
    List.Forall₂ (Serves limits) chosen state.assignments ∧
    state.freshCount = (limits.freshOnes chosen).length
  withinCapacity : (state.assignments.length : Int) ≤ max 0 limits.available
  usedRoles : ∀ role, role ∈ state.usedRoles ↔
    role ∈ busy ∨ role ∈ state.assignments.map Assignment.roleInstance
  idle : ∀ assignment ∈ state.assignments, assignment.roleInstance ∉ busy
  distinctRoles : (state.assignments.map Assignment.roleInstance).Nodup
  withinPipelines : (state.freshCount : Int) ≤ max 0 limits.freshAvailable
  withinPressure : limits.freshBlocked = true → state.freshCount = 0

theorem dispatched_start (limits : DispatchLimits) (busy : List String) :
    Dispatched limits busy [] { usedRoles := busy } where
  served := ⟨[], List.Sublist.refl [], .nil, rfl⟩
  withinCapacity := le_max_left 0 _
  usedRoles role := by simp
  idle assignment member := by cases member
  distinctRoles := List.nodup_nil
  withinPipelines := le_max_left 0 _
  withinPressure _ := rfl

theorem Dispatched.skip {limits : DispatchLimits} {busy : List String} {seen : List Placed}
    {state : Dispatching} (dispatched : Dispatched limits busy seen state) (candidate : Placed)
    (unmatched : List Nat) :
    Dispatched limits busy (seen ++ [candidate]) { state with unmatched } where
  served := by
    obtain ⟨chosen, among, serves, fresh⟩ := dispatched.served
    exact ⟨chosen, among.trans (List.sublist_append_left seen _), serves, fresh⟩
  withinCapacity := dispatched.withinCapacity
  usedRoles := dispatched.usedRoles
  idle := dispatched.idle
  distinctRoles := dispatched.distinctRoles
  withinPipelines := dispatched.withinPipelines
  withinPressure := dispatched.withinPressure

theorem dispatched_dispatchOne {limits : DispatchLimits} {busy : List String} {seen : List Placed}
    {state : Dispatching} (dispatched : Dispatched limits busy seen state) (candidate : Placed) :
    Dispatched limits busy (seen ++ [candidate]) (dispatchOne limits state candidate) := by
  rcases dispatchOne_cases limits state candidate with
    ⟨unmatched, same⟩ | ⟨role, room, fresh, selected, same⟩
  · rw [same]
    exact dispatched.skip candidate unmatched
  obtain ⟨inPool, unused, covers⟩ := selectRole_some selected
  have notBusy : role ∉ busy := fun member =>
    unused ((dispatched.usedRoles role).mpr (Or.inl member))
  have notGiven : role ∉ state.assignments.map Assignment.roleInstance := fun member =>
    unused ((dispatched.usedRoles role).mpr (Or.inr member))
  obtain ⟨chosen, among, serves, count⟩ := dispatched.served
  rw [same]
  constructor
  · refine ⟨chosen ++ [candidate], among.append (List.Sublist.refl _), ?_, ?_⟩
    · exact List.rel_append serves (.cons ⟨rfl, inPool, covers⟩ .nil)
    · rw [DispatchLimits.freshOnes, List.filter_append, List.length_append]
      dsimp only
      rw [count, DispatchLimits.freshOnes]
      cases new : limits.isFresh candidate.1 <;> simp [new]
  · simp only [List.length_append, List.length_singleton]
    omega
  · intro other
    simp only [List.mem_cons, List.map_append, List.map_cons, List.map_nil, List.mem_append,
      List.not_mem_nil, or_false, dispatched.usedRoles other, DispatchLimits.assign]
    tauto
  · intro assignment member
    rcases List.mem_append.mp member with old | new
    · exact dispatched.idle assignment old
    · rw [List.mem_singleton.mp new]
      exact notBusy
  · rw [List.map_append, List.nodup_append]
    refine ⟨dispatched.distinctRoles, List.nodup_singleton _, ?_⟩
    intro given member other single
    rw [List.mem_singleton.mp single]
    rintro rfl
    exact notGiven member
  · have before := dispatched.withinPipelines
    dsimp only
    split
    · rename_i new
      have below := (fresh new).1
      omega
    · exact before
  · intro pressure
    dsimp only
    split
    · rename_i new
      rw [(fresh new).2] at pressure
      cases pressure
    · exact dispatched.withinPressure pressure

theorem dispatched_loop (limits : DispatchLimits) (busy : List String) (candidates : List Placed) :
    Dispatched limits busy candidates
      (candidates.foldl (dispatchOne limits) { usedRoles := busy }) := by
  induction candidates using List.reverseRecOn with
  | nil => exact dispatched_start limits busy
  | append_singleton seen candidate ih =>
      rw [List.foldl_append]
      exact dispatched_dispatchOne ih candidate

theorem takeTurns_perm {α : Type} (first second : List α) :
    (takeTurns first second).Perm (first ++ second) := by
  fun_induction takeTurns first second with
  | case1 second => exact List.Perm.refl _
  | case2 first => rw [List.append_nil]
  | case3 item rest other others ih =>
      refine ((ih.cons other).cons item).trans (List.Perm.cons item ?_)
      exact List.perm_middle.symm

/-- The order of the implementations drops candidates and adds none. -/
theorem boundedReworkOrder_subperm (candidates : List Placed) :
    (boundedReworkOrder candidates).Subperm candidates := by
  have split : (candidates.filter (fun candidate => 0 < candidate.1.reworkCount) ++
      candidates.filter (fun candidate => candidate.1.reworkCount = 0)).Subperm candidates := by
    have partition := List.filter_append_perm
      (fun candidate : Placed => decide (0 < candidate.1.reworkCount)) candidates
    refine List.Subperm.trans (List.Sublist.subperm ?_) partition.subperm
    refine (List.Sublist.refl _).append (List.monotone_filter_right _ fun candidate fresh => ?_)
    simp only [decide_eq_true_eq] at fresh
    simp [fresh]
  unfold boundedReworkOrder
  dsimp only
  cases candidates with
  | nil => exact List.Subperm.refl []
  | cons first rest =>
      dsimp only
      split_ifs
      · exact List.Subperm.refl _
      · exact (takeTurns_perm _ _).subperm.trans split
      · exact (takeTurns_perm _ _).subperm.trans (List.perm_append_comm.subperm.trans split)

theorem candidates_subperm (input : NormalizedInput) (stage : String) (ready : List Stage) :
    (input.candidates stage ready).Subperm
      (input.taskViews.zipIdx.filter fun candidate => candidate.1.stage ∈ ready) := by
  unfold NormalizedInput.candidates
  dsimp only
  split_ifs
  · exact boundedReworkOrder_subperm _
  · exact List.Subperm.refl _

/-- The views of the candidates of a stage. -/
theorem candidates_views_subperm (input : NormalizedInput) (stage : String) (ready : List Stage) :
    ((input.candidates stage ready).map Prod.fst).Subperm
      (input.taskViews.filter fun view => view.stage ∈ ready) := by
  obtain ⟨kept, perm, among⟩ := candidates_subperm input stage ready
  refine ⟨kept.map Prod.fst, perm.map Prod.fst, ?_⟩
  have filtered : input.taskViews.filter (fun view => view.stage ∈ ready) =
      (input.taskViews.zipIdx.filter fun candidate => candidate.1.stage ∈ ready).map Prod.fst := by
    conv_lhs => rw [← List.zipIdx_map_fst 0 input.taskViews]
    rw [List.filter_map]
    rfl
  rw [filtered]
  exact among.map Prod.fst

theorem dispatched_stage (input : NormalizedInput) {stage : String} {pool : Pool}
    (found : input.policy.pools.get? stage = some pool) (ready : List Stage) :
    Dispatched (input.limits stage pool) input.busyRoles (input.candidates stage ready)
      (input.dispatchStage stage ready) := by
  rw [NormalizedInput.dispatchStage, found]
  exact dispatched_loop _ _ _

theorem readyStages_cases {name : String} {stage : Stage} (member : stage ∈ readyStages name) :
    (name = "verify" ∧ stage = .verifyReady) ∨
      (name = "acceptance_review" ∧ stage = .acceptanceReviewReady) ∨
      (name = "impl" ∧ (stage = .implReady ∨ stage = .implReworkReady)) := by
  unfold readyStages dispatchOrder at member
  by_cases verify : name = "verify"
  · subst verify
    exact Or.inl ⟨rfl, by simpa [Dict.find] using member⟩
  by_cases review : name = "acceptance_review"
  · subst review
    exact Or.inr (Or.inl ⟨rfl, by simpa [Dict.find] using member⟩)
  by_cases impl : name = "impl"
  · subst impl
    exact Or.inr (Or.inr ⟨rfl, by simpa [Dict.find] using member⟩)
  · simp [Dict.find, Ne.symm verify, Ne.symm review, Ne.symm impl] at member

/-- A stage is served by one dispatch loop only. -/
theorem readyStages_inj {name other : String} {stage : Stage} (first : stage ∈ readyStages name)
    (second : stage ∈ readyStages other) : name = other := by
  rcases readyStages_cases first with ⟨rfl, rfl⟩ | ⟨rfl, rfl⟩ | ⟨rfl, rfl | rfl⟩ <;>
    rcases readyStages_cases second with ⟨rfl, same⟩ | ⟨rfl, same⟩ | ⟨rfl, same | same⟩ <;>
    first
    | rfl
    | cases same

theorem taskRow_ok {raw : Json} {row : TaskRow} (read : taskRow raw = .ok row) :
    row.id = rawTaskId raw ∧ row.entryMode = taskPipelineEntryMode raw := by
  unfold taskRow at read
  dsimp only at read
  split at read
  · cases read
  · cases read
  · have same := Except.ok.inj read
    exact ⟨by rw [← same], by rw [← same]⟩

theorem rows_ids {tasks : List Json} {rows : List TaskRow}
    (read : tasks.mapM taskRow = .ok rows) : rows.map TaskRow.id = tasks.map rawTaskId := by
  have related := (Fallible.mapM_eq_ok_iff taskRow tasks rows).mp read
  induction related with
  | nil => rfl
  | cons first _ ih =>
      have rest := ih ((Fallible.mapM_eq_ok_iff taskRow _ _).mpr ‹_›)
      rw [List.map_cons, List.map_cons, (taskRow_ok first).1, rest]

theorem taskViews_ids (input : NormalizedInput) :
    input.taskViews.map TaskView.taskId = input.openTasks.map TaskRow.id := by
  rw [NormalizedInput.taskViews, List.map_map]
  refine List.map_congr_left fun task _ => ?_
  simp only [Function.comp_apply, taskView]
  split_ifs <;> rfl

/-- The views of a pass have distinct ids when its tasks have. -/
theorem taskViews_nodup (input : ReconcileInput) {rows : List TaskRow}
    (distinct : (rows.map TaskRow.id).Nodup) :
    ((normalize input rows).taskViews.map TaskView.taskId).Nodup := by
  rw [taskViews_ids]
  have sorted : ((sortedBy taskOrder rows).map TaskRow.id).Nodup :=
    ((sortedBy_perm taskOrder rows).map TaskRow.id).nodup_iff.mpr distinct
  exact sorted.sublist (List.filter_sublist.map TaskRow.id)

/-- The dispatch loops change neither the ids nor the stages of the views. -/
theorem finalViews_keys (input : NormalizedInput) :
    input.finalViews.map (fun view => (view.taskId, view.stage)) =
      input.taskViews.map fun view => (view.taskId, view.stage) := by
  unfold NormalizedInput.finalViews
  dsimp only
  rw [List.map_map]
  conv_rhs => rw [← List.zipIdx_map_fst 0 input.taskViews, List.map_map]
  refine List.map_congr_left fun placed _ => ?_
  simp only [Function.comp_apply]
  split <;> rfl

/-- The assignments of a plan over all stages. -/
def Projection.assignments (projection : Projection) : List Assignment :=
  projection.dispatchable.values.flatten

/-- The assignments of tasks that have no implementation yet. -/
def Projection.freshAssignments (projection : Projection) (assignments : List Assignment) :
    List Assignment :=
  assignments.filter fun assignment => projection.tasks.any fun view =>
    decide (view.taskId = assignment.taskId ∧ view.stage = .implReady)

/-- The plan of one stage respects the pool of the stage. -/
structure StageSafe (input : ReconcileInput) (rows : List TaskRow) (pool : Pool) (occupancy : Int)
    (assignments : List Assignment) : Prop where
  withinCapacity : (assignments.length : Int) ≤ max 0 (pool.capacity - occupancy)
  members : ∀ assignment ∈ assignments, assignment.roleInstance ∈ pool.roleInstances
  covers : ∀ assignment ∈ assignments, ∃ row ∈ rows, row.id = assignment.taskId ∧
    pool.Covers assignment.roleInstance row.requiredCapabilities
  idle : ∀ assignment ∈ assignments, ∀ attempt ∈ input.attempts,
    attempt.textAt "status" ∈ activeAttemptStatuses →
      attempt.textAt "instance_id" ≠ assignment.roleInstance
  distinctRoles : (assignments.map Assignment.roleInstance).Nodup

structure PlanSafe (input : ReconcileInput) (rows : List TaskRow) (projection : Projection) :
    Prop where
  stages : ∀ stage assignments, projection.dispatchable.get? stage = some assignments →
    ∃ pool occupancy, input.policy.pools.get? stage = some pool ∧
      projection.occupancy.pools.get? stage = some occupancy ∧
      StageSafe input rows pool occupancy assignments
  distinctTasks : (projection.assignments.map Assignment.taskId).Nodup
  pipelines : ∀ assignments, projection.dispatchable.get? "impl" = some assignments →
    ((projection.freshAssignments assignments).length : Int) ≤
      max 0 (input.policy.maxActiveTaskPipelines - projection.occupancy.activeTaskIds.length)
  backpressure : ∀ assignments, projection.dispatchable.get? "impl" = some assignments →
    (input.policy.backpressure.maxUnverifiedTasks ≤ projection.backpressure.unverifiedCount ∨
      input.policy.backpressure.maxIntegrationQueue ≤
        projection.backpressure.integrationQueueCount) →
    projection.freshAssignments assignments = []

section Pass

variable {input : ReconcileInput} {rows : List TaskRow}

theorem mem_busyRoles {attempt : Json} (member : attempt ∈ input.attempts)
    (active : attempt.textAt "status" ∈ activeAttemptStatuses)
    (named : attempt.textAt "instance_id" ≠ "") :
    attempt.textAt "instance_id" ∈ (normalize input rows).busyRoles := by
  rw [NormalizedInput.busyRoles, nonempty, List.mem_filter]
  refine ⟨List.mem_map_of_mem ?_, by simpa using named⟩
  rw [NormalizedInput.activeAttempts, List.mem_filter]
  exact ⟨(mem_sortedBy _ _ _).mpr member, by simpa using active⟩

theorem role_ne_empty {pool : Pool} {role : String} (member : role ∈ pool.roles) : role ≠ "" := by
  rw [Pool.roles, mem_sortedSet, nonempty, List.mem_filter] at member
  simpa using member.2

theorem mem_rows_of_mem_taskViews {view : TaskView}
    (member : view ∈ (normalize input rows).taskViews) :
    ∃ row ∈ rows, row.id = view.taskId ∧ row.requiredCapabilities = view.requiredCapabilities := by
  obtain ⟨row, openRow, rfl⟩ := List.mem_map.mp member
  refine ⟨row, (mem_sortedBy _ _ _).mp (List.mem_filter.mp openRow).1, ?_⟩
  simp only [taskView]
  split_ifs <;> exact ⟨rfl, rfl⟩

theorem stageSafe {stage : String} {pool : Pool}
    (found : input.policy.pools.get? stage = some pool) (ready : List Stage) :
    StageSafe input rows pool ((normalize input rows).poolOccupancy stage pool)
      ((normalize input rows).dispatchStage stage ready).assignments := by
  have dispatched : Dispatched _ _ _ ((normalize input rows).dispatchStage stage ready) :=
    dispatched_stage _ found ready
  obtain ⟨chosen, among, serves, _⟩ := dispatched.served
  have origin (assignment : Assignment)
      (member : assignment ∈ ((normalize input rows).dispatchStage stage ready).assignments) :
      ∃ candidate ∈ chosen, Serves ((normalize input rows).limits stage pool) candidate
        assignment := Lists.exists_mem_of_forall₂ serves member
  constructor
  · have within := dispatched.withinCapacity
    simp only [NormalizedInput.limits, NormalizedInput.available] at within
    omega
  · intro assignment member
    obtain ⟨candidate, _, served⟩ := origin assignment member
    exact mem_roleInstances_of_mem_roles served.inPool
  · intro assignment member
    obtain ⟨candidate, chosenMember, served⟩ := origin assignment member
    have viewed : candidate.1 ∈ (normalize input rows).taskViews :=
      (List.mem_filter.mp ((candidates_views_subperm _ stage ready).subset
        (List.mem_map_of_mem (among.subset chosenMember)))).1
    obtain ⟨row, present, sameId, capabilities⟩ := mem_rows_of_mem_taskViews viewed
    refine ⟨row, present, ?_, capabilities ▸ served.covers⟩
    rw [served.made]
    exact sameId
  · intro assignment member attempt attempted active same
    obtain ⟨candidate, _, served⟩ := origin assignment member
    have named : attempt.textAt "instance_id" ≠ "" := same ▸ role_ne_empty served.inPool
    exact dispatched.idle assignment member (same ▸ mem_busyRoles attempted active named)
  · exact dispatched.distinctRoles

/-- The tasks of one stage of the plan are some of those that are ready for it. -/
theorem assigned_subperm (name : String) (ready : List Stage) :
    (((normalize input rows).dispatchStage name ready).assignments.map
      Assignment.taskId).Subperm
      (((normalize input rows).taskViews.filter fun view => view.stage ∈ ready).map
        TaskView.taskId) := by
  cases found : (normalize input rows).policy.pools.get? name with
  | none =>
      rw [NormalizedInput.dispatchStage, found]
      exact List.nil_subperm
  | some pool =>
      obtain ⟨chosen, among, serves, _⟩ := (dispatched_stage _ found ready).served
      have ids : ((normalize input rows).dispatchStage name ready).assignments.map
          Assignment.taskId = (chosen.map Prod.fst).map TaskView.taskId := by
        rw [List.map_map, eq_comm, ← List.forall₂_eq_eq_eq, List.forall₂_map_left_iff,
          List.forall₂_map_right_iff]
        refine serves.imp fun candidate assignment served => ?_
        rw [served.made]
        rfl
      rw [ids]
      refine Lists.subperm_map TaskView.taskId ?_
      exact (among.map Prod.fst).subperm.trans (candidates_views_subperm _ name ready)

/-- No task is assigned twice, within a stage or in two of them. -/
theorem assigned_nodup (input : ReconcileInput) (distinct : (rows.map TaskRow.id).Nodup)
    (names : List String)
    (namesDistinct : names.Nodup) :
    ((names.map fun name => ((normalize input rows).dispatchStage name
      (readyStages name)).assignments).flatten.map Assignment.taskId).Nodup := by
  have viewsDistinct := taskViews_nodup input distinct
  rw [List.map_flatten, List.map_map, List.nodup_flatten]
  constructor
  · intro ids member
    obtain ⟨name, _, rfl⟩ := List.mem_map.mp member
    refine Lists.nodup_of_subperm (assigned_subperm name (readyStages name)) ?_
    exact viewsDistinct.sublist (List.filter_sublist.map TaskView.taskId)
  · rw [List.pairwise_map]
    refine namesDistinct.imp_of_mem fun {name other} _ _ different taskId first second => ?_
    obtain ⟨view, viewed, sameId⟩ :=
      List.mem_map.mp ((assigned_subperm name (readyStages name)).subset first)
    obtain ⟨twin, twinViewed, twinId⟩ :=
      List.mem_map.mp ((assigned_subperm other (readyStages other)).subset second)
    rw [List.mem_filter] at viewed twinViewed
    have same : view = twin :=
      List.inj_on_of_nodup_map viewsDistinct viewed.1 twinViewed.1 (sameId.trans twinId.symm)
    subst same
    exact different (readyStages_inj (by simpa using viewed.2) (by simpa using twinViewed.2))

/-- The fresh assignments of the implementation stage are those that its loop has counted. -/
theorem freshAssignments_length (distinct : (rows.map TaskRow.id).Nodup) {pool : Pool}
    (found : input.policy.pools.get? "impl" = some pool) (digests : Digests) :
    (((normalize input rows).plan digests).freshAssignments
      ((normalize input rows).dispatchStage "impl" (readyStages "impl")).assignments).length =
      ((normalize input rows).dispatchStage "impl" (readyStages "impl")).freshCount := by
  have viewsDistinct := taskViews_nodup input distinct
  obtain ⟨chosen, among, serves, count⟩ :=
    (dispatched_stage (normalize input rows) found (readyStages "impl")).served
  have viewed (candidate : Placed) (member : candidate ∈ chosen) :
      candidate.1 ∈ (normalize input rows).taskViews :=
    (List.mem_filter.mp ((candidates_views_subperm _ "impl" (readyStages "impl")).subset
      (List.mem_map_of_mem (among.subset member)))).1
  rw [count, DispatchLimits.freshOnes, Projection.freshAssignments]
  refine (List.Forall₂.length_eq (List.rel_filter ?_
    ((List.forall₂_and_left _ _).mpr ⟨viewed, serves⟩))).symm
  rintro candidate assignment ⟨present, served⟩
  have sameId : assignment.taskId = candidate.1.taskId := by rw [served.made]; rfl
  have keys : ∀ taskId stage, (∃ view ∈ (normalize input rows).finalViews,
      view.taskId = taskId ∧ view.stage = stage) ↔
      ∃ view ∈ (normalize input rows).taskViews, view.taskId = taskId ∧ view.stage = stage := by
    intro taskId stage
    have same := congrArg (fun pairs => (taskId, stage) ∈ pairs)
      (finalViews_keys (normalize input rows))
    simpa using same
  simp only [NormalizedInput.plan, List.any_eq_true, decide_eq_true_eq, keys, sameId,
    DispatchLimits.isFresh, NormalizedInput.limits, true_and]
  constructor
  · intro ready
    exact ⟨candidate.1, present, rfl, ready⟩
  · rintro ⟨view, other, same, ready⟩
    rw [← List.inj_on_of_nodup_map viewsDistinct other present same]
    exact ready

end Pass

/-- The assignments of a stage are those of its dispatch loop. -/
theorem plan_get? (digests : Digests) (input : NormalizedInput) (stage : String) :
    (input.plan digests).dispatchable.get? stage = (input.policy.pools.get? stage).map fun _ =>
      (input.dispatchStage stage (readyStages stage)).assignments :=
  Dict.find_map (fun name _ => (input.dispatchStage name (readyStages name)).assignments) stage
    input.policy.pools.entries

theorem plan_dispatchable (digests : Digests) {input : NormalizedInput} {stage : String}
    {assignments : List Assignment}
    (listed : (input.plan digests).dispatchable.get? stage = some assignments) :
    ∃ pool, input.policy.pools.get? stage = some pool ∧
      (input.dispatchStage stage (readyStages stage)).assignments = assignments :=
  Option.map_eq_some_iff.mp ((plan_get? digests input stage).symm.trans listed)

/-- For every policy and every input with distinct task ids, the plan of a pass
respects the pools, the idle roles, the pipelines and the backpressure limits. -/
theorem plan_capacity_safe {digests : Digests} {input : ReconcileInput} {projection : Projection}
    (distinct : (input.tasks.map rawTaskId).Nodup)
    (planned : reconcile digests input = .ok projection) :
    ∃ rows, input.tasks.mapM taskRow = .ok rows ∧ PlanSafe input rows projection := by
  obtain ⟨rows, read, rfl⟩ := reconcile_ok planned
  have rowsDistinct : (rows.map TaskRow.id).Nodup := by rwa [rows_ids read]
  refine ⟨rows, read, ?_, ?_, ?_, ?_⟩
  · intro stage assignments listed
    obtain ⟨pool, found, rfl⟩ := plan_dispatchable digests listed
    refine ⟨pool, (normalize input rows).poolOccupancy stage pool, found, ?_, stageSafe found _⟩
    refine (Dict.find_map (normalize input rows).poolOccupancy stage _).trans ?_
    exact Option.map_eq_some_iff.mpr ⟨pool, found, rfl⟩
  · have names := assigned_nodup input rowsDistinct input.policy.pools.keys
      input.policy.pools.nodupKeys
    rw [Projection.assignments, Dict.values]
    simpa [NormalizedInput.plan, normalize, Dict.keys, Function.comp_def] using names
  · intro assignments listed
    obtain ⟨pool, found, rfl⟩ := plan_dispatchable digests listed
    have within := (dispatched_stage (normalize input rows) found
      (readyStages "impl")).withinPipelines
    rw [← freshAssignments_length rowsDistinct found digests] at within
    simp only [NormalizedInput.limits, NormalizedInput.globalAvailable, le_max_left,
      max_eq_right] at within
    exact within
  · intro assignments listed reached
    obtain ⟨pool, found, rfl⟩ := plan_dispatchable digests listed
    have none := (dispatched_stage (normalize input rows) found
      (readyStages "impl")).withinPressure ?_
    · rw [← freshAssignments_length rowsDistinct found digests] at none
      exact List.length_eq_zero_iff.mp none
    · simp only [NormalizedInput.limits, Bool.or_eq_true, NormalizedInput.unverifiedBlocked,
        NormalizedInput.integrationBlocked, decide_eq_true_eq]
      exact reached

/-- Two new tasks and one worker. -/
def contendedInput : ReconcileInput where
  policy :=
    { maxActiveTaskPipelines := 2
      pools := Dict.ofEntries [("impl", { capacity := 1, roleInstances := ["dev-1"] })]
      backpressure := ⟨1, 1⟩ }
  tasks := [.obj [("id", .str "T1")], .obj [("id", .str "T2")]]
  operations := []
  attempts := []

theorem contended_plan_safe :
    ∃ projection, reconcile sampleDigests contendedInput = .ok projection ∧
      projection.assignments = [⟨"T1", "impl", "dev-1", 1, none⟩] ∧
      ∃ rows, contendedInput.tasks.mapM taskRow = .ok rows ∧
        PlanSafe contendedInput rows projection := by
  have assigned : (reconcile sampleDigests contendedInput).toOption.map Projection.assignments =
      some [⟨"T1", "impl", "dev-1", 1, none⟩] := by
    decide +kernel
  obtain ⟨projection, planned, assignments⟩ := Fallible.ok_of_toOption_map assigned
  exact ⟨projection, planned, assignments, plan_capacity_safe (by decide +kernel) planned⟩

end ZaofuFormal.Pipeline
