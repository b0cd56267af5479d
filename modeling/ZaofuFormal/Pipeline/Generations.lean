import ZaofuFormal.Foundation.Runs
import ZaofuFormal.Pipeline.DispatchPlan

/-!
# Generations over whole runs

An operation of a task is created at the generation that the plan gives.  A
rejected verification, a review that asks for a revision and a request of the
TaskRef gate each lead to a further generation of the implementation, with a
bound check on a counter of its own.  The counters are linked: no verification
is ahead of the implementations of its task, and so every generation stays
within the bound.
-/

namespace ZaofuFormal.Pipeline

open Foundation Foundation.Runs Foundation.Sorting

/-! ## The generation of a ready stage -/

/-- The ways in which a stage becomes ready, each with its generation. -/
inductive ReadyAt (mode : EntryMode) (current : CurrentOperations) (policy : Policy) :
    Stage → Int → Prop
  | firstImpl (standard : mode = .standard) (unstarted : current.get? "impl" = none) :
      ReadyAt mode current policy .implReady 1
  | sameImpl {impl : PipelineOperation} (found : current.get? "impl" = some impl) :
      ReadyAt mode current policy .implReady impl.currentGeneration
  | requestedImpl {impl : PipelineOperation} (found : current.get? "impl" = some impl)
      (allowed : impl.currentGeneration ≤ policy.maxReworkAttempts) :
      ReadyAt mode current policy .implReworkReady (impl.currentGeneration + 1)
  | rejectedImpl {impl verify : PipelineOperation} (found : current.get? "impl" = some impl)
      (verified : current.get? "verify" = some verify)
      (recent : impl.currentGeneration ≤ verify.currentGeneration)
      (allowed : verify.currentGeneration ≤ policy.maxReworkAttempts) :
      ReadyAt mode current policy .implReworkReady (verify.currentGeneration + 1)
  | revisedImpl {impl verify : PipelineOperation} (found : current.get? "impl" = some impl)
      (verified : current.get? "verify" = some verify)
      (recent : impl.currentGeneration ≤ verify.currentGeneration)
      (allowed : verifiedGeneration verify.currentGeneration ≤ policy.maxReworkAttempts) :
      ReadyAt mode current policy .implReworkReady (verifiedGeneration verify.currentGeneration + 1)
  | firstVerify (unverified : current.get? "verify" = none) :
      ReadyAt mode current policy .verifyReady 1
  | verifyImpl {impl : PipelineOperation} (found : current.get? "impl" = some impl) :
      ReadyAt mode current policy .verifyReady impl.currentGeneration
  | sameVerify {verify : PipelineOperation} (found : current.get? "verify" = some verify) :
      ReadyAt mode current policy .verifyReady verify.currentGeneration
  | reviewVerify {verify : PipelineOperation} (found : current.get? "verify" = some verify)
      (enabled : policy.integrationAdmission.riskReview.enabled = true) :
      ReadyAt mode current policy .acceptanceReviewReady
        (verifiedGeneration verify.currentGeneration)
  | reviewGate (enabled : policy.integrationAdmission.riskReview.enabled = true) :
      ReadyAt mode current policy .acceptanceReviewReady 1

/-- The stages for which the plan makes assignments. -/
def assignableStages : List Stage :=
  [.implReady, .implReworkReady, .verifyReady, .acceptanceReviewReady]

theorem rework_stage {policy : Policy} {generation : Int}
    (ready : (Derived.rework policy generation).stage ∈ assignableStages) :
    generation ≤ policy.maxReworkAttempts ∧
      Derived.rework policy generation = ⟨.implReworkReady, generation + 1, generation⟩ := by
  unfold Derived.rework at ready ⊢
  split at ready
  · rename_i allowed
    exact ⟨allowed, if_pos allowed⟩
  · simp [assignableStages] at ready

section Derivation

variable {current : CurrentOperations} {task : TaskRow} {policy : Policy}

theorem deriveIntegration_not_assignable (current : CurrentOperations) (verifyGeneration : Int) :
    (deriveIntegration current verifyGeneration).stage ∉ assignableStages := by
  rcases deriveIntegration_cases current verifyGeneration with ⟨member, _⟩ | ⟨member, _⟩ <;>
    · intro ready
      simp only [List.mem_cons, List.not_mem_nil, or_false] at member
      rcases member with same | same <;> rw [same] at ready <;> simp [assignableStages] at ready

theorem enabled_of_reviewReady {generation : Int} {allowImplRework : Bool}
    (ready : (derivePostVerificationStage current task policy generation allowImplRework).stage =
      .acceptanceReviewReady) :
    policy.integrationAdmission.riskReview.enabled = true := by
  unfold derivePostVerificationStage at ready
  dsimp only at ready
  split at ready
  · cases ready
  split at ready
  · split at ready
    · rename_i configured
      simp only [reviewConfigured, Bool.and_eq_true] at configured
      exact configured.1.1
    · cases ready
  · refine absurd ?_ (deriveIntegration_not_assignable current (verifiedGeneration generation))
    rw [ready]
    decide

/-- After a verification, only a review or a rework can be ready. -/
theorem derivePostVerificationStage_ready {generation : Int} {allowImplRework : Bool}
    (ready : (derivePostVerificationStage current task policy generation
      allowImplRework).stage ∈ assignableStages) :
    (policy.integrationAdmission.riskReview.enabled = true ∧
      derivePostVerificationStage current task policy generation allowImplRework =
        .at .acceptanceReviewReady (verifiedGeneration generation)) ∨
      allowImplRework = true ∧ verifiedGeneration generation ≤ policy.maxReworkAttempts ∧
        derivePostVerificationStage current task policy generation allowImplRework =
          ⟨.implReworkReady, verifiedGeneration generation + 1, verifiedGeneration generation⟩ := by
  rcases derivePostVerificationStage_cases current task policy generation allowImplRework with
    ⟨same, _⟩ | ⟨allowed, same⟩ | ⟨stage, member, same⟩
  · rw [same] at ready
    exact absurd ready (deriveIntegration_not_assignable current _)
  · rw [same] at ready ⊢
    exact Or.inr ⟨allowed, rework_stage ready⟩
  · rw [same] at ready ⊢
    simp only [List.mem_cons, List.not_mem_nil, or_false] at member
    rcases member with rfl | rfl | rfl | rfl | rfl
    · simp [Derived.at, assignableStages] at ready
    · exact Or.inl ⟨enabled_of_reviewReady (congrArg Derived.stage same), rfl⟩
    · simp [Derived.at, assignableStages] at ready
    · simp [Derived.at, assignableStages] at ready
    · simp [Derived.at, assignableStages] at ready

theorem deriveVerifyOnlyStage_ready
    (ready : (deriveVerifyOnlyStage current task policy).stage ∈ assignableStages) :
    ReadyAt .verifyOnly current policy (deriveVerifyOnlyStage current task policy).stage
      (deriveVerifyOnlyStage current task policy).nextGeneration := by
  unfold deriveVerifyOnlyStage at ready ⊢
  cases found : current.get? "verify" with
  | none => exact .firstVerify found
  | some verify =>
      rw [found] at ready
      dsimp only at ready ⊢
      rcases deriveVerification_cases verify (.at .blocked verify.currentGeneration) with
        ⟨passes, _⟩ | stops | ⟨stage, member, stops⟩
      · rw [passes, Option.getD_none] at ready ⊢
        rcases derivePostVerificationStage_ready ready with ⟨enabled, same⟩ | ⟨impossible, _⟩
        · rw [same]
          exact .reviewVerify found enabled
        · cases impossible
      · rw [stops] at ready
        simp [Derived.at, assignableStages] at ready
      · rw [stops, Option.getD_some] at ready ⊢
        simp only [List.mem_cons, List.not_mem_nil, or_false] at member
        rcases member with rfl | rfl | rfl
        · exact .sameVerify found
        · simp [Derived.at, assignableStages] at ready
        · simp [Derived.at, assignableStages] at ready

theorem deriveImplemented_ready {impl : PipelineOperation}
    (found : current.get? "impl" = some impl)
    (ready : (deriveImplemented current task policy impl.currentGeneration).stage ∈
      assignableStages) :
    ReadyAt .standard current policy (deriveImplemented current task policy impl.currentGeneration).stage
      (deriveImplemented current task policy impl.currentGeneration).nextGeneration := by
  unfold deriveImplemented at ready ⊢
  cases verified : current.get? "verify" with
  | none => exact .verifyImpl found
  | some verify =>
      rw [verified] at ready
      dsimp only at ready ⊢
      by_cases stale : verify.currentGeneration < impl.currentGeneration
      · rw [if_pos stale]
        exact .verifyImpl found
      rw [if_neg stale] at ready ⊢
      have recent := not_lt.mp stale
      rcases deriveVerification_cases verify (.rework policy verify.currentGeneration) with
        ⟨passes, _⟩ | stops | ⟨stage, member, stops⟩
      · rw [passes, Option.getD_none] at ready ⊢
        rcases derivePostVerificationStage_ready ready with
          ⟨enabled, same⟩ | ⟨_, allowed, same⟩
        · rw [same]
          exact .reviewVerify verified enabled
        · rw [same]
          exact .revisedImpl found verified recent allowed
      · rw [stops, Option.getD_some] at ready ⊢
        obtain ⟨allowed, same⟩ := rework_stage ready
        rw [same]
        exact .rejectedImpl found verified recent allowed
      · rw [stops, Option.getD_some] at ready ⊢
        simp only [List.mem_cons, List.not_mem_nil, or_false] at member
        rcases member with rfl | rfl | rfl
        · exact .sameVerify verified
        · simp [Derived.at, assignableStages] at ready
        · simp [Derived.at, assignableStages] at ready

theorem deriveStage_ready {request : Option ReworkRequest}
    (ready : (deriveStage current task policy request).stage ∈ assignableStages) :
    ReadyAt .standard current policy (deriveStage current task policy request).stage
      (deriveStage current task policy request).nextGeneration := by
  unfold deriveStage at ready ⊢
  cases found : current.get? "impl" with
  | none => exact .firstImpl rfl found
  | some impl =>
      rw [found] at ready
      dsimp only at ready ⊢
      rcases deriveImplementation_cases impl with ⟨passes, _⟩ | ⟨stage, member, stops⟩
      · rw [passes, Option.getD_none] at ready ⊢
        split at ready
        · rename_i named
          rw [if_pos named]
          obtain ⟨allowed, same⟩ := rework_stage ready
          rw [same]
          exact .requestedImpl found allowed
        · rename_i unnamed
          rw [if_neg unnamed]
          exact deriveImplemented_ready found ready
      · rw [stops, Option.getD_some] at ready ⊢
        simp only [List.mem_cons, List.not_mem_nil, or_false] at member
        rcases member with rfl | rfl | rfl
        · exact .sameImpl found
        · simp [Derived.at, assignableStages] at ready
        · simp [Derived.at, assignableStages] at ready

theorem deriveEntryStage_ready {given : Surroundings}
    (ready : (deriveEntryStage current task given).stage ∈ assignableStages) :
    ReadyAt task.entryMode current given.policy (deriveEntryStage current task given).stage
      (deriveEntryStage current task given).nextGeneration := by
  unfold deriveEntryStage at ready ⊢
  cases mode : task.entryMode with
  | standard =>
      rw [mode] at ready
      exact deriveStage_ready ready
  | verifyOnly =>
      rw [mode] at ready
      exact deriveVerifyOnlyStage_ready ready
  | externalGate =>
      rw [mode] at ready
      rcases derivePostVerificationStage_ready ready with ⟨enabled, same⟩ | ⟨impossible, _⟩
      · dsimp only
        rw [same]
        exact .reviewGate enabled
      · cases impossible

end Derivation

/-! ## The operation that an assignment asks for -/

theorem mem_operationsOf {input : ReconcileInput} {rows : List TaskRow} {taskId : String}
    {operation : PipelineOperation} :
    operation ∈ (normalize input rows).operationsOf taskId ↔
      taskId ≠ "" ∧ operation ∈ input.operations ∧ operation.taskId = taskId := by
  unfold NormalizedInput.operationsOf
  split
  · rename_i blank
    simp [blank]
  · rename_i named
    simp [normalize, named]

/-- The current operations of a task in a pass. -/
abbrev currentOf (input : ReconcileInput) (rows : List TaskRow) (task : TaskRow) :
    CurrentOperations :=
  currentByStage (entryOperationStages task.entryMode) ((normalize input rows).operationsOf task.id)

theorem not_stopped_of_assignable {stage : Stage} (ready : stage ∈ assignableStages) :
    stage ∉ stoppedStages := by
  revert ready
  cases stage <;> decide

/-- A view that is ready for an assignment was derived from the current operations. -/
theorem taskView_ready {input : ReconcileInput} {rows : List TaskRow} {task : TaskRow}
    (ready : (taskView task ((normalize input rows).surroundings task)).stage ∈
      assignableStages) :
    ReadyAt task.entryMode (currentOf input rows task) input.policy
      (taskView task ((normalize input rows).surroundings task)).stage
      (taskView task ((normalize input rows).surroundings task)).nextOperationGeneration := by
  obtain ⟨_, _, stage, generation⟩ := taskView_derived (not_stopped_of_assignable ready)
  rw [stage] at ready
  rw [stage, generation]
  exact deriveEntryStage_ready ready

theorem readyStages_assignable {name : String} {stage : Stage} (member : stage ∈ readyStages name) :
    stage ∈ assignableStages := by
  rcases readyStages_cases member with ⟨_, rfl⟩ | ⟨_, rfl⟩ | ⟨_, rfl | rfl⟩ <;>
    simp [assignableStages]

variable {digests : Digests}

/-- The view that an assignment was made from. -/
theorem assignment_view {input : ReconcileInput} {projection : Projection}
    (planned : reconcile digests input = .ok projection) {assignment : Assignment}
    (member : assignment ∈ projection.assignments) :
    ∃ rows, input.tasks.mapM taskRow = .ok rows ∧ ∃ task ∈ rows,
      task.id = assignment.taskId ∧
      (taskView task ((normalize input rows).surroundings task)).stage ∈
        readyStages assignment.stage ∧
      (taskView task ((normalize input rows).surroundings task)).nextOperationGeneration =
        assignment.operationGeneration := by
  obtain ⟨rows, read, rfl⟩ := reconcile_ok planned
  rw [Projection.assignments, List.mem_flatten] at member
  obtain ⟨assignments, listed, member⟩ := member
  obtain ⟨name, entry⟩ := (Dict.mem_values_iff _ _).mp listed
  obtain ⟨pool, found, rfl⟩ := plan_dispatchable digests entry
  obtain ⟨chosen, among, serves, _⟩ :=
    (dispatched_stage (normalize input rows) found (readyStages name)).served
  obtain ⟨candidate, chosenMember, served⟩ := Lists.exists_mem_of_forall₂ serves member
  obtain ⟨viewed, ready⟩ := List.mem_filter.mp ((candidates_views_subperm _ name
    (readyStages name)).subset (List.mem_map_of_mem (among.subset chosenMember)))
  rw [decide_eq_true_eq] at ready
  obtain ⟨task, openTask, same⟩ := List.mem_map.mp viewed
  refine ⟨rows, read, task, (mem_sortedBy _ _ _).mp (List.mem_filter.mp openTask).1, ?_, ?_, ?_⟩
  · rw [served.made, DispatchLimits.assign, ← same]
    simp only [taskView]
    split_ifs <;> rfl
  · rw [served.made, same]
    exact ready
  · rw [served.made, DispatchLimits.assign, same]

/-- An assignment is made at the generation at which its stage is ready. -/
theorem assignment_ready {input : ReconcileInput} {projection : Projection}
    (planned : reconcile digests input = .ok projection) {assignment : Assignment}
    (member : assignment ∈ projection.assignments) :
    ∃ rows task stage, task.id = assignment.taskId ∧ stage ∈ readyStages assignment.stage ∧
      ReadyAt task.entryMode (currentOf input rows task) input.policy stage
        assignment.operationGeneration := by
  obtain ⟨rows, _, task, _, sameId, ready, generation⟩ := assignment_view planned member
  refine ⟨rows, task, _, sameId, ready, ?_⟩
  rw [← generation]
  exact taskView_ready (readyStages_assignable ready)

/-! ## Runs -/

/-- The stages whose operations are created from assignments. -/
def plannedStages : List String := ["impl", "verify", "acceptance_review"]

/-- What happens to the operations of a project: a pass whose plan is carried
out, an operation of another stage, or a change of what the operations report. -/
inductive GenerationStep where
  | pass (input : ReconcileInput) (created : List PipelineOperation)
  | unplanned (operation : PipelineOperation)
  | update (change : PipelineOperation → PipelineOperation)

def GenerationStep.apply (operations : List PipelineOperation) :
    GenerationStep → List PipelineOperation
  | pass _ created => operations ++ created
  | unplanned operation => operations ++ [operation]
  | update change => operations.map change

/-- The operation is created for an assignment, at its stage and generation. -/
def CreatedFrom (projection : Projection) (operation : PipelineOperation) : Prop :=
  ∃ assignment ∈ projection.assignments, operation.taskId = assignment.taskId ∧
    operationStage operation = assignment.stage ∧
    operation.generation = assignment.operationGeneration

/-- A change keeps what identifies an operation. -/
structure SameOperation (changed operation : PipelineOperation) : Prop where
  taskId : changed.taskId = operation.taskId
  operationId : changed.operationId = operation.operationId
  stage : operationStage changed = operationStage operation
  generation : changed.generation = operation.generation

/-- Every pass plans with the given bound on the operations of that moment; its
other inputs are arbitrary. -/
def GenerationStep.Allowed (digests : Digests) (bound : Int)
    (operations : List PipelineOperation) : GenerationStep → Prop
  | pass input created => input.policy.maxReworkAttempts = bound ∧
      ∃ projection, reconcile digests { input with operations } = .ok projection ∧
        ∀ operation ∈ created, CreatedFrom projection operation
  | unplanned operation => operationStage operation ∉ plannedStages
  | update change => ∀ operation ∈ operations, SameOperation (change operation) operation

/-- The link between the generations of a project. -/
structure Bounded (bound : Int) (operations : List PipelineOperation) : Prop where
  range : ∀ operation ∈ operations, operationStage operation ∈ plannedStages →
    1 ≤ operation.generation ∧ operation.generation ≤ bound + 1
  behind : ∀ verify ∈ operations, operationStage verify = "verify" →
    verify.generation ≤ 1 ∨ ∃ impl ∈ operations, operationStage impl = "impl" ∧
      impl.taskId = verify.taskId ∧ verify.generation ≤ impl.generation
  blank : ∀ operation ∈ operations, operationStage operation ∈ plannedStages →
    operation.taskId = "" → operation.generation = 1

/-- A new implementation follows those of its task one by one, and is not below a verification. -/
structure ImplFollows (operations : List PipelineOperation) (created : PipelineOperation) :
    Prop where
  aboveImpl : ∀ impl ∈ operations, operationStage impl = "impl" →
    impl.taskId = created.taskId → impl.generation ≤ created.generation
  aboveVerify : ∀ verify ∈ operations, operationStage verify = "verify" →
    verify.taskId = created.taskId → verify.generation ≤ created.generation
  next : created.generation = 1 ∨ ∃ impl ∈ operations, operationStage impl = "impl" ∧
    impl.taskId = created.taskId ∧ created.generation ≤ impl.generation + 1

theorem currentGeneration_eq {operation : PipelineOperation} (positive : 1 ≤ operation.generation) :
    operation.currentGeneration = operation.generation :=
  if_neg (by omega)

section Pass

variable {input : ReconcileInput} {rows : List TaskRow} {task : TaskRow} {stage : String}
  {operation : PipelineOperation} {bound : Int}

/-- A current operation of a task is one of the pass, of the highest generation of its stage. -/
theorem current_spec (found : (currentOf input rows task).get? stage = some operation) :
    operation ∈ input.operations ∧ operationStage operation = stage ∧
      operation.taskId = task.id ∧
      ∀ other ∈ input.operations, operationStage other = stage → other.taskId = task.id →
        other.currentGeneration ≤ operation.currentGeneration := by
  have highest := highest_of_current (mem_allowed_of_current found) found
  obtain ⟨named, present, sameTask⟩ := mem_operationsOf.mp highest.member
  refine ⟨present, highest.ofStage, sameTask, fun other listed ofStage ofTask => ?_⟩
  have below := highest.greatest other (mem_operationsOf.mpr ⟨named, listed, ofTask⟩) ofStage
  rcases (Prod.Lex.toLex_le_toLex).mp below with less | ⟨same, _⟩
  · exact le_of_lt less
  · exact le_of_eq same

theorem current_absent (admitted : stage ∈ entryOperationStages task.entryMode)
    (absent : (currentOf input rows task).get? stage = none) (named : task.id ≠ "")
    (present : operation ∈ input.operations) (ofTask : operation.taskId = task.id) :
    operationStage operation ≠ stage := by
  have noted := currentByStage_noted admitted ((normalize input rows).operationsOf task.id)
  rw [absent] at noted
  exact noted operation (mem_operationsOf.mpr ⟨named, present, ofTask⟩)

/-- The generations of a current operation that the plan has created. -/
theorem Bounded.current (bounded : Bounded bound input.operations)
    (planned : stage ∈ plannedStages)
    (found : (currentOf input rows task).get? stage = some operation) :
    operation.currentGeneration = operation.generation ∧ 1 ≤ operation.generation ∧
      operation.generation ≤ bound + 1 ∧ task.id ≠ "" ∧
      ∀ other ∈ input.operations, operationStage other = stage → other.taskId = task.id →
        other.generation ≤ operation.generation := by
  obtain ⟨present, ofStage, ofTask, greatest⟩ := current_spec found
  have highest := highest_of_current (mem_allowed_of_current found) found
  obtain ⟨low, high⟩ := bounded.range operation present (ofStage ▸ planned)
  have same := currentGeneration_eq low
  refine ⟨same, low, high, (mem_operationsOf.mp highest.member).1, ?_⟩
  intro other listed otherStage otherTask
  have below := greatest other listed otherStage otherTask
  obtain ⟨otherLow, _⟩ := bounded.range other listed (otherStage ▸ planned)
  rwa [same, currentGeneration_eq otherLow] at below

/-- The current verification is of the generation of the current implementation. -/
theorem Bounded.verify_eq_impl (bounded : Bounded bound input.operations)
    {impl verify : PipelineOperation} (found : (currentOf input rows task).get? "impl" = some impl)
    (verified : (currentOf input rows task).get? "verify" = some verify)
    (recent : impl.currentGeneration ≤ verify.currentGeneration) :
    verify.generation = impl.generation := by
  obtain ⟨sameImpl, implLow, _, _, greatest⟩ := bounded.current (by simp [plannedStages]) found
  obtain ⟨sameVerify, _⟩ := bounded.current (by simp [plannedStages]) verified
  obtain ⟨present, ofStage, ofTask, _⟩ := current_spec verified
  rw [sameImpl, sameVerify] at recent
  rcases bounded.behind verify present ofStage with low | ⟨other, listed, otherStage, otherTask, le⟩
  · omega
  · have below := greatest other listed otherStage (otherTask.trans ofTask)
    omega

theorem verifiedGeneration_eq {generation : Int} (positive : 1 ≤ generation) :
    verifiedGeneration generation = generation := by
  unfold verifiedGeneration
  split <;> omega

section Ready

variable {ready : Stage} {generation : Int}

/-- Every ready stage asks for a generation within the bound. -/
theorem Bounded.ready_range (bounded : Bounded bound input.operations) (nonneg : 0 ≤ bound)
    (limit : input.policy.maxReworkAttempts = bound)
    (readyAt : ReadyAt task.entryMode (currentOf input rows task) input.policy ready generation) :
    1 ≤ generation ∧ generation ≤ bound + 1 ∧ (task.id = "" → generation = 1) := by
  cases readyAt with
  | firstImpl _ _ => exact ⟨le_refl 1, by omega, fun _ => rfl⟩
  | firstVerify _ => exact ⟨le_refl 1, by omega, fun _ => rfl⟩
  | reviewGate _ => exact ⟨le_refl 1, by omega, fun _ => rfl⟩
  | sameImpl found | verifyImpl found | sameVerify found =>
      obtain ⟨same, low, high, named, _⟩ := bounded.current (by simp [plannedStages]) found
      rw [same]
      exact ⟨low, high, fun blank => absurd blank named⟩
  | reviewVerify found _ =>
      obtain ⟨same, low, high, named, _⟩ := bounded.current (by simp [plannedStages]) found
      rw [same, verifiedGeneration_eq low]
      exact ⟨low, high, fun blank => absurd blank named⟩
  | requestedImpl found allowed =>
      obtain ⟨same, low, _, named, _⟩ := bounded.current (by simp [plannedStages]) found
      rw [same] at allowed ⊢
      exact ⟨by omega, by omega, fun blank => absurd blank named⟩
  | rejectedImpl _ verified _ allowed =>
      obtain ⟨same, low, _, named, _⟩ := bounded.current (by simp [plannedStages]) verified
      rw [same] at allowed ⊢
      exact ⟨by omega, by omega, fun blank => absurd blank named⟩
  | revisedImpl _ verified _ allowed =>
      obtain ⟨same, low, _, named, _⟩ := bounded.current (by simp [plannedStages]) verified
      rw [same, verifiedGeneration_eq low] at allowed ⊢
      exact ⟨by omega, by omega, fun blank => absurd blank named⟩

/-- A generation that is the current implementation's, or the next one, follows it. -/
theorem Bounded.follows_current (bounded : Bounded bound input.operations)
    {impl created : PipelineOperation}
    (found : (currentOf input rows task).get? "impl" = some impl)
    (ofTask : created.taskId = task.id) (above : impl.generation ≤ created.generation)
    (next : created.generation ≤ impl.generation + 1) :
    ImplFollows input.operations created := by
  obtain ⟨_, low, _, _, greatest⟩ := bounded.current (by simp [plannedStages]) found
  obtain ⟨present, ofStage, implTask, _⟩ := current_spec found
  refine ⟨?_, ?_, Or.inr ⟨impl, present, ofStage, implTask.trans ofTask.symm, next⟩⟩
  · intro other listed otherStage otherTask
    exact (greatest other listed otherStage (otherTask.trans ofTask)).trans above
  · intro verify listed verifyStage verifyTask
    rcases bounded.behind verify listed verifyStage with first | ⟨other, present, stage, task, le⟩
    · omega
    · have below := greatest other present stage (task.trans (verifyTask.trans ofTask))
      omega

/-- A first implementation finds no other one, and no verification beyond the first. -/
theorem Bounded.follows_nothing (bounded : Bounded bound input.operations)
    {created : PipelineOperation} (standard : task.entryMode = .standard)
    (unstarted : (currentOf input rows task).get? "impl" = none)
    (ofTask : created.taskId = task.id) (first : created.generation = 1) :
    ImplFollows input.operations created := by
  have admitted : "impl" ∈ entryOperationStages task.entryMode := by
    simp [standard, entryOperationStages]
  have absent (named : task.id ≠ "") (impl : PipelineOperation)
      (listed : impl ∈ input.operations) (implTask : impl.taskId = created.taskId) :
      operationStage impl ≠ "impl" :=
    current_absent admitted unstarted named listed (implTask.trans ofTask)
  refine ⟨?_, ?_, Or.inl first⟩
  · intro impl listed implStage implTask
    by_cases blank : task.id = ""
    · have one := bounded.blank impl listed (by simp [implStage, plannedStages])
        (implTask.trans (ofTask.trans blank))
      omega
    · exact absurd implStage (absent blank impl listed implTask)
  · intro verify listed verifyStage verifyTask
    by_cases blank : task.id = ""
    · have one := bounded.blank verify listed (by simp [verifyStage, plannedStages])
        (verifyTask.trans (ofTask.trans blank))
      omega
    · rcases bounded.behind verify listed verifyStage with low | ⟨impl, present, stage, task, _⟩
      · omega
      · exact absurd stage (absent blank impl present (task.trans verifyTask))

theorem Bounded.ready_impl (bounded : Bounded bound input.operations)
    (readyAt : ReadyAt task.entryMode (currentOf input rows task) input.policy ready generation)
    (forImpl : ready = .implReady ∨ ready = .implReworkReady) {created : PipelineOperation}
    (ofTask : created.taskId = task.id) (atGeneration : created.generation = generation) :
    ImplFollows input.operations created := by
  cases readyAt with
  | firstImpl standard unstarted =>
      exact bounded.follows_nothing standard unstarted ofTask atGeneration
  | sameImpl found =>
      obtain ⟨same, _⟩ := bounded.current (by simp [plannedStages]) found
      exact bounded.follows_current found ofTask (by omega) (by omega)
  | requestedImpl found _ =>
      obtain ⟨same, _⟩ := bounded.current (by simp [plannedStages]) found
      exact bounded.follows_current found ofTask (by omega) (by omega)
  | rejectedImpl found verified recent _ =>
      obtain ⟨same, _⟩ := bounded.current (by simp [plannedStages]) verified
      have equal := bounded.verify_eq_impl found verified recent
      exact bounded.follows_current found ofTask (by omega) (by omega)
  | revisedImpl found verified recent _ =>
      obtain ⟨same, low, _⟩ := bounded.current (by simp [plannedStages]) verified
      have equal := bounded.verify_eq_impl found verified recent
      rw [same, verifiedGeneration_eq low] at atGeneration
      exact bounded.follows_current found ofTask (by omega) (by omega)
  | firstVerify _ | verifyImpl _ | sameVerify _ | reviewVerify _ _ | reviewGate _ =>
      rcases forImpl with same | same <;> cases same

/-- A new verification is not ahead of the implementations of its task. -/
theorem Bounded.ready_verify (bounded : Bounded bound input.operations)
    (readyAt : ReadyAt task.entryMode (currentOf input rows task) input.policy .verifyReady
      generation) :
    generation ≤ 1 ∨ ∃ impl ∈ input.operations, operationStage impl = "impl" ∧
      impl.taskId = task.id ∧ generation ≤ impl.generation := by
  cases readyAt with
  | firstVerify _ => exact Or.inl (le_refl 1)
  | verifyImpl found =>
      obtain ⟨same, _⟩ := bounded.current (by simp [plannedStages]) found
      obtain ⟨present, ofStage, ofTask, _⟩ := current_spec found
      exact Or.inr ⟨_, present, ofStage, ofTask, le_of_eq same⟩
  | sameVerify found =>
      obtain ⟨same, _⟩ := bounded.current (by simp [plannedStages]) found
      obtain ⟨present, ofStage, ofTask, _⟩ := current_spec found
      rw [same, ← ofTask]
      exact bounded.behind _ present ofStage

end Ready

/-- A pass keeps the link, and each implementation that it starts follows the earlier ones. -/
theorem Bounded.created (input : ReconcileInput) {digests : Digests} {projection : Projection}
    (bounded : Bounded bound input.operations) (nonneg : 0 ≤ bound)
    (limit : input.policy.maxReworkAttempts = bound)
    (planned : reconcile digests input = .ok projection)
    (origin : CreatedFrom projection operation) :
    (1 ≤ operation.generation ∧ operation.generation ≤ bound + 1) ∧
      (operation.taskId = "" → operation.generation = 1) ∧
      (operationStage operation = "impl" → ImplFollows input.operations operation) ∧
      (operationStage operation = "verify" → operation.generation ≤ 1 ∨
        ∃ impl ∈ input.operations, operationStage impl = "impl" ∧
          impl.taskId = operation.taskId ∧ operation.generation ≤ impl.generation) := by
  obtain ⟨assignment, member, ofTask, ofStage, atGeneration⟩ := origin
  obtain ⟨rows, task, ready, sameTask, served, readyAt⟩ := assignment_ready planned member
  rw [← atGeneration] at readyAt
  have sameId : operation.taskId = task.id := ofTask.trans sameTask.symm
  obtain ⟨low, high, blank⟩ := bounded.ready_range nonneg limit readyAt
  refine ⟨⟨low, high⟩, fun empty => blank (sameId ▸ empty), ?_, ?_⟩
  · intro forImpl
    refine bounded.ready_impl readyAt ?_ sameId rfl
    rcases readyStages_cases served with ⟨name, _⟩ | ⟨name, _⟩ | ⟨_, stage⟩
    · rw [← ofStage, forImpl] at name
      exact absurd name (by decide)
    · rw [← ofStage, forImpl] at name
      exact absurd name (by decide)
    · exact stage
  · intro forVerify
    rw [sameId]
    rcases readyStages_cases served with ⟨_, rfl⟩ | ⟨name, _⟩ | ⟨name, _⟩
    · exact bounded.ready_verify readyAt
    · rw [← ofStage, forVerify] at name
      exact absurd name (by decide)
    · rw [← ofStage, forVerify] at name
      exact absurd name (by decide)

end Pass

theorem bounded_step {bound : Int} (nonneg : 0 ≤ bound)
    (operations : List PipelineOperation) (step : GenerationStep)
    (bounded : Bounded bound operations) (allowed : step.Allowed digests bound operations) :
    Bounded bound (step.apply operations) := by
  cases step with
  | pass input created =>
      obtain ⟨limit, projection, planned, origins⟩ := allowed
      have facts (operation : PipelineOperation) (member : operation ∈ created) :=
        Bounded.created { input with operations } bounded nonneg limit planned
          (origins operation member)
      refine ⟨fun operation member planned => ?_, fun verify member forVerify => ?_,
        fun operation member planned blank => ?_⟩
      · rcases List.mem_append.mp member with old | new
        · exact bounded.range operation old planned
        · exact (facts operation new).1
      · rcases List.mem_append.mp member with old | new
        · rcases bounded.behind verify old forVerify with low | ⟨impl, present, rest⟩
          · exact Or.inl low
          · exact Or.inr ⟨impl, List.mem_append_left _ present, rest⟩
        · rcases (facts verify new).2.2.2 forVerify with low | ⟨impl, present, rest⟩
          · exact Or.inl low
          · exact Or.inr ⟨impl, List.mem_append_left _ present, rest⟩
      · rcases List.mem_append.mp member with old | new
        · exact bounded.blank operation old planned blank
        · exact (facts operation new).2.1 blank
  | unplanned operation =>
      have other (candidate : PipelineOperation)
          (member : candidate ∈ GenerationStep.apply operations (.unplanned operation))
          (planned : operationStage candidate ∈ plannedStages) : candidate ∈ operations := by
        rcases List.mem_append.mp member with old | new
        · exact old
        · rw [List.mem_singleton.mp new] at planned
          exact absurd planned allowed
      refine ⟨fun candidate member planned => ?_, fun verify member forVerify => ?_,
        fun candidate member planned => ?_⟩
      · exact bounded.range candidate (other candidate member planned) planned
      · have old := other verify member (by simp [forVerify, plannedStages])
        rcases bounded.behind verify old forVerify with low | ⟨impl, present, rest⟩
        · exact Or.inl low
        · exact Or.inr ⟨impl, List.mem_append_left _ present, rest⟩
      · exact bounded.blank candidate (other candidate member planned) planned
  | update change =>
      refine ⟨fun changed member planned => ?_, fun changed member forVerify => ?_,
        fun changed member planned blank => ?_⟩
      · obtain ⟨operation, present, rfl⟩ := List.mem_map.mp member
        have same := allowed operation present
        rw [same.generation]
        exact bounded.range operation present (same.stage ▸ planned)
      · obtain ⟨operation, present, rfl⟩ := List.mem_map.mp member
        have same := allowed operation present
        rw [same.generation, same.taskId]
        rcases bounded.behind operation present (same.stage ▸ forVerify) with
          low | ⟨impl, listed, forImpl, ofTask, below⟩
        · exact Or.inl low
        · have sameImpl := allowed impl listed
          refine Or.inr ⟨change impl, List.mem_map_of_mem listed, ?_, ?_, ?_⟩
          · rw [sameImpl.stage, forImpl]
          · rw [sameImpl.taskId, ofTask]
          · rw [sameImpl.generation]
            exact below
      · obtain ⟨operation, present, rfl⟩ := List.mem_map.mp member
        have same := allowed operation present
        rw [same.generation]
        exact bounded.blank operation present (same.stage ▸ planned) (same.taskId ▸ blank)

theorem bounded_nil (bound : Int) : Bounded bound [] where
  range operation member := by cases member
  behind operation member := by cases member
  blank operation member := by cases member

/-- In every run from an empty project, the generations stay within the bound,
and every implementation that is started follows those of its task. -/
theorem rework_bounded (digests : Digests) {bound : Int} (nonneg : 0 ≤ bound)
    {steps : List GenerationStep}
    (along : Along GenerationStep.apply (fun operations step => step.Allowed digests bound operations)
      [] steps) :
    (∀ operation ∈ run GenerationStep.apply [] steps,
      operationStage operation ∈ plannedStages → operation.generation ≤ bound + 1) ∧
    ∀ before input created after, steps = before ++ GenerationStep.pass input created :: after →
      ∀ operation ∈ created, operationStage operation = "impl" →
        ImplFollows (run GenerationStep.apply [] before) operation := by
  have reached {start : List GenerationStep} (along : Along GenerationStep.apply
      (fun operations step => step.Allowed digests bound operations) [] start) :
      Bounded bound (run GenerationStep.apply [] start) :=
    along.invariant (Bounded bound) (bounded_step nonneg) (bounded_nil bound)
  refine ⟨fun operation member planned => ((reached along).range operation member planned).2, ?_⟩
  rintro before input created after rfl operation member forImpl
  obtain ⟨first, rest⟩ := (along_append _ _ _).mp along
  obtain ⟨limit, projection, planned, origins⟩ := rest.1
  exact (Bounded.created { input with operations := run GenerationStep.apply [] before }
    (reached first) nonneg limit planned (origins operation member)).2.2.1 forImpl

/-- One task, one developer and one tester, and one rework. -/
def reworkInput : ReconcileInput where
  policy :=
    { maxActiveTaskPipelines := 2
      maxReworkAttempts := 1
      pools := Dict.ofEntries
        [("impl", { capacity := 1, roleInstances := ["dev-1"] }),
          ("verify", { capacity := 1, roleInstances := ["test-1"] })]
      backpressure := ⟨2, 1⟩ }
  tasks := [.obj [("id", .str "T1")]]
  operations := []
  attempts := []

def workOperation (operationId stage : String) (generation : Int) : PipelineOperation where
  taskId := "T1"
  operationId
  taskPipelineStage := stage
  generation
  status := .reserved

/-- All operations settle, and verifications reject. -/
def settleRejecting (operation : PipelineOperation) : PipelineOperation :=
  { operation with
    status := .settled
    semanticVerdict := if operation.taskPipelineStage = "verify" then "rejected" else "passed" }

/-- An implementation, its rejection, and the implementation of the next generation. -/
def rejectedSteps : List GenerationStep :=
  [.pass reworkInput [workOperation "op1" "impl" 1], .update settleRejecting,
    .pass reworkInput [workOperation "op2" "verify" 1], .update settleRejecting]

/-- A pass whose plan is known carries it out. -/
theorem allowed_pass {input : ReconcileInput}
    {operations created : List PipelineOperation} (assignments : List Assignment)
    (planned : (reconcile digests { input with operations }).toOption.map Projection.assignments =
      some assignments)
    (origins : ∀ operation ∈ created, ∃ assignment ∈ assignments,
      operation.taskId = assignment.taskId ∧ operationStage operation = assignment.stage ∧
        operation.generation = assignment.operationGeneration) :
    (GenerationStep.pass input created).Allowed digests input.policy.maxReworkAttempts
      operations := by
  obtain ⟨projection, reconciled, rfl⟩ := Fallible.ok_of_toOption_map planned
  exact ⟨rfl, projection, reconciled, origins⟩

theorem sameOperation_settleRejecting (operation : PipelineOperation) :
    SameOperation (settleRejecting operation) operation := ⟨rfl, rfl, rfl, rfl⟩

theorem rejected_steps_bounded :
    (∀ operation ∈ run GenerationStep.apply []
        (rejectedSteps ++ [.pass reworkInput [workOperation "op3" "impl" 2]]),
      operationStage operation ∈ plannedStages → operation.generation ≤ 1 + 1) ∧
    ImplFollows (run GenerationStep.apply [] rejectedSteps) (workOperation "op3" "impl" 2) := by
  have along : Along GenerationStep.apply
      (fun operations step => step.Allowed sampleDigests 1 operations) []
      (rejectedSteps ++ [.pass reworkInput [workOperation "op3" "impl" 2]]) := by
    refine ⟨?_, fun operation _ => sameOperation_settleRejecting operation, ?_,
      fun operation _ => sameOperation_settleRejecting operation, ?_, True.intro⟩
    · exact allowed_pass [⟨"T1", "impl", "dev-1", 1, none⟩]
        (by decide +kernel) (by decide +kernel)
    · exact allowed_pass [⟨"T1", "verify", "test-1", 1, none⟩]
        (by decide +kernel) (by decide +kernel)
    · exact allowed_pass [⟨"T1", "impl", "dev-1", 2, none⟩]
        (by decide +kernel) (by decide +kernel)
  obtain ⟨within, follows⟩ := rework_bounded sampleDigests (by decide : (0 : Int) ≤ 1) along
  exact ⟨within, follows rejectedSteps reworkInput _ [] rfl _ List.mem_cons_self (by decide +kernel)⟩

end ZaofuFormal.Pipeline
