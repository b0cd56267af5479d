import ZaofuFormal.Pipeline.Reconciler

/-!
# The integration gate

A task reaches integration only when its dependencies are done and the current
operation of every gate before it has passed.  The current operation of a stage
is the one of the highest generation; each decision of the derivation either
stops before the gate or lets the operation pass.
-/

namespace ZaofuFormal.Pipeline

open Foundation Foundation.Sorting
open Workflow (OperationStatus)

/-- The operation of the highest generation of a stage, the greatest id among equals. -/
structure Highest (operations : List PipelineOperation) (stage : String)
    (operation : PipelineOperation) : Prop where
  member : operation ∈ operations
  ofStage : operationStage operation = stage
  greatest : ∀ other ∈ operations, operationStage other = stage →
    operationOrder other ≤ operationOrder operation

/-- What the fold has found for a stage among the operations it has seen. -/
def Noted (operations : List PipelineOperation) (stage : String) :
    Option PipelineOperation → Prop
  | some operation => Highest operations stage operation
  | none => ∀ operation ∈ operations, operationStage operation ≠ stage

variable {operation : PipelineOperation} {operations : List PipelineOperation} {stage : String}
  {allowed : List String} {current : CurrentOperations} {policy : Policy}

theorem Noted.skip
    {found : Option PipelineOperation} (noted : Noted operations stage found)
    (other : operationStage operation ≠ stage) :
    Noted (operations ++ [operation]) stage found := by
  cases found with
  | none =>
      intro candidate member
      rcases List.mem_append.mp member with old | new
      · exact noted candidate old
      · exact List.mem_singleton.mp new ▸ other
  | some current =>
      refine ⟨List.mem_append_left _ noted.member, noted.ofStage, fun candidate member same => ?_⟩
      rcases List.mem_append.mp member with old | new
      · exact noted.greatest candidate old same
      · exact absurd (List.mem_singleton.mp new ▸ same) other

theorem Noted.keep {current : PipelineOperation} (noted : Noted operations stage (some current))
    (below : operationOrder operation ≤ operationOrder current) :
    Noted (operations ++ [operation]) stage (some current) := by
  refine ⟨List.mem_append_left _ noted.member, noted.ofStage, fun candidate member same => ?_⟩
  rcases List.mem_append.mp member with old | new
  · exact noted.greatest candidate old same
  · exact List.mem_singleton.mp new ▸ below

theorem Noted.replace
    {found : Option PipelineOperation} (noted : Noted operations stage found)
    (ofStage : operationStage operation = stage)
    (above : ∀ current ∈ found, operationOrder current ≤ operationOrder operation) :
    Noted (operations ++ [operation]) stage (some operation) := by
  refine ⟨List.mem_append_right _ List.mem_cons_self, ofStage, fun candidate member same => ?_⟩
  rcases List.mem_append.mp member with old | new
  · cases found with
    | none => exact absurd same (noted candidate old)
    | some current => exact (noted.greatest candidate old same).trans (above current rfl)
  · rw [List.mem_singleton.mp new]

theorem noted_note (admitted : stage ∈ allowed)
    (noted : Noted operations stage (current.get? stage)) (operation : PipelineOperation) :
    Noted (operations ++ [operation]) stage ((current.note allowed operation).get? stage) := by
  unfold CurrentOperations.note
  dsimp only
  by_cases here : operationStage operation = stage
  · rw [here, if_neg (not_not.mpr admitted)]
    cases found : current.get? stage with
    | none =>
        rw [found] at noted
        dsimp only
        rw [Dict.get?_insert_self]
        exact noted.replace here (by simp)
    | some previous =>
        rw [found] at noted
        dsimp only
        split
        · rename_i later
          rw [Dict.get?_insert_self]
          refine noted.replace here fun earlier same => ?_
          exact Option.some.inj same ▸ later.le
        · rename_i notLater
          rw [found]
          exact noted.keep (not_lt.mp notLater)
  · have elsewhere (next : CurrentOperations) (same : next.get? stage = current.get? stage) :
        Noted (operations ++ [operation]) stage (next.get? stage) := by
      rw [same]
      exact noted.skip here
    split
    · exact elsewhere current rfl
    · split
      · exact elsewhere _ (Dict.get?_insert_ne current operation (Ne.symm here))
      · split
        · exact elsewhere _ (Dict.get?_insert_ne current operation (Ne.symm here))
        · exact elsewhere current rfl

/-- The fold finds the operation of the highest generation of every allowed stage. -/
theorem currentByStage_noted (admitted : stage ∈ allowed) (operations : List PipelineOperation) :
    Noted operations stage ((currentByStage allowed operations).get? stage) := by
  induction operations using List.reverseRecOn with
  | nil =>
      intro operation member
      cases member
  | append_singleton operations operation ih =>
      rw [currentByStage, List.foldl_append]
      exact noted_note admitted ih operation

theorem highest_of_current (admitted : stage ∈ allowed)
    (found : (currentByStage allowed operations).get? stage = some operation) :
    Highest operations stage operation := by
  have noted := currentByStage_noted admitted operations
  rw [found] at noted
  exact noted

/-- A stage that is not allowed has no current operation. -/
theorem mem_allowed_of_current
    (found : (currentByStage allowed operations).get? stage = some operation) :
    stage ∈ allowed := by
  by_contra outside
  have absent : (currentByStage allowed operations).get? stage = none := by
    clear found
    induction operations using List.reverseRecOn with
    | nil => rfl
    | append_singleton operations other ih =>
        rw [currentByStage, List.foldl_append]
        change (CurrentOperations.note allowed (currentByStage allowed operations) other).get?
          stage = none
        unfold CurrentOperations.note
        dsimp only
        split
        · exact ih
        rename_i admitted
        have elsewhere : stage ≠ operationStage other := fun same =>
          outside (same ▸ not_not.mp admitted)
        split
        · rw [Dict.get?_insert_ne _ _ elsewhere, ih]
        · split
          · rw [Dict.get?_insert_ne _ _ elsewhere, ih]
          · exact ih
  rw [absent] at found
  cases found

/-- A settled operation with a passing verdict. -/
def Passed (operation : PipelineOperation) : Prop :=
  operation.status = .settled ∧ semanticPassed operation = true

theorem deriveImplementation_cases (impl : PipelineOperation) :
    (deriveImplementation impl = none ∧ Passed impl) ∨
      ∃ stage ∈ [Stage.implReady, .implActive, .blocked],
        deriveImplementation impl = some (.at stage impl.currentGeneration) := by
  unfold deriveImplementation
  cases status : impl.status with
  | settled =>
      by_cases passed : semanticPassed impl = true
      · exact Or.inl ⟨by simp [passed], status, passed⟩
      · exact Or.inr ⟨.blocked, by simp [passed]⟩
  | blocked =>
      by_cases diverged : impl.reason = requestHashDivergence
      · exact Or.inr ⟨.implReady, by simp [diverged]⟩
      · exact Or.inr ⟨.blocked, by simp [diverged]⟩
  | requested => exact Or.inr ⟨.implReady, by simp⟩
  | reserved | running | suspended => exact Or.inr ⟨.implActive, by simp⟩
  | failed | superseded | cancelled => exact Or.inr ⟨.blocked, by simp⟩

theorem deriveVerification_cases (verify : PipelineOperation) (rejected : Derived) :
    (deriveVerification verify rejected = none ∧ Passed verify) ∨
      deriveVerification verify rejected = some rejected ∨
      ∃ stage ∈ [Stage.verifyReady, .verifyActive, .blocked],
        deriveVerification verify rejected = some (.at stage verify.currentGeneration) := by
  unfold deriveVerification
  cases status : verify.status with
  | settled =>
      by_cases passed : semanticPassed verify = true
      · exact Or.inl ⟨by simp [passed], status, passed⟩
      · exact Or.inr (Or.inl (by simp [passed]))
  | blocked =>
      by_cases diverged : verify.reason = requestHashDivergence
      · exact Or.inr (Or.inr ⟨.verifyReady, by simp [diverged]⟩)
      · exact Or.inr (Or.inr ⟨.blocked, by simp [diverged]⟩)
  | requested | superseded | cancelled => exact Or.inr (Or.inr ⟨.verifyReady, by simp⟩)
  | reserved | running | suspended => exact Or.inr (Or.inr ⟨.verifyActive, by simp⟩)
  | failed => exact Or.inr (Or.inr ⟨.blocked, by simp⟩)

/-- A review of the verified generation that has admitted it. -/
structure Admits (review : PipelineOperation) (verifyGeneration : Int) : Prop where
  recent : verifyGeneration ≤ review.currentGeneration
  settled : review.status = .settled
  verdict : verdictText review = "admit"

theorem deriveReview_cases (current : CurrentOperations) (policy : Policy)
    (verifyGeneration : Int) (allowImplRework : Bool) :
    (deriveReview current policy verifyGeneration allowImplRework = none ∧
      ∃ review, current.get? "acceptance_review" = some review ∧
        Admits review verifyGeneration) ∨
      (allowImplRework = true ∧ deriveReview current policy verifyGeneration allowImplRework =
        some (.rework policy verifyGeneration)) ∨
      ∃ stage ∈ [Stage.acceptanceReviewReady, .acceptanceReviewActive, .blocked,
          .replanRequested],
        deriveReview current policy verifyGeneration allowImplRework =
          some (.at stage verifyGeneration) := by
  unfold deriveReview
  cases found : current.get? "acceptance_review" with
  | none => exact Or.inr (Or.inr ⟨.acceptanceReviewReady, by simp⟩)
  | some review =>
      dsimp only
      by_cases stale : review.currentGeneration < verifyGeneration
      · exact Or.inr (Or.inr ⟨.acceptanceReviewReady, by simp [stale]⟩)
      rw [if_neg stale]
      cases status : review.status with
      | settled =>
          dsimp only
          by_cases revise : verdictText review = "revise"
          · cases allowImplRework with
            | true => exact Or.inr (Or.inl (by simp [revise]))
            | false => exact Or.inr (Or.inr ⟨.replanRequested, by simp [revise]⟩)
          by_cases replan : verdictText review = "replan"
          · exact Or.inr (Or.inr ⟨.replanRequested, by simp [replan]⟩)
          by_cases admitted : verdictText review = "admit"
          · exact Or.inl ⟨by simp [admitted], review, rfl, not_lt.mp stale, status, admitted⟩
          · exact Or.inr (Or.inr ⟨.blocked, by simp [revise, replan, admitted]⟩)
      | blocked =>
          by_cases diverged : review.reason = requestHashDivergence
          · exact Or.inr (Or.inr ⟨.acceptanceReviewReady, by simp [diverged]⟩)
          · exact Or.inr (Or.inr ⟨.blocked, by simp [diverged]⟩)
      | requested | superseded | cancelled =>
          exact Or.inr (Or.inr ⟨.acceptanceReviewReady, by simp⟩)
      | reserved | running | suspended =>
          exact Or.inr (Or.inr ⟨.acceptanceReviewActive, by simp⟩)
      | failed => exact Or.inr (Or.inr ⟨.blocked, by simp⟩)

/-- What the last decision can be: a task that counts as integrated, or as being
integrated, has an integration of at least the verified generation. -/
theorem deriveIntegration_cases (current : CurrentOperations) (verifyGeneration : Int) :
    ((deriveIntegration current verifyGeneration).stage ∈ [Stage.integrationReady, .blocked] ∧
      verifyGeneration ≤ (deriveIntegration current verifyGeneration).nextGeneration) ∨
    ((deriveIntegration current verifyGeneration).stage ∈ [Stage.integrationActive, .integrated] ∧
      ∃ integration, current.get? "integration" = some integration ∧
        verifyGeneration ≤ integration.generationOr verifyGeneration) := by
  unfold deriveIntegration
  dsimp only
  cases found : current.get? "integration" with
  | none => exact Or.inl (by simp)
  | some integration =>
      dsimp only
      by_cases stale : integration.generationOr verifyGeneration < verifyGeneration
      · rw [if_pos stale]
        exact Or.inl (by simp)
      rw [if_neg stale]
      have recent := not_lt.mp stale
      cases status : integration.status with
      | settled =>
          by_cases passed : semanticPassed integration = true
          · exact Or.inr ⟨by simp [passed], integration, rfl, recent⟩
          · exact Or.inl (by simp [passed, recent])
      | requested | failed | blocked => exact Or.inl (by simp [recent])
      | reserved | running | suspended => exact Or.inr ⟨by simp, integration, rfl, recent⟩
      | superseded | cancelled => exact Or.inl (by simp)

theorem le_verifiedGeneration (generation : Int) : generation ≤ verifiedGeneration generation := by
  unfold verifiedGeneration
  split <;> omega

/-- The review that the effective profile of a task asks for has admitted it. -/
def Reviewed (current : CurrentOperations) (policy : Policy) (task : TaskRow)
    (verifyGeneration : Int) : Prop :=
  effectiveProfile policy task = "risk_review" →
    ∃ review, current.get? "acceptance_review" = some review ∧ Admits review verifyGeneration

theorem derivePostVerificationStage_cases (current : CurrentOperations) (task : TaskRow)
    (policy : Policy) (generation : Int) (allowImplRework : Bool) :
    (derivePostVerificationStage current task policy generation allowImplRework =
        deriveIntegration current (verifiedGeneration generation) ∧
      Reviewed current policy task (verifiedGeneration generation)) ∨
    (allowImplRework = true ∧
      derivePostVerificationStage current task policy generation allowImplRework =
        .rework policy (verifiedGeneration generation)) ∨
    ∃ stage ∈ [Stage.admissionBlocked, .acceptanceReviewReady, .acceptanceReviewActive, .blocked,
        .replanRequested],
      derivePostVerificationStage current task policy generation allowImplRework =
        .at stage (verifiedGeneration generation) := by
  unfold derivePostVerificationStage
  dsimp only
  by_cases known : effectiveProfile policy task ∈ ["verify_admitted", "risk_review"]
  · rw [if_neg (not_not.mpr known)]
    by_cases risky : effectiveProfile policy task = "risk_review"
    · rw [if_pos risky]
      by_cases configured : reviewConfigured policy task = true
      · rw [if_pos configured]
        rcases deriveReview_cases current policy (verifiedGeneration generation) allowImplRework
          with ⟨passes, admitted⟩ | ⟨allowed, rework⟩ | ⟨stage, member, stops⟩
        · exact Or.inl ⟨by rw [passes]; rfl, fun _ => admitted⟩
        · exact Or.inr (Or.inl ⟨allowed, by rw [rework]; rfl⟩)
        · refine Or.inr (Or.inr ⟨stage, ?_, by rw [stops]; rfl⟩)
          exact List.mem_cons_of_mem _ member
      · exact Or.inr (Or.inr ⟨.admissionBlocked, by simp [configured]⟩)
    · rw [if_neg risky]
      exact Or.inl ⟨rfl, fun review => absurd review risky⟩
  · exact Or.inr (Or.inr ⟨.admissionBlocked, by simp [known]⟩)

/-- The stages that a task has only behind the integration gate. -/
def Stage.PastGate (stage : Stage) : Prop :=
  stage ∈ [integrationReady, integrationActive, integrated]

instance (stage : Stage) : Decidable stage.PastGate := inferInstanceAs (Decidable (_ ∈ _))

theorem not_pastGate_rework (policy : Policy) (generation : Int) :
    ¬ (Derived.rework policy generation).stage.PastGate := by
  unfold Derived.rework
  split <;> simp [Stage.PastGate]

/-- Past the gate, the stage is that of the integration, with its review. -/
theorem derivePostVerificationStage_pastGate {task : TaskRow} {generation : Int}
    {allowImplRework : Bool}
    (past : (derivePostVerificationStage current task policy generation
      allowImplRework).stage.PastGate) :
    derivePostVerificationStage current task policy generation allowImplRework =
        deriveIntegration current (verifiedGeneration generation) ∧
      Reviewed current policy task (verifiedGeneration generation) := by
  rcases derivePostVerificationStage_cases current task policy generation allowImplRework with
    advanced | ⟨_, rework⟩ | ⟨stage, member, stops⟩
  · exact advanced
  · rw [rework] at past
    exact absurd past (not_pastGate_rework policy _)
  · rw [stops] at past
    simp only [List.mem_cons, List.not_mem_nil, or_false] at member
    rcases member with rfl | rfl | rfl | rfl | rfl <;> simp [Derived.at, Stage.PastGate] at past

/-- The verification that lets a task pass, with the review that it asks for. -/
structure Verified (current : CurrentOperations) (policy : Policy) (task : TaskRow)
    (verify : PipelineOperation) : Prop where
  isCurrent : current.get? "verify" = some verify
  passed : Passed verify
  reviewed : Reviewed current policy task (verifiedGeneration verify.currentGeneration)

/-- A verification of any entry mode that leads past the gate. -/
theorem verified_of_pastGate {task : TaskRow}
    {verify : PipelineOperation} {rejected : Derived} {allowImplRework : Bool}
    (found : current.get? "verify" = some verify) (before : ¬ rejected.stage.PastGate)
    (past : ((deriveVerification verify rejected).getD (derivePostVerificationStage current task
      policy verify.currentGeneration allowImplRework)).stage.PastGate) :
    Verified current policy task verify := by
  rcases deriveVerification_cases verify rejected with
    ⟨passes, passed⟩ | stops | ⟨stage, member, stops⟩
  · rw [passes, Option.getD_none] at past
    exact ⟨found, passed, (derivePostVerificationStage_pastGate past).2⟩
  · rw [stops, Option.getD_some] at past
    exact absurd past before
  · rw [stops, Option.getD_some] at past
    simp only [List.mem_cons, List.not_mem_nil, or_false] at member
    rcases member with rfl | rfl | rfl <;> simp [Derived.at, Stage.PastGate] at past

theorem deriveVerifyOnlyStage_pastGate {task : TaskRow}
    (past : (deriveVerifyOnlyStage current task policy).stage.PastGate) :
    ∃ verify, Verified current policy task verify := by
  unfold deriveVerifyOnlyStage at past
  cases found : current.get? "verify" with
  | none =>
      rw [found] at past
      simp [Stage.PastGate] at past
  | some verify =>
      rw [found] at past
      refine ⟨verify, verified_of_pastGate found ?_ past⟩
      simp [Derived.at, Stage.PastGate]

/-- A task of the standard mode passes with a passed implementation that no
rework request names, and a verification of at least its generation. -/
theorem deriveStage_pastGate {task : TaskRow} {request : Option ReworkRequest}
    (past : (deriveStage current task policy request).stage.PastGate) :
    ∃ impl, current.get? "impl" = some impl ∧ Passed impl ∧
      requestedGeneration request ≠ impl.currentGeneration ∧
      ∃ verify, Verified current policy task verify ∧
        impl.currentGeneration ≤ verify.currentGeneration := by
  unfold deriveStage at past
  cases found : current.get? "impl" with
  | none =>
      rw [found] at past
      simp [Stage.PastGate] at past
  | some impl =>
      rw [found] at past
      dsimp only at past
      rcases deriveImplementation_cases impl with ⟨passes, passed⟩ | ⟨stage, member, stops⟩
      · rw [passes, Option.getD_none] at past
        split at past
        · exact absurd past (not_pastGate_rework policy _)
        rename_i unnamed
        unfold deriveImplemented at past
        cases verification : current.get? "verify" with
        | none =>
            rw [verification] at past
            simp [Derived.at, Stage.PastGate] at past
        | some verify =>
            rw [verification] at past
            dsimp only at past
            split at past
            · simp [Derived.at, Stage.PastGate] at past
            · rename_i recent
              have verified := verified_of_pastGate verification (not_pastGate_rework policy _) past
              exact ⟨impl, rfl, passed, unnamed, verify, verified, not_lt.mp recent⟩
      · rw [stops, Option.getD_some] at past
        simp only [List.mem_cons, List.not_mem_nil, or_false] at member
        rcases member with rfl | rfl | rfl <;> simp [Derived.at, Stage.PastGate] at past

/-- The stages that a view has without looking at the operations of its task. -/
def stoppedStages : List Stage := [.dependencyBlocked, .externalGateWaiting, .blocked]

/-- The other stages are derived from the operations of the task. -/
theorem taskView_derived {task : TaskRow} {given : Surroundings}
    (started : (taskView task given).stage ∉ stoppedStages) :
    task.blockedBy.filter (fun dependency => dependency ∉ given.terminalTaskIds) = [] ∧
      ¬ (task.entryMode = .externalGate ∧ given.externalGateSatisfied = false) ∧
      (taskView task given).stage = (deriveEntryStage
        (currentByStage (entryOperationStages task.entryMode) given.operations) task
          given).stage ∧
      (taskView task given).nextOperationGeneration = (deriveEntryStage
        (currentByStage (entryOperationStages task.entryMode) given.operations) task
          given).nextGeneration := by
  unfold taskView at started ⊢
  dsimp only at started ⊢
  split at started
  · simp [stoppedStages] at started
  rename_i closed
  rw [if_neg closed]
  split at started
  · simp [stoppedStages] at started
  rename_i gate
  rw [if_neg gate]
  split at started
  · simp [stoppedStages] at started
  rename_i unblocked
  rw [if_neg unblocked]
  exact ⟨not_not.mp closed, gate, rfl, rfl⟩

theorem not_stopped_of_pastGate {stage : Stage} (past : stage.PastGate) :
    stage ∉ stoppedStages := by
  revert past
  cases stage <;> decide

/-- The operation of the highest generation of a stage of a task. -/
abbrev CurrentOperation (input : ReconcileInput) (taskId stage : String)
    (operation : PipelineOperation) : Prop :=
  Highest (input.operations.filter fun operation => operation.taskId = taskId) stage operation

/-- The dependency was reported as done, or is a task of this pass that is done. -/
def DependencyDone (input : ReconcileInput) (rows : List TaskRow) (dependency : String) : Prop :=
  dependency ∈ strippedSet input.terminalTaskIds ∨
    ∃ row ∈ rows, row.id = dependency ∧ row.status = "done"

/-- The request of the TaskRef gate for a task; requests under a blank id do not count. -/
def reworkRequest (input : ReconcileInput) (taskId : String) : Option ReworkRequest :=
  (keepEntries input.implReworkRequests fun taskId _ => !PyString.isBlank taskId).get? taskId

/-- The current verification has passed, and so has the review that the task needs. -/
structure VerificationPassed (input : ReconcileInput) (task : TaskRow)
    (verify : PipelineOperation) : Prop where
  isCurrent : CurrentOperation input task.id "verify" verify
  passed : Passed verify
  reviewed : effectiveProfile input.policy task = "risk_review" →
    ∃ review, CurrentOperation input task.id "acceptance_review" review ∧
      Admits review verify.currentGeneration

/-- The gates before integration, by entry mode. -/
def EntryPassed (input : ReconcileInput) (task : TaskRow) : Prop :=
  match task.entryMode with
  | .standard => ∃ impl, CurrentOperation input task.id "impl" impl ∧ Passed impl ∧
      (∀ request ∈ reworkRequest input task.id,
        request.operationGeneration ≠ impl.currentGeneration) ∧
      ∃ verify, VerificationPassed input task verify ∧
        impl.currentGeneration ≤ verify.currentGeneration
  | .verifyOnly => ∃ verify, VerificationPassed input task verify
  | .externalGate => task.id ∈ strippedSet input.externalGateSatisfiedTaskIds

structure GatePassed (input : ReconcileInput) (rows : List TaskRow) (task : TaskRow) : Prop where
  dependencies : ∀ dependency ∈ task.blockedBy, DependencyDone input rows dependency
  entry : EntryPassed input task

theorem Highest.of_mem_iff {first second : List PipelineOperation}
    (highest : Highest first stage operation)
    (same : ∀ other, other ∈ first ↔ other ∈ second) : Highest second stage operation where
  member := (same operation).mp highest.member
  ofStage := highest.ofStage
  greatest other member ofStage := highest.greatest other ((same other).mpr member) ofStage

section Pass

variable {input : ReconcileInput} {rows : List TaskRow} {task : TaskRow}

/-- A current operation that a view is derived from is one of the input. -/
theorem currentOperation_of_found {stage : String} {operation : PipelineOperation}
    (admitted : stage ∈ entryOperationStages task.entryMode)
    (found : (currentByStage (entryOperationStages task.entryMode)
      ((normalize input rows).operationsOf task.id)).get? stage = some operation) :
    CurrentOperation input task.id stage operation := by
  have highest := highest_of_current admitted found
  unfold NormalizedInput.operationsOf at highest
  split at highest
  · cases highest.member
  · refine highest.of_mem_iff fun other => ?_
    simp only [normalize, List.mem_filter, mem_sortedBy]

theorem verificationPassed_of_verified {verify : PipelineOperation}
    (verifies : "verify" ∈ entryOperationStages task.entryMode)
    (reviews : "acceptance_review" ∈ entryOperationStages task.entryMode)
    (verified : Verified (currentByStage (entryOperationStages task.entryMode)
      ((normalize input rows).operationsOf task.id)) input.policy task verify) :
    VerificationPassed input task verify where
  isCurrent := currentOperation_of_found verifies verified.isCurrent
  passed := verified.passed
  reviewed risky := by
    obtain ⟨review, found, admits⟩ := verified.reviewed risky
    refine ⟨review, currentOperation_of_found reviews found, ?_, admits.settled, admits.verdict⟩
    exact (le_verifiedGeneration _).trans admits.recent

/-- The open dependencies of a task that has none are all done. -/
theorem dependencies_done
    (closed : task.blockedBy.filter (fun dependency =>
      dependency ∉ (normalize input rows).terminalTaskIds) = []) :
    ∀ dependency ∈ task.blockedBy, DependencyDone input rows dependency := by
  intro dependency member
  have terminal : dependency ∈ (normalize input rows).terminalTaskIds := by
    have kept := List.filter_eq_nil_iff.mp closed dependency member
    simpa using kept
  simp only [normalize, mem_sortedSet, List.mem_append, List.mem_map, List.mem_filter,
    mem_sortedBy, decide_eq_true_eq] at terminal
  rcases terminal with reported | ⟨row, ⟨present, done⟩, same⟩
  · exact Or.inl reported
  · exact Or.inr ⟨row, present, same, done⟩

theorem entryPassed_of_pastGate
    (gate : ¬ (task.entryMode = .externalGate ∧
      ((normalize input rows).surroundings task).externalGateSatisfied = false))
    (past : (deriveEntryStage (currentByStage (entryOperationStages task.entryMode)
      ((normalize input rows).operationsOf task.id)) task
        ((normalize input rows).surroundings task)).stage.PastGate) :
    EntryPassed input task := by
  unfold deriveEntryStage at past
  unfold EntryPassed
  cases mode : task.entryMode with
  | standard =>
      rw [mode] at past
      obtain ⟨impl, found, passed, unnamed, verify, verified, recent⟩ := deriveStage_pastGate past
      rw [← mode] at found verified
      refine ⟨impl, currentOperation_of_found (by simp [mode, entryOperationStages]) found, passed,
        ?_, verify, ?_, recent⟩
      · intro request named
        have known : ((normalize input rows).surroundings task).implReworkRequest =
            some request := by
          simpa [NormalizedInput.surroundings, normalize, reworkRequest] using named
        rw [known] at unnamed
        exact unnamed
      · exact verificationPassed_of_verified (by simp [mode, entryOperationStages])
          (by simp [mode, entryOperationStages]) verified
  | verifyOnly =>
      rw [mode] at past
      obtain ⟨verify, verified⟩ := deriveVerifyOnlyStage_pastGate past
      rw [← mode] at verified
      exact ⟨verify, verificationPassed_of_verified (by simp [mode, entryOperationStages])
        (by simp [mode, entryOperationStages]) verified⟩
  | externalGate =>
      have satisfied := not_and.mp gate mode
      simpa [NormalizedInput.surroundings, normalize] using satisfied

/-- A view past the gate belongs to a task that has passed every gate. -/
theorem gatePassed_of_taskView
    (past : (taskView task ((normalize input rows).surroundings task)).stage.PastGate) :
    GatePassed input rows task := by
  obtain ⟨closed, gate, stage, _⟩ := taskView_derived (not_stopped_of_pastGate past)
  rw [stage] at past
  exact ⟨dependencies_done closed, entryPassed_of_pastGate gate past⟩

end Pass

/-- The dispatch loops add blockers to the views and change nothing else. -/
theorem finalViews_related (input : NormalizedInput) :
    List.Forall₂ (fun task view => ∃ blockers,
      view = { taskView task (input.surroundings task) with blockers }) input.openTasks
      input.finalViews := by
  rw [List.forall₂_iff_get]
  refine ⟨by simp [NormalizedInput.finalViews, NormalizedInput.taskViews], ?_⟩
  intro index first second
  simp only [NormalizedInput.finalViews, NormalizedInput.taskViews, List.get_eq_getElem,
    List.getElem_map, List.getElem_zipIdx]
  split
  · exact ⟨_, rfl⟩
  · exact ⟨_, rfl⟩

theorem reconcile_ok {digests : Digests} {input : ReconcileInput} {projection : Projection}
    (planned : reconcile digests input = .ok projection) :
    ∃ rows, input.tasks.mapM taskRow = .ok rows ∧
      projection = { (normalize input rows).plan digests with
        projectionDigest := digests.projection ((normalize input rows).plan digests) } := by
  unfold reconcile at planned
  cases read : input.tasks.mapM taskRow with
  | error error =>
      rw [read] at planned
      cases planned
  | ok rows =>
      rw [read] at planned
      exact ⟨rows, rfl, (Except.ok.inj planned).symm⟩

/-- In every pass, each open task has a view, and a view in one of the
integration stages belongs to a task that has passed every gate before them. -/
theorem integration_gate_sound {digests : Digests} {input : ReconcileInput}
    {projection : Projection} (planned : reconcile digests input = .ok projection) :
    ∃ rows, input.tasks.mapM taskRow = .ok rows ∧
      List.Forall₂ (fun task view => view.taskId = task.id ∧ view.entryMode = task.entryMode ∧
        (view.stage.PastGate → GatePassed input rows task))
        (normalize input rows).openTasks projection.tasks := by
  obtain ⟨rows, read, rfl⟩ := reconcile_ok planned
  refine ⟨rows, read, (finalViews_related (normalize input rows)).imp ?_⟩
  rintro task view ⟨blockers, rfl⟩
  refine ⟨?_, ?_, gatePassed_of_taskView⟩
  · simp only [taskView]
    split_ifs <;> rfl
  · simp only [taskView]
    split_ifs <;> rfl

/-- A task whose implementation and verification have settled. -/
def verifiedInput : ReconcileInput where
  policy := {}
  tasks := [.obj [("id", .str "T1")]]
  operations :=
    [{ taskId := "T1", operationId := "op1", taskPipelineStage := "impl", generation := 1
       status := .settled },
      { taskId := "T1", operationId := "op2", taskPipelineStage := "verify", generation := 1
        status := .settled, semanticVerdict := "passed" }]
  attempts := []

def verifiedRow : TaskRow where
  id := "T1"
  status := "backlog"
  blockedReason := ""
  priority := 3
  createdAt := ""
  blockedBy := []
  requiredCapabilities := []
  integrationAdmissionProfile := ""
  riskClass := ""
  entryMode := .standard

def sampleDigests : Digests := ⟨fun _ => "input", fun _ => "projection"⟩

theorem verified_task_passes_gate :
    ∃ projection, reconcile sampleDigests verifiedInput = .ok projection ∧
      projection.tasks.map TaskView.stage = [.integrationReady] ∧
      GatePassed verifiedInput [verifiedRow] verifiedRow := by
  have stages : (reconcile sampleDigests verifiedInput).toOption.map
      (fun projection => projection.tasks.map TaskView.stage) = some [.integrationReady] := by
    decide +kernel
  obtain ⟨projection, planned, ready⟩ := Fallible.ok_of_toOption_map stages
  obtain ⟨rows, read, related⟩ := integration_gate_sound planned
  have row : verifiedInput.tasks.mapM taskRow = .ok [verifiedRow] := by decide +kernel
  obtain rfl : [verifiedRow] = rows := Except.ok.inj (row.symm.trans read)
  have openRows : (normalize verifiedInput [verifiedRow]).openTasks = [verifiedRow] := by
    decide +kernel
  rw [openRows] at related
  obtain ⟨view, rest, ⟨_, _, gate⟩, _, same⟩ := List.forall₂_cons_left_iff.mp related
  refine ⟨projection, planned, ready, gate ?_⟩
  rw [same, List.map_cons] at ready
  rw [(List.cons.inj ready).1]
  decide

end ZaofuFormal.Pipeline
