import ZaofuFormal.Pipeline.IntegrationGate

/-!
# Progress behind an admitted review

A risk review that has admitted the governing generation lets its task go on to
integration.  Behind an external gate only integrations count as operations of
a task, so that no review is found there and the task asks for one for ever.
-/

namespace ZaofuFormal.Pipeline

open Foundation
open Workflow (OperationStatus)

/-- The stages in which a task waits for its review, or has lost it. -/
def reviewStages : List Stage :=
  [.acceptanceReviewReady, .acceptanceReviewActive, .replanRequested]

/-- The generation that a review has to reach: that of the current verification,
and behind an external gate the first one. -/
def Governs (task : TaskRow) (given : Surroundings) (generation : Int) : Prop :=
  match task.entryMode with
  | .externalGate => generation = 1
  | .verifyOnly | .standard => ∃ verify, Highest given.operations "verify" verify ∧
      generation = verifiedGeneration verify.currentGeneration

/-- The review of the highest generation has admitted the governing generation. -/
structure ReviewAdmitted (task : TaskRow) (given : Surroundings) : Prop where
  present : ∃ review, Highest given.operations "acceptance_review" review
  admitted : ∀ review, Highest given.operations "acceptance_review" review →
    ∀ generation, Governs task given generation → Admits review generation

/-- The task is past its external gate, and a review is configured for it. -/
structure ReviewHidden (task : TaskRow) (given : Surroundings) : Prop where
  mode : task.entryMode = .externalGate
  satisfied : given.externalGateSatisfied = true
  closed : ∀ dependency ∈ task.blockedBy, dependency ∈ given.terminalTaskIds
  configured : reviewConfigured given.policy task = true

section Cascade

variable {current : CurrentOperations} {policy : Policy} {task : TaskRow}
  {review verify : PipelineOperation} {generation : Int} {allowImplRework : Bool}

theorem deriveReview_of_admits (found : current.get? "acceptance_review" = some review)
    (admits : Admits review generation) :
    deriveReview current policy generation allowImplRework = none := by
  unfold deriveReview
  rw [found]
  dsimp only
  rw [if_neg (not_lt.mpr admits.recent), admits.settled]
  simp [admits.verdict]

theorem deriveIntegration_not_review (current : CurrentOperations) (generation : Int) :
    (deriveIntegration current generation).stage ∉ reviewStages := by
  have none {stages : List Stage} (member : (deriveIntegration current generation).stage ∈ stages)
      (apart : ∀ stage ∈ stages, stage ∉ reviewStages) :
      (deriveIntegration current generation).stage ∉ reviewStages := apart _ member
  rcases deriveIntegration_cases current generation with ⟨member, _⟩ | ⟨member, _⟩
  · exact none member (by decide)
  · exact none member (by decide)

theorem rework_not_review (policy : Policy) (generation : Int) :
    (Derived.rework policy generation).stage ∉ reviewStages := by
  unfold Derived.rework
  split <;> simp [reviewStages]

/-- With the admitted review in view, the cascade never asks for a review. -/
theorem derivePostVerificationStage_not_review
    (found : current.get? "acceptance_review" = some review)
    (admits : Admits review (verifiedGeneration generation)) :
    (derivePostVerificationStage current task policy generation allowImplRework).stage ∉
      reviewStages := by
  unfold derivePostVerificationStage
  dsimp only
  rw [deriveReview_of_admits found admits, Option.getD_none]
  split_ifs
  · exact deriveIntegration_not_review _ _
  · simp [Derived.at, reviewStages]
  · exact deriveIntegration_not_review _ _
  · simp [Derived.at, reviewStages]

theorem getD_deriveVerification_not_review {rejected passed : Derived}
    (before : rejected.stage ∉ reviewStages) (after : passed.stage ∉ reviewStages) :
    ((deriveVerification verify rejected).getD passed).stage ∉ reviewStages := by
  rcases deriveVerification_cases verify rejected with
    ⟨passes, _⟩ | stops | ⟨stage, member, stops⟩
  · rw [passes]
    exact after
  · rw [stops]
    exact before
  · rw [stops]
    have apart : ∀ stage ∈ [Stage.verifyReady, .verifyActive, .blocked], stage ∉ reviewStages := by
      decide
    exact apart stage member

/-- The review that is found admits whatever verification is found. -/
abbrev ReviewInView (current : CurrentOperations) : Prop :=
  ∃ review, current.get? "acceptance_review" = some review ∧
    ∀ verify, current.get? "verify" = some verify →
      Admits review (verifiedGeneration verify.currentGeneration)

theorem deriveVerifyOnlyStage_not_review (inView : ReviewInView current) :
    (deriveVerifyOnlyStage current task policy).stage ∉ reviewStages := by
  obtain ⟨review, found, admits⟩ := inView
  unfold deriveVerifyOnlyStage
  cases verification : current.get? "verify" with
  | none => simp [reviewStages]
  | some verify =>
      refine getD_deriveVerification_not_review (by simp [Derived.at, reviewStages]) ?_
      exact derivePostVerificationStage_not_review found (admits verify verification)

theorem deriveStage_not_review {request : Option ReworkRequest} (inView : ReviewInView current) :
    (deriveStage current task policy request).stage ∉ reviewStages := by
  obtain ⟨review, found, admits⟩ := inView
  unfold deriveStage
  cases current.get? "impl" with
  | none => simp [reviewStages]
  | some impl =>
      rcases deriveImplementation_cases impl with ⟨passes, _⟩ | ⟨stage, member, stops⟩
      · dsimp only
        rw [passes, Option.getD_none]
        split
        · exact rework_not_review policy _
        unfold deriveImplemented
        cases verification : current.get? "verify" with
        | none => simp [Derived.at, reviewStages]
        | some verify =>
            dsimp only
            split
            · simp [Derived.at, reviewStages]
            · refine getD_deriveVerification_not_review (rework_not_review policy _) ?_
              exact derivePostVerificationStage_not_review found (admits verify verification)
      · dsimp only
        rw [stops]
        have apart : ∀ stage ∈ [Stage.implReady, .implActive, .blocked], stage ∉ reviewStages := by
          decide
        exact apart stage member

end Cascade

section View

variable {task : TaskRow} {given : Surroundings}

/-- Without an external gate the admitted review is among the current operations. -/
theorem reviewInView (admitted : ReviewAdmitted task given)
    (mode : task.entryMode ≠ .externalGate) :
    ReviewInView (currentByStage (entryOperationStages task.entryMode) given.operations) := by
  have stages : "acceptance_review" ∈ entryOperationStages task.entryMode ∧
      "verify" ∈ entryOperationStages task.entryMode := by
    cases entry : task.entryMode with
    | externalGate => exact absurd entry mode
    | verifyOnly | standard => decide
  have noted := currentByStage_noted stages.1 given.operations
  cases found : (currentByStage (entryOperationStages task.entryMode) given.operations).get?
      "acceptance_review" with
  | none =>
      rw [found] at noted
      obtain ⟨review, highest⟩ := admitted.present
      exact absurd highest.ofStage (noted review highest.member)
  | some review =>
      rw [found] at noted
      refine ⟨review, found, fun verify verification => ?_⟩
      refine admitted.admitted review noted _ ?_
      have highest := highest_of_current stages.2 verification
      unfold Governs
      cases entry : task.entryMode with
      | externalGate => exact absurd entry mode
      | verifyOnly | standard => exact ⟨verify, highest, rfl⟩

/-- Behind an external gate no review is among the current operations. -/
theorem derivePostVerificationStage_external (generation : Int)
    (risky : effectiveProfile given.policy task = "risk_review")
    (configured : reviewConfigured given.policy task = true) :
    derivePostVerificationStage
        (currentByStage (entryOperationStages .externalGate) given.operations) task given.policy
        generation false = .at .acceptanceReviewReady (verifiedGeneration generation) := by
  have absent : (currentByStage (entryOperationStages .externalGate) given.operations).get?
      "acceptance_review" = none := by
    rw [Option.eq_none_iff_forall_ne_some]
    intro review found
    exact absurd (mem_allowed_of_current found) (by decide)
  unfold derivePostVerificationStage deriveReview
  dsimp only
  rw [risky, absent, if_neg (by decide), if_pos rfl, if_pos configured]
  rfl

theorem taskView_hidden (hidden : ReviewHidden task given)
    (risky : effectiveProfile given.policy task = "risk_review") :
    (taskView task given).stage = .acceptanceReviewReady := by
  have closed : task.blockedBy.filter (fun dependency => dependency ∉ given.terminalTaskIds) =
      [] := by
    rw [List.filter_eq_nil_iff]
    intro dependency member
    simpa using hidden.closed dependency member
  have derived : deriveEntryStage
      (currentByStage (entryOperationStages task.entryMode) given.operations) task given =
        .at .acceptanceReviewReady (verifiedGeneration 1) := by
    unfold deriveEntryStage
    rw [hidden.mode]
    exact derivePostVerificationStage_external 1 risky hidden.configured
  unfold taskView
  dsimp only
  rw [if_neg (not_not.mpr closed), if_neg (by simp [hidden.satisfied]),
    if_neg (by simp [hidden.mode]), derived]
  rfl

/-- Otherwise a task whose review has admitted it waits for no review. -/
theorem taskView_not_review (admitted : ReviewAdmitted task given)
    (risky : effectiveProfile given.policy task = "risk_review")
    (visible : ¬ReviewHidden task given) : (taskView task given).stage ∉ reviewStages := by
  by_contra review
  have started : (taskView task given).stage ∉ stoppedStages := by
    revert review
    cases (taskView task given).stage <;> decide
  obtain ⟨closed, gate, stage, _⟩ := taskView_derived started
  rw [stage] at review
  unfold deriveEntryStage at review
  cases mode : task.entryMode with
  | externalGate =>
      rw [mode] at review
      have satisfied : given.externalGateSatisfied = true := by
        simpa using not_and.mp gate mode
      have unconfigured : reviewConfigured given.policy task ≠ true := by
        intro configured
        refine visible ⟨mode, satisfied, fun dependency member => ?_, configured⟩
        simpa using List.filter_eq_nil_iff.mp closed dependency member
      dsimp only at review
      unfold derivePostVerificationStage at review
      dsimp only at review
      rw [risky, if_neg (by decide), if_pos rfl, if_neg unconfigured] at review
      exact absurd review (by simp [Derived.at, reviewStages])
  | verifyOnly =>
      have inView := reviewInView admitted (by rw [mode]; decide)
      rw [mode] at review inView
      exact deriveVerifyOnlyStage_not_review inView review
  | standard =>
      have inView := reviewInView admitted (by rw [mode]; decide)
      rw [mode] at review inView
      exact deriveStage_not_review inView review

/-- A task whose review has admitted it waits for no further review, unless it
is past an external gate and a review is configured for it. -/
theorem admitted_review_not_repeated_iff
    (risky : effectiveProfile given.policy task = "risk_review")
    (admitted : ReviewAdmitted task given) :
    (taskView task given).stage ∉ reviewStages ↔ ¬ReviewHidden task given := by
  constructor
  · intro elsewhere hidden
    rw [taskView_hidden hidden risky] at elsewhere
    exact elsewhere (by decide)
  · exact taskView_not_review admitted risky

end View

def reviewedRow (mode : EntryMode) : TaskRow :=
  { verifiedRow with
    integrationAdmissionProfile := "risk_review"
    riskClass := "high"
    entryMode := mode }

def admittedReview : PipelineOperation where
  taskId := "T1"
  operationId := "op3"
  taskPipelineStage := "acceptance_review"
  generation := 1
  status := .settled
  semanticVerdict := "admit"

/-- A task with a passed implementation, a passed verification and an admitted review. -/
def reviewed : Surroundings where
  policy :=
    { pools := Dict.ofEntries [("acceptance_review", {})]
      integrationAdmission := { riskReview := { enabled := true, forRisks := ["high"] } } }
  operations := verifiedInput.operations ++ [admittedReview]
  terminalTaskIds := []
  externalGateSatisfied := true
  implReworkRequest := none

theorem reviewed_admitted (mode : EntryMode) : ReviewAdmitted (reviewedRow mode) reviewed where
  present := ⟨admittedReview, by decide, by decide +kernel, by decide +kernel⟩
  admitted review highest generation governs := by
    have own : review = admittedReview := by
      have only : ∀ operation ∈ reviewed.operations,
          operationStage operation = "acceptance_review" → operation = admittedReview := by
        decide +kernel
      exact only review highest.member highest.ofStage
    have first : ∀ operation ∈ reviewed.operations,
        operationStage operation = "verify" → operation.currentGeneration = 1 := by
      decide +kernel
    have one : generation = 1 := by
      cases mode with
      | externalGate => exact governs
      | verifyOnly | standard =>
          obtain ⟨verify, current, rfl⟩ := governs
          rw [first verify current.member current.ofStage]
          rfl
    rw [own, one]
    exact ⟨by decide, rfl, by decide +kernel⟩

theorem reviewed_task_not_repeated :
    (taskView (reviewedRow .standard) reviewed).stage ∉ reviewStages :=
  (admitted_review_not_repeated_iff (by decide +kernel) (reviewed_admitted .standard)).mpr
    fun hidden => absurd hidden.mode (by decide)

/-- Behind the external gate the same review is asked for again. -/
theorem external_review_repeated :
    effectiveProfile reviewed.policy (reviewedRow .externalGate) = "risk_review" ∧
      ReviewAdmitted (reviewedRow .externalGate) reviewed ∧
      (taskView (reviewedRow .externalGate) reviewed).stage = .acceptanceReviewReady :=
  ⟨by decide +kernel, reviewed_admitted .externalGate, by decide +kernel⟩

end ZaofuFormal.Pipeline
