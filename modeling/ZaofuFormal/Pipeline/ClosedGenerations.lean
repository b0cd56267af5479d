import ZaofuFormal.Pipeline.Generations

/-!
# Closed generations

An assignment names the operations of its task, stage and generation.  An
implementation is assigned again only while its operation is requested or blocked by
a changed request.  A verification or a review is assigned again also when its
operation was superseded or cancelled; and operations that the derivation does not
look at are named whatever became of them.  Where a stage waits at the generation of
no such operation, every operation that is named is open.
-/

namespace ZaofuFormal.Pipeline

open Foundation
open Workflow (OperationStatus)

/-- Requested, or blocked because its request was built anew. -/
def PipelineOperation.Open (operation : PipelineOperation) : Prop :=
  operation.status = .requested ∨
    operation.status = .blocked ∧ operation.reason = requestHashDivergence

/-- Taken out of its stage without a result. -/
def PipelineOperation.Withdrawn (operation : PipelineOperation) : Prop :=
  operation.status = .superseded ∨ operation.status = .cancelled

/-- The assignment is for the task, the stage and the generation of the operation. -/
def Assignment.Names (assignment : Assignment) (operation : PipelineOperation) : Prop :=
  operation.taskId = assignment.taskId ∧ operationStage operation = assignment.stage ∧
    operation.currentGeneration = assignment.operationGeneration

section Waiting

variable (task : TaskRow) (given : Surroundings) (current : CurrentOperations)

/-- What is looked at before the operations of a task. -/
structure Reached : Prop where
  dependencies : task.blockedBy.filter (fun dependency => dependency ∉ given.terminalTaskIds) = []
  gate : ¬ (task.entryMode = .externalGate ∧ given.externalGateSatisfied = false)
  unblocked : ¬ (task.status = "blocked" ∧ task.entryMode ≠ .externalGate)

/-- The current implementation has passed, and no rework of it is asked for. -/
structure Implemented (impl : PipelineOperation) : Prop where
  isCurrent : current.get? "impl" = some impl
  passed : Passed impl
  unasked : requestedGeneration given.implReworkRequest ≠ impl.currentGeneration

/-- The current verification, in the standard mode of a passed implementation. -/
structure Verifies (verify : PipelineOperation) : Prop where
  isCurrent : current.get? "verify" = some verify
  covers : task.entryMode = .verifyOnly ∨ task.entryMode = .standard ∧
    ∃ impl, Implemented given current impl ∧ impl.currentGeneration ≤ verify.currentGeneration

/-- The generation that is to be reviewed: of a passed verification, or the first one of a
task behind an external gate. -/
structure AsksReview (generation : Int) : Prop where
  risky : effectiveProfile given.policy task = "risk_review"
  configured : reviewConfigured given.policy task = true
  source : task.entryMode = .externalGate ∧ generation = 1 ∨ ∃ verify,
    Verifies task given current verify ∧ Passed verify ∧
      generation = verifiedGeneration verify.currentGeneration

/-- A stage waits at a generation at which there may be operations.  A review waits unless the
current one, of this generation or a later one, is neither open nor withdrawn. -/
inductive Waits : String → Int → Prop
  | impl {impl : PipelineOperation} (standard : task.entryMode = .standard)
      (isCurrent : current.get? "impl" = some impl) (opened : impl.Open) :
      Waits "impl" impl.currentGeneration
  | verify {verify : PipelineOperation} (verifies : Verifies task given current verify)
      (stopped : verify.Open ∨ verify.Withdrawn) : Waits "verify" verify.currentGeneration
  | review {generation : Int} (asks : AsksReview task given current generation)
      (stopped : ∀ review, current.get? "acceptance_review" = some review →
        generation ≤ review.currentGeneration → review.Open ∨ review.Withdrawn) :
      Waits "acceptance_review" generation

end Waiting

theorem reached_of_stage {task : TaskRow} {given : Surroundings}
    (started : (taskView task given).stage ∉ stoppedStages) :
    Reached task given := by
  unfold taskView at started
  dsimp only at started
  split at started
  · simp [stoppedStages] at started
  rename_i closed
  split at started
  · simp [stoppedStages] at started
  rename_i gate
  split at started
  · simp [stoppedStages] at started
  rename_i unblocked
  exact ⟨not_not.mp closed, gate, unblocked⟩

/-- Wherever a stage of the task waits, the operation there is the current one of the stage and
was not withdrawn. -/
structure FollowedUp (input : ReconcileInput) (rows : List TaskRow) (task : TaskRow) : Prop where
  named : task.id = "" → ∀ operation ∈ input.operations, operation.taskId ≠ ""
  current : ∀ stage generation,
    Waits task ((normalize input rows).surroundings task) (currentOf input rows task) stage
        generation →
      ∀ operation ∈ input.operations, operation.taskId = task.id →
        operationStage operation = stage → operation.currentGeneration = generation →
          (currentOf input rows task).get? stage = some operation ∧ ¬ operation.Withdrawn

theorem open_of_implReady {impl : PipelineOperation} {derived : Derived}
    (stops : deriveImplementation impl = some derived) (ready : derived.stage = .implReady) :
    impl.Open := by
  unfold deriveImplementation at stops
  cases status : impl.status with
  | requested => exact Or.inl status
  | blocked =>
      rw [status] at stops
      dsimp only at stops
      split at stops
      · rename_i diverged
        exact Or.inr ⟨status, diverged⟩
      · rw [← Option.some.inj stops] at ready
        cases ready
  | settled =>
      rw [status] at stops
      dsimp only at stops
      split at stops
      · cases stops
      · rw [← Option.some.inj stops] at ready
        cases ready
  | reserved | running | suspended | failed | superseded | cancelled =>
      rw [status] at stops
      rw [← Option.some.inj stops] at ready
      cases ready

theorem open_or_withdrawn_of_verifyReady {verify : PipelineOperation} {rejected derived : Derived}
    (other : rejected.stage ≠ .verifyReady)
    (stops : deriveVerification verify rejected = some derived)
    (ready : derived.stage = .verifyReady) : verify.Open ∨ verify.Withdrawn := by
  unfold deriveVerification at stops
  cases status : verify.status with
  | requested => exact Or.inl (Or.inl status)
  | superseded => exact Or.inr (Or.inl status)
  | cancelled => exact Or.inr (Or.inr status)
  | blocked =>
      rw [status] at stops
      dsimp only at stops
      split at stops
      · rename_i diverged
        exact Or.inl (Or.inr ⟨status, diverged⟩)
      · rw [← Option.some.inj stops] at ready
        cases ready
  | settled =>
      rw [status] at stops
      dsimp only at stops
      split at stops
      · cases stops
      · exact absurd (Option.some.inj stops ▸ ready) other
  | reserved | running | suspended | failed =>
      rw [status] at stops
      rw [← Option.some.inj stops] at ready
      cases ready

theorem rework_stage_ne (policy : Policy) (generation : Int) {stage : Stage}
    (other : stage ∉ [Stage.implReworkReady, .blocked]) :
    (Derived.rework policy generation).stage ≠ stage := by
  rintro rfl
  refine other ?_
  unfold Derived.rework
  split <;> simp

theorem open_or_withdrawn_of_reviewReady {current : CurrentOperations} {policy : Policy}
    {generation : Int} {allowImplRework : Bool} {derived : Derived} {review : PipelineOperation}
    (stops : deriveReview current policy generation allowImplRework = some derived)
    (ready : derived.stage = .acceptanceReviewReady)
    (found : current.get? "acceptance_review" = some review)
    (recent : generation ≤ review.currentGeneration) : review.Open ∨ review.Withdrawn := by
  unfold deriveReview at stops
  rw [found] at stops
  dsimp only at stops
  rw [if_neg (not_lt.mpr recent)] at stops
  cases status : review.status with
  | requested => exact Or.inl (Or.inl status)
  | superseded => exact Or.inr (Or.inl status)
  | cancelled => exact Or.inr (Or.inr status)
  | blocked =>
      rw [status] at stops
      dsimp only at stops
      split at stops
      · rename_i diverged
        exact Or.inl (Or.inr ⟨status, diverged⟩)
      · rw [← Option.some.inj stops] at ready
        cases ready
  | settled =>
      rw [status] at stops
      dsimp only at stops
      split at stops
      · split at stops
        · rw [← Option.some.inj stops] at ready
          exact absurd ready (rework_stage_ne policy generation (by decide))
        · rw [← Option.some.inj stops] at ready
          cases ready
      split at stops
      · rw [← Option.some.inj stops] at ready
        cases ready
      split at stops
      · cases stops
      · rw [← Option.some.inj stops] at ready
        cases ready
  | reserved | running | suspended | failed =>
      rw [status] at stops
      rw [← Option.some.inj stops] at ready
      cases ready

section Derivation

variable {current : CurrentOperations} {task : TaskRow} {policy : Policy}

theorem postVerification_not_implReady {generation : Int} {allowImplRework : Bool} {stage : Stage}
    (ready : stage ∈ [Stage.implReady, .verifyReady]) :
    (derivePostVerificationStage current task policy generation allowImplRework).stage ≠
      stage := by
  intro same
  have assignable : (derivePostVerificationStage current task policy generation
      allowImplRework).stage ∈ assignableStages := by
    rw [same]
    revert ready
    cases stage <;> decide
  rcases derivePostVerificationStage_ready assignable with ⟨_, derived⟩ | ⟨_, _, derived⟩
  · rw [derived] at same
    rw [← same] at ready
    exact absurd (show Stage.acceptanceReviewReady ∈ [Stage.implReady, .verifyReady] from ready)
      (by decide)
  · rw [derived] at same
    rw [← same] at ready
    exact absurd (show Stage.implReworkReady ∈ [Stage.implReady, .verifyReady] from ready)
      (by decide)

/-- A review is ready behind a risk review that is configured, and unless the current one is
neither open nor withdrawn. -/
theorem postVerification_reviewReady {generation : Int} {allowImplRework : Bool}
    (ready : (derivePostVerificationStage current task policy generation allowImplRework).stage =
      .acceptanceReviewReady) :
    effectiveProfile policy task = "risk_review" ∧ reviewConfigured policy task = true ∧
      (derivePostVerificationStage current task policy generation
        allowImplRework).nextGeneration = verifiedGeneration generation ∧
      ∀ review, current.get? "acceptance_review" = some review →
        verifiedGeneration generation ≤ review.currentGeneration →
          review.Open ∨ review.Withdrawn := by
  have assignable : (derivePostVerificationStage current task policy generation
      allowImplRework).stage ∈ assignableStages := by
    rw [ready]
    decide
  have next : (derivePostVerificationStage current task policy generation
      allowImplRework).nextGeneration = verifiedGeneration generation := by
    rcases derivePostVerificationStage_ready assignable with ⟨_, derived⟩ | ⟨_, _, derived⟩
    · rw [derived]
      rfl
    · rw [derived] at ready
      cases ready
  have passes := deriveIntegration_not_assignable current (verifiedGeneration generation)
  unfold derivePostVerificationStage at ready
  dsimp only at ready
  split at ready
  · cases ready
  split at ready
  · rename_i risky
    split at ready
    · rename_i configured
      refine ⟨risky, configured, next, fun review found recent => ?_⟩
      cases stops : deriveReview current policy (verifiedGeneration generation)
        allowImplRework with
      | none =>
          rw [stops, Option.getD_none] at ready
          exact absurd (ready ▸ by decide : _ ∈ assignableStages) passes
      | some derived =>
          rw [stops, Option.getD_some] at ready
          exact open_or_withdrawn_of_reviewReady stops ready found recent
    · cases ready
  · exact absurd (ready ▸ by decide : _ ∈ assignableStages) passes

/-- Where the stage comes from when a verification may stop the task. -/
theorem verification_stage {verify : PipelineOperation} {rejected post : Derived} {stage : Stage}
    (ready : ((deriveVerification verify rejected).getD post).stage = stage) :
    post.stage = stage ∨ rejected.stage = stage ∨
      stage ∈ [Stage.verifyReady, .verifyActive, .blocked] := by
  rcases deriveVerification_cases verify rejected with ⟨passes, _⟩ | stops | ⟨_, member, stops⟩
  · rw [passes, Option.getD_none] at ready
    exact Or.inl ready
  · rw [stops, Option.getD_some] at ready
    exact Or.inr (Or.inl ready)
  · rw [stops, Option.getD_some] at ready
    exact Or.inr (Or.inr (ready ▸ member))

theorem deriveVerifyOnlyStage_not_implReady :
    (deriveVerifyOnlyStage current task policy).stage ≠ .implReady := by
  intro ready
  unfold deriveVerifyOnlyStage at ready
  split at ready
  · cases ready
  · rcases verification_stage ready with post | rejected | stops
    · exact postVerification_not_implReady (by decide) post
    · cases rejected
    · exact absurd stops (by decide)

theorem deriveImplemented_not_implReady (generation : Int) :
    (deriveImplemented current task policy generation).stage ≠ .implReady := by
  intro ready
  unfold deriveImplemented at ready
  split at ready
  · cases ready
  · dsimp only at ready
    split at ready
    · cases ready
    · rcases verification_stage ready with post | rejected | stops
      · exact postVerification_not_implReady (by decide) post
      · exact rework_stage_ne _ _ (by decide) rejected
      · exact absurd stops (by decide)

/-- A verification that stops the task at a ready one is open or withdrawn. -/
theorem verification_verifyReady {verify : PipelineOperation} {rejected post : Derived}
    (rejects : rejected.stage ≠ .verifyReady) (passes : post.stage ≠ .verifyReady)
    (ready : ((deriveVerification verify rejected).getD post).stage = .verifyReady) :
    (verify.Open ∨ verify.Withdrawn) ∧
      ((deriveVerification verify rejected).getD post).nextGeneration =
        verify.currentGeneration := by
  rcases deriveVerification_cases verify rejected with ⟨stops, _⟩ | stops | ⟨_, _, stops⟩
  · rw [stops, Option.getD_none] at ready
    exact absurd ready passes
  · rw [stops, Option.getD_some] at ready
    exact absurd ready rejects
  · rw [stops, Option.getD_some] at ready ⊢
    exact ⟨open_or_withdrawn_of_verifyReady rejects stops ready, rfl⟩

theorem passed_of_reviewReady {verify : PipelineOperation} {rejected post : Derived}
    (rejects : rejected.stage ≠ .acceptanceReviewReady)
    (ready : ((deriveVerification verify rejected).getD post).stage = .acceptanceReviewReady) :
    Passed verify ∧ (deriveVerification verify rejected).getD post = post := by
  rcases deriveVerification_cases verify rejected with
    ⟨passes, passed⟩ | stops | ⟨stage, member, stops⟩
  · exact ⟨passed, by rw [passes, Option.getD_none]⟩
  · rw [stops, Option.getD_some] at ready
    exact absurd ready rejects
  · rw [stops, Option.getD_some] at ready
    rw [show stage = .acceptanceReviewReady from ready] at member
    exact absurd member (by decide)

variable {given : Surroundings}

/-- A verification or a review is ready only behind a passed implementation. -/
theorem deriveStage_implemented
    (ready : (deriveStage current task policy given.implReworkRequest).stage = .verifyReady ∨
      (deriveStage current task policy given.implReworkRequest).stage = .acceptanceReviewReady) :
    ∃ impl : PipelineOperation, Implemented given current impl ∧
      deriveStage current task policy given.implReworkRequest =
        deriveImplemented current task policy impl.currentGeneration := by
  unfold deriveStage at ready ⊢
  cases found : current.get? "impl" with
  | none =>
      rw [found] at ready
      rcases ready with impossible | impossible <;> cases impossible
  | some impl =>
      rw [found] at ready
      dsimp only at ready ⊢
      rcases deriveImplementation_cases impl with ⟨passes, passed⟩ | ⟨stage, member, stops⟩
      · rw [passes, Option.getD_none] at ready ⊢
        split at ready
        · rcases ready with verify | review
          · exact absurd verify (rework_stage_ne _ _ (by decide))
          · exact absurd review (rework_stage_ne _ _ (by decide))
        · rename_i unasked
          exact ⟨impl, ⟨found, passed, unasked⟩, if_neg unasked⟩
      · rw [stops, Option.getD_some] at ready
        rcases ready with verify | review
        · rw [show stage = .verifyReady from verify] at member
          exact absurd member (by decide)
        · rw [show stage = .acceptanceReviewReady from review] at member
          exact absurd member (by decide)

/-- There is a current operation of a stage that is looked at, and it is of this generation or
of a later one. -/
structure Seen (current : CurrentOperations) (mode : EntryMode) (stage : String)
    (generation : Int) : Prop where
  present : stage ∈ entryOperationStages mode → ∃ top, current.get? stage = some top
  latest : ∀ top, current.get? stage = some top → generation ≤ top.currentGeneration

theorem waits_of_implReady (ready : (deriveEntryStage current task given).stage = .implReady)
    (seen : Seen current task.entryMode "impl"
      (deriveEntryStage current task given).nextGeneration) :
    Waits task given current "impl" (deriveEntryStage current task given).nextGeneration := by
  unfold deriveEntryStage at ready seen ⊢
  cases mode : task.entryMode with
  | externalGate =>
      rw [mode] at ready
      exact absurd ready (postVerification_not_implReady (by decide))
  | verifyOnly =>
      rw [mode] at ready
      exact absurd ready deriveVerifyOnlyStage_not_implReady
  | standard =>
      rw [mode] at ready seen
      obtain ⟨impl, found⟩ := seen.present (by decide)
      unfold deriveStage at ready ⊢
      rw [found] at ready ⊢
      dsimp only at ready ⊢
      rcases deriveImplementation_cases impl with ⟨passes, _⟩ | ⟨stage, _, stops⟩
      · rw [passes, Option.getD_none] at ready
        split at ready
        · exact absurd ready (rework_stage_ne _ _ (by decide))
        · exact absurd ready (deriveImplemented_not_implReady _)
      · rw [stops, Option.getD_some] at ready ⊢
        exact .impl mode found (open_of_implReady stops ready)

theorem waits_of_verifyReady (ready : (deriveEntryStage current task given).stage = .verifyReady)
    (seen : Seen current task.entryMode "verify"
      (deriveEntryStage current task given).nextGeneration) :
    Waits task given current "verify" (deriveEntryStage current task given).nextGeneration := by
  unfold deriveEntryStage at ready seen ⊢
  cases mode : task.entryMode with
  | externalGate =>
      rw [mode] at ready
      exact absurd ready (postVerification_not_implReady (by decide))
  | verifyOnly =>
      rw [mode] at ready seen
      obtain ⟨verify, found⟩ := seen.present (by decide)
      dsimp only at ready ⊢
      unfold deriveVerifyOnlyStage at ready ⊢
      rw [found] at ready ⊢
      obtain ⟨stopped, same⟩ := verification_verifyReady Stage.noConfusion
        (postVerification_not_implReady (by decide)) ready
      rw [same]
      exact .verify ⟨found, Or.inl mode⟩ stopped
  | standard =>
      rw [mode] at ready seen
      obtain ⟨verify, found⟩ := seen.present (by decide)
      have top := seen.latest verify found
      dsimp only at ready top ⊢
      obtain ⟨impl, implemented, derived⟩ := deriveStage_implemented (Or.inl ready)
      rw [derived] at ready top ⊢
      unfold deriveImplemented at ready top ⊢
      rw [found] at ready top ⊢
      dsimp only at ready top ⊢
      split at ready
      · rename_i stale
        rw [if_pos stale] at top
        exact absurd stale (not_lt.mpr top)
      · rename_i recent
        rw [if_neg recent]
        obtain ⟨stopped, same⟩ := verification_verifyReady (rework_stage_ne _ _ (by decide))
          (postVerification_not_implReady (by decide)) ready
        rw [same]
        exact .verify ⟨found, Or.inr ⟨mode, impl, implemented, not_lt.mp recent⟩⟩ stopped

/-- A review is ready at a generation that asks for it. -/
theorem waits_of_reviewReady
    (ready : (deriveEntryStage current task given).stage = .acceptanceReviewReady) :
    Waits task given current "acceptance_review"
      (deriveEntryStage current task given).nextGeneration := by
  unfold deriveEntryStage at ready ⊢
  cases mode : task.entryMode with
  | externalGate =>
      rw [mode] at ready
      obtain ⟨risky, configured, next, stopped⟩ := postVerification_reviewReady ready
      exact next ▸ .review ⟨risky, configured, Or.inl ⟨mode, rfl⟩⟩ stopped
  | verifyOnly =>
      rw [mode] at ready
      dsimp only at ready ⊢
      unfold deriveVerifyOnlyStage at ready ⊢
      cases found : current.get? "verify" with
      | none =>
          rw [found] at ready
          cases ready
      | some verify =>
          rw [found] at ready
          dsimp only at ready ⊢
          obtain ⟨passed, same⟩ := passed_of_reviewReady Stage.noConfusion ready
          rw [same] at ready ⊢
          obtain ⟨risky, configured, next, stopped⟩ := postVerification_reviewReady ready
          exact next ▸ .review
            ⟨risky, configured, Or.inr ⟨verify, ⟨found, Or.inl mode⟩, passed, rfl⟩⟩ stopped
  | standard =>
      rw [mode] at ready
      dsimp only at ready ⊢
      obtain ⟨impl, implemented, derived⟩ := deriveStage_implemented (Or.inr ready)
      rw [derived] at ready ⊢
      unfold deriveImplemented at ready ⊢
      cases found : current.get? "verify" with
      | none =>
          rw [found] at ready
          cases ready
      | some verify =>
          rw [found] at ready
          dsimp only at ready ⊢
          split at ready
          · cases ready
          · rename_i recent
            rw [if_neg recent]
            obtain ⟨passed, same⟩ := passed_of_reviewReady (rework_stage_ne _ _ (by decide)) ready
            rw [same] at ready ⊢
            obtain ⟨risky, configured, next, stopped⟩ := postVerification_reviewReady ready
            exact next ▸ .review ⟨risky, configured, Or.inr ⟨verify,
              ⟨found, Or.inr ⟨mode, impl, implemented, not_lt.mp recent⟩⟩, passed, rfl⟩⟩ stopped

/-- A rework is assigned at a generation above the implementations of the task. -/
theorem not_seen_of_reworkReady
    (ready : (deriveEntryStage current task given).stage = .implReworkReady) :
    ¬ Seen current task.entryMode "impl" (deriveEntryStage current task given).nextGeneration := by
  have readyAt := deriveEntryStage_ready (show (deriveEntryStage current task given).stage ∈
    assignableStages by rw [ready]; decide)
  rw [ready] at readyAt
  generalize (deriveEntryStage current task given).nextGeneration = generation at readyAt ⊢
  intro seen
  cases readyAt with
  | requestedImpl found =>
      have top := seen.latest _ found
      omega
  | rejectedImpl found _ recent =>
      have top := seen.latest _ found
      omega
  | @revisedImpl _ verify found _ recent =>
      have top := seen.latest _ found
      have above := le_verifiedGeneration verify.currentGeneration
      omega

theorem waits_of_ready {stage : String}
    (ready : (deriveEntryStage current task given).stage ∈ readyStages stage)
    (seen : Seen current task.entryMode stage
      (deriveEntryStage current task given).nextGeneration) :
    Waits task given current stage (deriveEntryStage current task given).nextGeneration := by
  rcases readyStages_cases ready with ⟨rfl, verify⟩ | ⟨rfl, review⟩ | ⟨rfl, impl | rework⟩
  · exact waits_of_verifyReady verify seen
  · exact waits_of_reviewReady review
  · exact waits_of_implReady impl seen
  · exact absurd seen (not_seen_of_reworkReady rework)

/-- The current operation of a stage that waits at its generation is open, if it was not
withdrawn. -/
theorem open_of_waits {stage : String} {operation : PipelineOperation}
    (waits : Waits task given current stage operation.currentGeneration)
    (found : current.get? stage = some operation) (kept : ¬ operation.Withdrawn) :
    operation.Open := by
  generalize at_generation : operation.currentGeneration = generation at waits
  cases waits with
  | impl _ isCurrent opened => exact Option.some.inj (isCurrent.symm.trans found) ▸ opened
  | verify verifies stopped =>
      obtain rfl := Option.some.inj (verifies.isCurrent.symm.trans found)
      exact stopped.resolve_right kept
  | review _ stopped => exact (stopped operation found at_generation.ge).resolve_right kept

end Derivation

/-- A verified task whose verification has the given status. -/
def reverifiedInput (status : OperationStatus) : ReconcileInput where
  policy := { pools := Dict.ofEntries [("verify", { capacity := 1, roleInstances := ["qa-1"] })] }
  tasks := [.obj [("id", .str "T1")]]
  operations :=
    [{ taskId := "T1", operationId := "op1", taskPipelineStage := "impl", generation := 1
       status := .settled },
      { taskId := "T1", operationId := "op2", taskPipelineStage := "verify", generation := 1
        status }]
  attempts := []

def reverifiedRow : TaskRow where
  id := "T1"
  status := "backlog"
  blockedReason := ""
  priority := 3
  createdAt := ""
  blockedBy := []
  requiredCapabilities := []
  integrationAdmissionProfile := ""
  riskClass := ""
  entryMode := .standard

/-- The requested verification is the only operation at a generation at which a stage waits. -/
theorem requested_verification_followed :
    FollowedUp (reverifiedInput .requested) [reverifiedRow] reverifiedRow where
  named blank := absurd blank (by decide)
  current stage generation waits operation listed _ ofStage _ := by
    have impl : (currentOf (reverifiedInput .requested) [reverifiedRow] reverifiedRow).get?
        "impl" = some (reverifiedInput .requested).operations[0] := by decide +kernel
    have verify : (currentOf (reverifiedInput .requested) [reverifiedRow] reverifiedRow).get?
        "verify" = some (reverifiedInput .requested).operations[1] := by decide +kernel
    cases waits with
    | impl _ found opened =>
        cases found.symm.trans impl
        rcases opened with requested | ⟨blocked, _⟩
        · cases requested
        · cases blocked
    | verify _ _ =>
        rcases List.mem_pair.mp listed with rfl | rfl
        · exact absurd ofStage (by decide +kernel)
        · exact ⟨verify, by rintro (same | same) <;> cases same⟩
    | review asks _ => exact absurd asks.risky (by decide +kernel)

end ZaofuFormal.Pipeline
