import ZaofuFormal.Pipeline.Generations

/-!
# Integrations of reworked code

A superseded integration is repeated at a generation of its own.  When the code
is reworked afterwards, its verification may reach a generation that an earlier
integration already has, and the earlier one counts as an integration of the
reworked code.  It never does in a run that starts no verification while an
integration of its generation exists.
-/

namespace ZaofuFormal.Pipeline

open Foundation Foundation.Runs Foundation.Sorting

section Derivation

variable {current : CurrentOperations} {task : TaskRow} {policy : Policy}

/-- Past the gate, the stage of a standard task is that of its integration
against the current verification. -/
theorem deriveStage_integration {request : Option ReworkRequest}
    (past : (deriveStage current task policy request).stage.PastGate) :
    ∃ verify, current.get? "verify" = some verify ∧ Passed verify ∧
      deriveStage current task policy request =
        deriveIntegration current (verifiedGeneration verify.currentGeneration) := by
  obtain ⟨impl, found, implPassed, unnamed, verify, verified, recent⟩ := deriveStage_pastGate past
  refine ⟨verify, verified.isCurrent, verified.passed, ?_⟩
  have implemented : deriveStage current task policy request =
      derivePostVerificationStage current task policy verify.currentGeneration true := by
    have implPasses : deriveImplementation impl = none := by
      simp [deriveImplementation, implPassed.1, implPassed.2]
    have verifyPasses (rejected : Derived) : deriveVerification verify rejected = none := by
      simp [deriveVerification, verified.passed.1, verified.passed.2]
    unfold deriveStage
    rw [found]
    dsimp only
    rw [implPasses, Option.getD_none, if_neg unnamed, deriveImplemented, verified.isCurrent]
    dsimp only
    rw [if_neg (not_lt.mpr recent), verifyPasses, Option.getD_none]
  rw [implemented] at past ⊢
  exact (derivePostVerificationStage_pastGate past).1

end Derivation

/-- The stages of the operations of a standard task. -/
abbrev standardStages : List String := entryOperationStages .standard

/-- What happens to the operations: one of the task is created for a plan, some
other one is created, or the operations report something new. -/
inductive IntegrationStep where
  | create (input : ReconcileInput) (operation : PipelineOperation)
  | foreign (operation : PipelineOperation)
  | update (change : PipelineOperation → PipelineOperation)

def IntegrationStep.apply (operations : List PipelineOperation) :
    IntegrationStep → List PipelineOperation
  | create _ operation => operations ++ [operation]
  | foreign operation => operations ++ [operation]
  | update change => operations.map change

/-- The operation is an integration at the generation of a view that is ready for it. -/
def IntegrationOf (projection : Projection) (operation : PipelineOperation) : Prop :=
  operationStage operation = "integration" ∧ ∃ view ∈ projection.tasks,
    view.taskId = operation.taskId ∧ view.stage = .integrationReady ∧
      operation.generation = view.nextOperationGeneration

/-- The task is always listed in the standard mode. -/
def StandardIn (taskId : String) (input : ReconcileInput) : Prop :=
  ∀ raw ∈ input.tasks, rawTaskId raw = taskId → taskPipelineEntryMode raw = .standard

def Fresh (operations : List PipelineOperation) (operation : PipelineOperation) : Prop :=
  operation.operationId ∉ operations.map PipelineOperation.operationId

def IntegrationStep.Allowed (digests : Digests) (taskId : String)
    (operations : List PipelineOperation) : IntegrationStep → Prop
  | create input operation => StandardIn taskId input ∧ operation.taskId = taskId ∧
      Fresh operations operation ∧
      ∃ projection, reconcile digests { input with operations } = .ok projection ∧
        (CreatedFrom projection operation ∨ IntegrationOf projection operation)
  | foreign operation => Fresh operations operation ∧
      ¬ (operation.taskId = taskId ∧ operationStage operation ∈ standardStages)
  | update change => ∀ operation ∈ operations, SameOperation (change operation) operation

/-- The operations of a stage of the task. -/
def OfStage (taskId stage : String) (operation : PipelineOperation) : Prop :=
  operation.taskId = taskId ∧ operationStage operation = stage

/-- A verification is not started while an integration of its generation, or of
a later one, exists. -/
def IntegrationStep.Unraced (taskId : String) (operations : List PipelineOperation) :
    IntegrationStep → Prop
  | create _ operation => operationStage operation = "verify" →
      ∀ integration ∈ operations, OfStage taskId "integration" integration →
        integration.generation < operation.currentGeneration
  | foreign _ => True
  | update _ => True

/-- The integration was created when the verification was settled. -/
def CreatedAfterSettled (steps : List IntegrationStep) (integration verify : PipelineOperation) :
    Prop :=
  ∃ before input created after, steps = before ++ IntegrationStep.create input created :: after ∧
    SameOperation integration created ∧
    ∃ settled ∈ run IntegrationStep.apply [] before,
      SameOperation verify settled ∧ settled.status = .settled

/-- Whenever a pass after the steps views the task as integrated or as being
integrated, its current integration was created after its current verification
was settled. -/
def IntegrationsFollow (digests : Digests) (taskId : String) (steps : List IntegrationStep) :
    Prop :=
  ∀ (input : ReconcileInput) (projection : Projection),
    input.operations = run IntegrationStep.apply [] steps → StandardIn taskId input →
    reconcile digests input = .ok projection →
    ∀ view ∈ projection.tasks, view.taskId = taskId →
      view.stage = .integrationActive ∨ view.stage = .integrated →
      ∃ integration verify, CurrentOperation input taskId "integration" integration ∧
        CurrentOperation input taskId "verify" verify ∧
        CreatedAfterSettled steps integration verify

variable {digests : Digests} {input : ReconcileInput} {projection : Projection} {taskId : String}
  {changed operation : PipelineOperation} {steps : List IntegrationStep}

/-- A view of a standard task past the gate is that of its integration against
its current verification. -/
theorem standardView_pastGate (planned : reconcile digests input = .ok projection)
    (standard : StandardIn taskId input) {view : TaskView}
    (viewed : view ∈ projection.tasks) (ofTask : view.taskId = taskId)
    (past : view.stage.PastGate) :
    ∃ rows task verify, task.id = taskId ∧ task.entryMode = .standard ∧
      (currentOf input rows task).get? "verify" = some verify ∧ Passed verify ∧
      view.stage = (deriveIntegration (currentOf input rows task)
        (verifiedGeneration verify.currentGeneration)).stage ∧
      view.nextOperationGeneration = (deriveIntegration (currentOf input rows task)
        (verifiedGeneration verify.currentGeneration)).nextGeneration := by
  obtain ⟨rows, read, rfl⟩ := reconcile_ok planned
  obtain ⟨task, openTask, blockers, same⟩ :=
    Lists.exists_mem_of_forall₂ (finalViews_related (normalize input rows)) viewed
  have listed : task ∈ rows := (mem_sortedBy _ _ _).mp (List.mem_filter.mp openTask).1
  obtain ⟨raw, rawListed, rowRead⟩ :=
    Lists.exists_mem_of_forall₂ ((Fallible.mapM_eq_ok_iff taskRow _ rows).mp read) listed
  obtain ⟨rowId, rowMode⟩ := taskRow_ok rowRead
  have viewId : view.taskId = task.id := by
    rw [same]
    simp only [taskView]
    split_ifs <;> rfl
  have sameId : task.id = taskId := viewId.symm.trans ofTask
  have mode : task.entryMode = .standard := by
    rw [rowMode]
    exact standard raw rawListed (rowId ▸ sameId)
  rw [same] at past ⊢
  obtain ⟨_, _, stage, generation⟩ := taskView_derived (not_stopped_of_pastGate past)
  dsimp only at past ⊢
  rw [stage] at past
  rw [stage, generation]
  unfold deriveEntryStage at past ⊢
  rw [mode] at past ⊢
  obtain ⟨verify, found, passed, derived⟩ := deriveStage_integration past
  refine ⟨rows, task, verify, sameId, mode, ?_, passed, ?_, ?_⟩
  · rw [← mode] at found
    exact found
  · rw [currentOf, mode]
    exact congrArg Derived.stage derived
  · rw [currentOf, mode]
    exact congrArg Derived.nextGeneration derived

theorem SameOperation.refl (operation : PipelineOperation) : SameOperation operation operation :=
  ⟨rfl, rfl, rfl, rfl⟩

theorem SameOperation.trans {first second third : PipelineOperation}
    (left : SameOperation first second) (right : SameOperation second third) :
    SameOperation first third :=
  ⟨left.taskId.trans right.taskId, left.operationId.trans right.operationId,
    left.stage.trans right.stage, left.generation.trans right.generation⟩

theorem SameOperation.ofStage (same : SameOperation changed operation) {stage : String} :
    OfStage taskId stage changed ↔ OfStage taskId stage operation := by
  rw [OfStage, OfStage, same.taskId, same.stage]

theorem SameOperation.order (same : SameOperation changed operation) :
    operationOrder changed = operationOrder operation := by
  simp only [operationOrder, PipelineOperation.currentGeneration, PipelineOperation.generationOr,
    same.generation, same.operationId]

theorem CreatedAfterSettled.append {integration verify : PipelineOperation}
    (created : CreatedAfterSettled steps integration verify) (step : IntegrationStep) :
    CreatedAfterSettled (steps ++ [step]) integration verify := by
  obtain ⟨before, input, operation, after, rfl, rest⟩ := created
  exact ⟨before, input, operation, after ++ [step], by simp, rest⟩

theorem CreatedAfterSettled.same {integration verify reported : PipelineOperation}
    (created : CreatedAfterSettled steps integration verify)
    (sameIntegration : SameOperation changed integration)
    (sameVerify : SameOperation reported verify) : CreatedAfterSettled steps changed reported := by
  obtain ⟨before, input, operation, after, split, made, settled, present, verified, status⟩ :=
    created
  exact ⟨before, input, operation, after, split, sameIntegration.trans made, settled, present,
    sameVerify.trans verified, status⟩

/-- The invariant: an integration that a verification does not exceed was created
after that verification was settled, unless a later verification exists. -/
structure Followed (taskId : String) (steps : List IntegrationStep)
    (operations : List PipelineOperation) : Prop where
  distinct : (operations.map PipelineOperation.operationId).Nodup
  positive : ∀ integration ∈ operations, OfStage taskId "integration" integration →
    1 ≤ integration.generation
  settled : ∀ integration ∈ operations, OfStage taskId "integration" integration →
    ∀ verify ∈ operations, OfStage taskId "verify" verify →
      verify.currentGeneration ≤ integration.generation →
      CreatedAfterSettled steps integration verify ∨
        ∃ later ∈ operations, OfStage taskId "verify" later ∧
          operationOrder verify < operationOrder later

theorem one_le_verifiedGeneration (generation : Int) : 1 ≤ verifiedGeneration generation :=
  le_max_left 1 _

/-- A new integration is created when the latest verification is settled. -/
theorem Followed.integrate (followed : Followed taskId steps (run IntegrationStep.apply [] steps))
    (standard : StandardIn taskId input) (ofTask : operation.taskId = taskId)
    (planned : reconcile digests { input with
      operations := run IntegrationStep.apply [] steps } = .ok projection)
    (integration : IntegrationOf projection operation) :
    1 ≤ operation.generation ∧
      ∀ verify ∈ run IntegrationStep.apply [] steps, OfStage taskId "verify" verify →
        CreatedAfterSettled (steps ++ [.create input operation]) operation verify ∨
          ∃ later ∈ run IntegrationStep.apply [] steps, OfStage taskId "verify" later ∧
            operationOrder verify < operationOrder later := by
  obtain ⟨_, view, viewed, viewTask, ready, atGeneration⟩ := integration
  obtain ⟨rows, task, latest, sameId, mode, found, passed, stage, generation⟩ :=
    standardView_pastGate planned standard viewed (viewTask.trans ofTask) (by rw [ready]; decide)
  have highest := highest_of_current (mem_allowed_of_current found) found
  obtain ⟨named, latestListed, latestTask⟩ := mem_operationsOf.mp highest.member
  constructor
  · rcases deriveIntegration_cases (currentOf _ rows task)
      (verifiedGeneration latest.currentGeneration) with ⟨_, above⟩ | ⟨active, _⟩
    · rw [atGeneration, generation]
      exact (one_le_verifiedGeneration _).trans above
    · rw [← stage, ready] at active
      simp at active
  · rintro verify listed ⟨verifyTask, verifyStage⟩
    have below := highest.greatest verify
      (mem_operationsOf.mpr ⟨named, listed, verifyTask.trans sameId.symm⟩) verifyStage
    rcases lt_or_eq_of_le below with earlier | same
    · exact Or.inr ⟨latest, latestListed, ⟨latestTask.trans sameId, highest.ofStage⟩, earlier⟩
    · have sameOperationId : verify.operationId = latest.operationId :=
        congrArg (fun key => (ofLex key).2) same
      have equal : verify = latest :=
        List.inj_on_of_nodup_map followed.distinct listed latestListed sameOperationId
      exact Or.inl ⟨steps, input, operation, [], rfl, .refl operation, latest, latestListed,
        equal ▸ .refl verify, passed.1⟩

theorem createdFrom_planned (planned : reconcile digests input = .ok projection)
    (origin : CreatedFrom projection operation) : operationStage operation ∈ plannedStages := by
  obtain ⟨assignment, member, _, ofStage, _⟩ := origin
  obtain ⟨_, _, _, _, served, _⟩ := assignment_ready planned member
  rw [ofStage]
  rcases readyStages_cases served with ⟨name, _⟩ | ⟨name, _⟩ | ⟨name, _⟩ <;>
    simp [name, plannedStages]

/-- A new operation keeps the invariant: an integration because the latest
verification is settled, and a verification because it exceeds the integrations. -/
theorem Followed.grow
    {operations : List PipelineOperation} (followed : Followed taskId steps operations)
    (fresh : Fresh operations operation) (step : IntegrationStep)
    (positive : OfStage taskId "integration" operation → 1 ≤ operation.generation)
    (integrated : OfStage taskId "integration" operation →
      ∀ verify ∈ operations, OfStage taskId "verify" verify →
        CreatedAfterSettled (steps ++ [step]) operation verify ∨
          ∃ later ∈ operations, OfStage taskId "verify" later ∧
            operationOrder verify < operationOrder later)
    (verified : OfStage taskId "verify" operation →
      ∀ integration ∈ operations, OfStage taskId "integration" integration →
        integration.generation < operation.currentGeneration) :
    Followed taskId (steps ++ [step]) (operations ++ [operation]) where
  distinct := by
    rw [List.map_append, List.nodup_append]
    refine ⟨followed.distinct, List.nodup_singleton _, ?_⟩
    intro id member other single same
    rw [List.mem_singleton.mp single] at same
    exact fresh (same ▸ member)
  positive integration member ofStage := by
    rcases List.mem_append.mp member with old | new
    · exact followed.positive integration old ofStage
    · rw [List.mem_singleton.mp new] at ofStage ⊢
      exact positive ofStage
  settled integration member ofStage verify verifyMember verifyStage recent := by
    rcases List.mem_append.mp verifyMember with oldVerify | newVerify
    · rcases List.mem_append.mp member with old | new
      · rcases followed.settled integration old ofStage verify oldVerify verifyStage recent with
          created | ⟨later, present, rest⟩
        · exact Or.inl (created.append step)
        · exact Or.inr ⟨later, List.mem_append_left _ present, rest⟩
      · rw [List.mem_singleton.mp new] at ofStage ⊢
        rcases integrated ofStage verify oldVerify verifyStage with
          created | ⟨later, present, rest⟩
        · exact Or.inl created
        · exact Or.inr ⟨later, List.mem_append_left _ present, rest⟩
    · rw [List.mem_singleton.mp newVerify] at verifyStage recent
      rcases List.mem_append.mp member with old | new
      · exact absurd (verified verifyStage integration old ofStage) (not_lt.mpr recent)
      · rw [List.mem_singleton.mp new] at ofStage
        have clash : "integration" = "verify" := ofStage.2.symm.trans verifyStage.2
        exact absurd clash (by decide)

theorem Followed.update {taskId : String} {steps : List IntegrationStep}
    {operations : List PipelineOperation} (followed : Followed taskId steps operations)
    {change : PipelineOperation → PipelineOperation}
    (same : ∀ operation ∈ operations, SameOperation (change operation) operation) :
    Followed taskId (steps ++ [.update change]) (operations.map change) where
  distinct := by
    have ids : (operations.map change).map PipelineOperation.operationId =
        operations.map PipelineOperation.operationId := by
      rw [List.map_map]
      exact List.map_congr_left fun operation member => (same operation member).operationId
    rw [ids]
    exact followed.distinct
  positive changed member ofStage := by
    obtain ⟨integration, present, rfl⟩ := List.mem_map.mp member
    rw [(same integration present).generation]
    exact followed.positive integration present ((same integration present).ofStage.mp ofStage)
  settled changed member ofStage reported reportedMember reportedStage recent := by
    obtain ⟨integration, present, rfl⟩ := List.mem_map.mp member
    obtain ⟨verify, verifyPresent, rfl⟩ := List.mem_map.mp reportedMember
    have sameIntegration := same integration present
    have sameVerify := same verify verifyPresent
    have reached : verify.currentGeneration ≤ integration.generation := by
      rw [← sameIntegration.generation]
      simpa only [PipelineOperation.currentGeneration, PipelineOperation.generationOr,
        sameVerify.generation] using recent
    rcases followed.settled integration present (sameIntegration.ofStage.mp ofStage) verify
      verifyPresent (sameVerify.ofStage.mp reportedStage) reached with
      created | ⟨later, laterPresent, laterStage, below⟩
    · exact Or.inl ((created.same sameIntegration sameVerify).append _)
    · have sameLater := same later laterPresent
      refine Or.inr ⟨change later, List.mem_map_of_mem laterPresent,
        sameLater.ofStage.mpr laterStage, ?_⟩
      rw [sameVerify.order, sameLater.order]
      exact below

/-- Every step without a race keeps the invariant. -/
theorem followed_step (followed : Followed taskId steps (run IntegrationStep.apply [] steps))
    {step : IntegrationStep}
    (allowed : step.Allowed digests taskId (run IntegrationStep.apply [] steps))
    (unraced : step.Unraced taskId (run IntegrationStep.apply [] steps)) :
    Followed taskId (steps ++ [step]) (run IntegrationStep.apply [] (steps ++ [step])) := by
  rw [run_append, run_cons, run_nil]
  cases step with
  | create input operation =>
      obtain ⟨standard, ofTask, fresh, projection, planned, origin⟩ := allowed
      have integration (ofStage : OfStage taskId "integration" operation) :
          IntegrationOf projection operation := by
        rcases origin with assigned | ready
        · have stage := createdFrom_planned planned assigned
          rw [ofStage.2] at stage
          exact absurd stage (by decide)
        · exact ready
      refine followed.grow fresh _ (fun ofStage => ?_) (fun ofStage => ?_) fun ofStage => ?_
      · exact (followed.integrate standard ofTask planned (integration ofStage)).1
      · exact (followed.integrate standard ofTask planned (integration ofStage)).2
      · exact unraced ofStage.2
  | foreign operation =>
      obtain ⟨fresh, foreign⟩ := allowed
      have other {stage : String} (member : stage ∈ standardStages) :
          ¬ OfStage taskId stage operation := fun ofStage =>
        foreign ⟨ofStage.1, by rw [ofStage.2]; exact member⟩
      refine followed.grow fresh _ (fun ofStage => ?_) (fun ofStage => ?_) fun ofStage => ?_
      · exact absurd ofStage (other (by decide))
      · exact absurd ofStage (other (by decide))
      · exact absurd ofStage (other (by decide))
  | update change => exact followed.update allowed

theorem followed_run (along : Along IntegrationStep.apply (fun operations step =>
      step.Allowed digests taskId operations ∧ step.Unraced taskId operations) [] steps) :
    Followed taskId steps (run IntegrationStep.apply [] steps) := by
  induction steps using List.reverseRecOn with
  | nil => exact ⟨List.nodup_nil, by simp, by simp⟩
  | append_singleton steps step ih =>
      obtain ⟨before, ⟨allowed, unraced⟩, _⟩ := (along_append _ _ _).mp along
      exact followed_step (ih before) allowed unraced

/-- In a run that starts no verification while an integration of its generation
exists, no integration of earlier code counts for the reworked code. -/
theorem integrations_follow_unraced {digests : Digests} {taskId : String}
    {steps : List IntegrationStep}
    (along : Along IntegrationStep.apply (fun operations step =>
      step.Allowed digests taskId operations ∧ step.Unraced taskId operations) [] steps) :
    IntegrationsFollow digests taskId steps := by
  intro input projection reached standard planned view viewed ofTask integrating
  have past : view.stage.PastGate := by
    rcases integrating with same | same <;> rw [same] <;> decide
  obtain ⟨rows, task, verify, sameId, mode, found, _, stage, _⟩ :=
    standardView_pastGate planned standard viewed ofTask past
  have integrated : ∃ integration,
      (currentOf input rows task).get? "integration" = some integration ∧
        verifiedGeneration verify.currentGeneration ≤
          integration.generationOr (verifiedGeneration verify.currentGeneration) := by
    rcases deriveIntegration_cases (currentOf input rows task)
      (verifiedGeneration verify.currentGeneration) with ⟨waiting, _⟩ | ⟨_, integration⟩
    · rw [← stage] at waiting
      rcases integrating with same | same <;> simp [same] at waiting
    · exact integration
  obtain ⟨integration, integrationFound, recent⟩ := integrated
  have verifyCurrent := currentOperation_of_found (by simp [mode, entryOperationStages]) found
  have integrationCurrent :=
    currentOperation_of_found (by simp [mode, entryOperationStages]) integrationFound
  rw [sameId] at verifyCurrent integrationCurrent
  refine ⟨integration, verify, integrationCurrent, verifyCurrent, ?_⟩
  have followed := followed_run along
  rw [← reached] at followed
  have member {stage : String} {operation : PipelineOperation}
      (current : CurrentOperation input taskId stage operation) :
      operation ∈ input.operations ∧ OfStage taskId stage operation := by
    obtain ⟨listed, ofTask⟩ := List.mem_filter.mp current.member
    exact ⟨listed, by simpa using ofTask, current.ofStage⟩
  obtain ⟨integrationListed, integrationStage⟩ := member integrationCurrent
  obtain ⟨verifyListed, verifyStage⟩ := member verifyCurrent
  have positive := followed.positive integration integrationListed integrationStage
  rw [PipelineOperation.generationOr, if_neg (by omega)] at recent
  rcases followed.settled integration integrationListed integrationStage verify verifyListed
    verifyStage ((le_verifiedGeneration _).trans recent) with created | ⟨later, listed, of, above⟩
  · exact created
  · have below := verifyCurrent.greatest later
      (List.mem_filter.mpr ⟨listed, by simpa using of.1⟩) of.2
    exact absurd above (not_lt.mpr below)

instance (projection : Projection) (operation : PipelineOperation) :
    Decidable (CreatedFrom projection operation) := by
  unfold CreatedFrom
  infer_instance

instance (projection : Projection) (operation : PipelineOperation) :
    Decidable (IntegrationOf projection operation) := by
  unfold IntegrationOf
  infer_instance

instance (taskId : String) (input : ReconcileInput) : Decidable (StandardIn taskId input) := by
  unfold StandardIn
  infer_instance

instance (taskId stage : String) (operation : PipelineOperation) :
    Decidable (OfStage taskId stage operation) := by
  unfold OfStage
  infer_instance

/-- A creation whose plan can be computed is allowed. -/
theorem allowed_create {operations : List PipelineOperation}
    (identified : StandardIn taskId input ∧ operation.taskId = taskId ∧
      operation.operationId ∉ operations.map PipelineOperation.operationId)
    (planned : (reconcile digests { input with operations }).toOption.map (fun projection =>
      decide (CreatedFrom projection operation ∨ IntegrationOf projection operation)) =
        some true) :
    (IntegrationStep.create input operation).Allowed digests taskId operations := by
  obtain ⟨projection, reconciled, origin⟩ := Fallible.ok_of_toOption_map planned
  exact ⟨identified.1, identified.2.1, identified.2.2, projection, reconciled,
    of_decide_eq_true origin⟩

/-- One operation reports a new status. -/
def reportStatus (operationId : String) (status : Workflow.OperationStatus)
    (operation : PipelineOperation) : PipelineOperation :=
  if operation.operationId = operationId then { operation with status } else operation

theorem sameOperation_reportStatus (operationId : String) (status : Workflow.OperationStatus)
    (operation : PipelineOperation) :
    SameOperation (reportStatus operationId status operation) operation := by
  unfold reportStatus
  split
  · exact ⟨rfl, rfl, rfl, rfl⟩
  · exact .refl operation

/-- The gate asks for another generation of the first implementation. -/
def requestedInput : ReconcileInput :=
  { reworkInput with implReworkRequests := Dict.ofEntries [("T1", { operationGeneration := 1 })] }

/-- An implementation, its verification and its integration. -/
def integratedSteps : List IntegrationStep :=
  [.create reworkInput (workOperation "op1" "impl" 1), .update (reportStatus "op1" .settled),
    .create reworkInput (workOperation "op2" "verify" 1), .update (reportStatus "op2" .settled),
    .create reworkInput (workOperation "op3" "integration" 1)]

/-- The integration is superseded and repeated, and then the code is reworked. -/
def reworkedSteps : List IntegrationStep :=
  integratedSteps ++
    [.update (reportStatus "op3" .superseded),
      .create reworkInput (workOperation "op4" "integration" 2),
      .create requestedInput (workOperation "op5" "impl" 2),
      .update (reportStatus "op5" .settled),
      .create requestedInput (workOperation "op6" "verify" 2),
      .update (reportStatus "op6" .settled)]

/-- The pass after the rework views the task as being integrated. -/
theorem reworked_integrating :
    ((reconcile sampleDigests { requestedInput with
      operations := run IntegrationStep.apply [] reworkedSteps }).toOption.map fun projection =>
        projection.tasks.map fun view => (view.taskId, view.stage)) =
      some [("T1", .integrationActive)] := by
  decide +kernel

theorem reworked_allowed : Along IntegrationStep.apply
    (fun operations step => step.Allowed sampleDigests "T1" operations) [] reworkedSteps := by
  refine ⟨?_, fun operation _ => sameOperation_reportStatus _ _ operation, ?_,
    fun operation _ => sameOperation_reportStatus _ _ operation, ?_,
    fun operation _ => sameOperation_reportStatus _ _ operation, ?_, ?_,
    fun operation _ => sameOperation_reportStatus _ _ operation, ?_,
    fun operation _ => sameOperation_reportStatus _ _ operation, True.intro⟩
  all_goals exact allowed_create (by decide +kernel) (by decide +kernel)

/-- The verification of the second generation exists only after the last integration. -/
theorem reworked_verified_last : ∀ position < 11, ∀ operation ∈
    run IntegrationStep.apply [] (reworkedSteps.take position),
      operationStage operation = "verify" → operation.generation = 2 → position = 10 := by
  decide +kernel

theorem reworked_verification : ∀ operation ∈ run IntegrationStep.apply [] reworkedSteps,
    operationStage operation = "verify" →
      operationOrder (workOperation "op6" "verify" 2) ≤ operationOrder operation →
      operation.generation = 2 := by
  decide +kernel

/-- An integration of the first verification counts for the reworked code. -/
theorem stale_integration_counts :
    ¬ ∀ steps, Along IntegrationStep.apply
        (fun operations step => step.Allowed sampleDigests "T1" operations) [] steps →
      IntegrationsFollow sampleDigests "T1" steps := by
  intro claim
  have follow := claim reworkedSteps reworked_allowed
  obtain ⟨projection, planned, views⟩ := Fallible.ok_of_toOption_map reworked_integrating
  obtain ⟨view, viewed, key⟩ := List.mem_map.mp (views ▸ List.mem_cons_self)
  have active : view.taskId = "T1" ∧ view.stage = .integrationActive := Prod.mk.inj key
  obtain ⟨integration, verify, _, current, created⟩ := follow _ projection rfl
    (by decide +kernel) planned view viewed active.1 (Or.inl active.2)
  obtain ⟨before, input, operation, after, split, _, settled, present, sameVerify, _⟩ := created
  have second : verify.generation = 2 := by
    refine reworked_verification verify (List.mem_filter.mp current.member).1 current.ofStage ?_
    exact current.greatest { workOperation "op6" "verify" 2 with status := .settled }
      (by decide +kernel) (by decide +kernel)
  have here : reworkedSteps[before.length]? = some (.create input operation) := by
    rw [split]
    simp
  have start : reworkedSteps.take before.length = before := by
    rw [split]
    simp
  have short : before.length < 11 := by
    obtain ⟨bound, _⟩ := List.getElem?_eq_some_iff.mp here
    exact bound
  have last := reworked_verified_last before.length short settled (start.symm ▸ present)
    (sameVerify.stage ▸ current.ofStage) (sameVerify.generation ▸ second)
  rw [last] at here
  cases here

/-- The run up to the first integration has no race, and its integration counts. -/
theorem integrated_steps_follow :
    IntegrationsFollow sampleDigests "T1" integratedSteps ∧
      ((reconcile sampleDigests { reworkInput with
        operations := run IntegrationStep.apply [] integratedSteps }).toOption.map
          fun projection => projection.tasks.map TaskView.stage) = some [.integrationActive] := by
  refine ⟨integrations_follow_unraced ?_, by decide +kernel⟩
  have allowed := reworked_allowed.initial
  refine ⟨⟨allowed.1, fun _ => by simp⟩, ⟨allowed.2.1, True.intro⟩,
    ⟨allowed.2.2.1, fun _ => by decide +kernel⟩, ⟨allowed.2.2.2.1, True.intro⟩,
    ⟨allowed.2.2.2.2.1, fun verifies => absurd verifies (by decide +kernel)⟩, True.intro⟩

end ZaofuFormal.Pipeline
