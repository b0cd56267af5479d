import ZaofuFormal.Workflow.HashDivergence
import ZaofuFormal.Workflow.Redrive

/-!
# Redrive admission and replay

The admission checks the live state and the reducer checks the event.  Here
both are compared: an admitted redrive is always replayed as one, a refused
call leaves the log alone, and the replay keys of the decision owners keep one
decision from being admitted twice.
-/

namespace ZaofuFormal.Workflow

open Foundation

theorem loadWorkflowOperation_eq_some {log : Log} {operationId : String} {row : OperationRow} :
    loadWorkflowOperation log operationId = .ok (some row) ↔
      rowAt {} log operationId = some row := by
  unfold loadWorkflowOperation rowAt
  cases reduceWorkflowOperations {} log with
  | error error => simp [Except.map]
  | ok operations => simp [Except.map]

section Admission

variable {toFloat : Json → Except FloatError FloatValue} {writer : Writer}
  {request : RedriveRequest} {log extended : Log} {event : ZfEvent}

/-- An appended admission has passed every check. -/
structure Admission (toFloat : Json → Except FloatError FloatValue) (writer : Writer)
    (request : RedriveRequest) (log : Log) (event : ZfEvent) : Prop where
  checked : ∃ row amendment, rowAt {} log request.operationId = some row ∧
    row.requestHash = request.requestHash ∧ request.owner ∈ redriveOwners ∧
    findTaskPipelineBudgetAmendment toFloat log row = .ok amendment ∧
    Redrivable log request row amendment ∧ event = (redriveDraft request row).enrich writer log
  fresh : ¬ ∃ earlier ∈ log, RedriveReplays request earlier

/-- A call appends an admission that passed every check, or leaves the log alone. -/
theorem admit_outcome (toFloat : Json → Except FloatError FloatValue) (writer : Writer)
    (request : RedriveRequest) (log : Log) :
    (∃ event, Admission toFloat writer request log event ∧
        admitTaskPipelineRedrive toFloat writer request log =
          (.ok (some event), log ++ [event])) ∨
      ((∀ event, (admitTaskPipelineRedrive toFloat writer request log).1 ≠ .ok (some event)) ∧
        (admitTaskPipelineRedrive toFloat writer request log).2 = log) := by
  have raises {error : ServiceError} (event : ZfEvent) :
      (Except.error error : Except ServiceError (Option ZfEvent)) ≠ .ok (some event) := by simp
  have silent (event : ZfEvent) :
      (Except.ok none : Except ServiceError (Option ZfEvent)) ≠ .ok (some event) := by simp
  unfold admitTaskPipelineRedrive
  cases loaded : loadWorkflowOperation log request.operationId with
  | error error => exact Or.inr ⟨raises, rfl⟩
  | ok found =>
      cases found with
      | none => exact Or.inr ⟨raises, rfl⟩
      | some row =>
          dsimp only
          split
          · exact Or.inr ⟨raises, rfl⟩
          · rename_i sameHash
            split
            · exact Or.inr ⟨raises, rfl⟩
            · rename_i knownOwner
              split
              · exact Or.inr ⟨raises, rfl⟩
              · rename_i amendment located
                split
                · exact Or.inr ⟨raises, rfl⟩
                · rename_i redrivable
                  split
                  · exact Or.inr ⟨silent, rfl⟩
                  · rename_i fresh
                    refine Or.inl ⟨(redriveDraft request row).enrich writer log,
                      ⟨⟨row, amendment, ?_⟩, fresh⟩, rfl⟩
                    exact ⟨loadWorkflowOperation_eq_some.mp loaded, not_not.mp sameHash,
                      not_not.mp knownOwner, located, not_not.mp redrivable, rfl⟩

theorem admission_of_appended
    (appended :
      admitTaskPipelineRedrive toFloat writer request log = (.ok (some event), extended)) :
    Admission toFloat writer request log event ∧ extended = log ++ [event] := by
  rcases admit_outcome toFloat writer request log with ⟨added, admission, same⟩ | ⟨refused, _⟩
  · rw [appended] at same
    cases same
    exact ⟨admission, rfl⟩
  · exact absurd (congrArg Prod.fst appended) (refused event)

end Admission

section Draft

variable (request : RedriveRequest) (row : OperationRow) (writer : Writer) (log : Log)

theorem redriveDraft_operationId :
    ((redriveDraft request row).enrich writer log).body.textAt "operation_id" =
      request.operationId :=
  Json.text_str request.operationId

theorem redriveDraft_requestHash :
    requestHashOf ((redriveDraft request row).enrich writer log).body = request.requestHash :=
  Json.text_str request.requestHash

theorem redriveDraft_claims :
    redriveClaims ((redriveDraft request row).enrich writer log).body =
      ⟨request.owner, row.status.text, request.compatibilityProofDigest⟩ := by
  have owner := Json.text_str request.owner
  have fromStatus := Json.text_str row.status.text
  have proof := Json.text_str request.compatibilityProofDigest
  exact RedriveClaims.mk.injEq .. ▸ ⟨owner, fromStatus, proof⟩

theorem redriveDraft_decision :
    ((redriveDraft request row).enrich writer log).body.textAt "recovery_decision_event_id" =
      request.recoveryDecisionEventId :=
  Json.text_str request.recoveryDecisionEventId

theorem redriveDraft_sourceAttemptId :
    ((redriveDraft request row).enrich writer log).body.textAt "source_attempt_id" =
      request.sourceAttemptId :=
  Json.text_str request.sourceAttemptId

/-- The admission carries no task pipeline field. -/
theorem redriveDraft_requestFields :
    taskPipelineRequestFields ((redriveDraft request row).enrich writer log).body =
      Dict.empty :=
  rfl

end Draft

theorem noted_redriveCount (row : OperationRow) (event : ZfEvent) :
    (noted row event).redriveCount = row.redriveCount := by
  change (compareHash row event.body).redriveCount = _
  unfold compareHash
  split
  · rfl
  · split <;> rfl

/-- An event without task pipeline fields leaves the stage alone. -/
theorem noted_stage {row : OperationRow} {event : ZfEvent}
    (plain : taskPipelineRequestFields event.body = Dict.empty) :
    (noted row event).stage = row.stage := by
  have fields : (compareHash row event.body).requestFields = row.requestFields := by
    unfold compareHash
    split
    · rfl
    · split <;> rfl
  change ((((compareHash row event.body).requestFields.update
    (taskPipelineRequestFields event.body)).get? "task_pipeline_stage").getD .null).text = row.stage
  rw [fields, plain, Dict.get?_update]
  rfl

section Replay

variable {toFloat : Json → Except FloatError FloatValue} {writer : Writer}
  {request : RedriveRequest} {log : Log} {row : OperationRow}

theorem budgetReason_of_amendment {amendment : ZfEvent}
    (located : findTaskPipelineBudgetAmendment toFloat log row = .ok (some amendment)) :
    PyString.startsWith row.reason "workflow_budget_exceeded:" = true := by
  unfold findTaskPipelineBudgetAmendment at located
  split at located
  · cases located
  · rename_i blocked
    simp only [isBudgetBlocked, Bool.not_eq_true', Bool.not_eq_false, Bool.and_eq_true] at blocked
    exact blocked.1.1.1.2

/-- The reducer accepts what the admission accepted on the same row. -/
theorem acceptsRedrive_of_redrivable {amendment : Option ZfEvent} {payload : Json}
    (located : findTaskPipelineBudgetAmendment toFloat log row = .ok amendment)
    (redrivable : Redrivable log request row amendment)
    (claims : redriveClaims payload =
      ⟨request.owner, row.status.text, request.compatibilityProofDigest⟩) :
    AcceptsRedrive row payload := by
  unfold AcceptsRedrive
  rw [claims]
  rcases redrivable with live | ⟨status, owner, reason⟩ | ⟨status, owner, reason, proof⟩ |
    ⟨status, owner, stage, reason, _⟩ | ⟨status, owner, amended⟩
  · exact Or.inl live
  · exact Or.inr (Or.inl ⟨status, reason, owner, by rw [status]; rfl⟩)
  · exact Or.inr (Or.inr (Or.inl ⟨status, reason, owner, by rw [status]; rfl, proof⟩))
  · exact Or.inr (Or.inr (Or.inr (Or.inl ⟨status, stage, reason, owner, by rw [status]; rfl⟩)))
  · obtain ⟨event, rfl, _⟩ := Option.map_eq_some_iff.mp amended
    exact Or.inr (Or.inr (Or.inr (Or.inr ⟨status, budgetReason_of_amendment located, owner,
      by rw [status]; rfl⟩)))

/-- Acceptance looks at the status, the reason and the stage of a row only. -/
theorem acceptsRedrive_congr {first second : OperationRow} {payload : Json}
    (status : first.status = second.status) (reason : first.reason = second.reason)
    (stage : first.stage = second.stage) (accepted : AcceptsRedrive first payload) :
    AcceptsRedrive second payload := by
  unfold AcceptsRedrive at accepted ⊢
  rw [← status, ← reason, ← stage]
  exact accepted

/-- The row of the operation after its admission. -/
theorem rowAt_of_admission {event : ZfEvent}
    (admission : Admission toFloat writer request log event) :
    ∃ before after, rowAt {} log request.operationId = some before ∧
      rowAt {} (log ++ [event]) request.operationId = some after ∧
      after.status = .requested ∧ after.redriveCount = before.redriveCount + 1 := by
  obtain ⟨row, amendment, found, sameHash, _, located, redrivable, rfl⟩ := admission.checked
  obtain ⟨trimmed, nonempty⟩ := rowAt_key found
  have target : operationIdOf ((redriveDraft request row).enrich writer log).body =
      request.operationId := by
    rw [operationIdOf, redriveDraft_operationId, trimmed]
  have address : addressed {} ((redriveDraft request row).enrich writer log) =
      some (request.operationId, .redriveAdmitted) := by
    rw [← target]
    exact addressed_of_type rfl (target ▸ nonempty)
  have agrees : ¬ Diverges row ((redriveDraft request row).enrich writer log).body := by
    rintro ⟨_, _, different⟩
    rw [redriveDraft_requestHash] at different
    exact different sameHash
  have accepted := acceptsRedrive_congr
    (by rw [noted_status, if_neg agrees]) (by rw [noted_reason, if_neg agrees])
    (noted_stage (redriveDraft_requestFields request row writer log)).symm
    (acceptsRedrive_of_redrivable located redrivable
      (redriveDraft_claims request row writer log))
  have moves : transition (noted row ((redriveDraft request row).enrich writer log))
      .redriveAdmitted ((redriveDraft request row).enrich writer log) =
      .ok (redriven (noted row ((redriveDraft request row).enrich writer log))
        ((redriveDraft request row).enrich writer log).body) := by
    rw [transition, if_pos accepted]
  have replayed := rowAt_of_transition found address moves
  refine ⟨row, _, found, replayed, ?_, ?_⟩
  · rw [noteLast_status]
    rfl
  · rcases noteLast_cases _ _ _ _ with same | same <;> rw [same] <;>
      exact congrArg (· + 1) (noted_redriveCount row _)

end Replay

/-- Both events admit a redrive of one operation, the later one brings no
compatibility proof, and they share the key by which its owner recognizes a
replay. -/
def SharesRedriveKey (earlier later : ZfEvent) : Prop :=
  earlier.type = OperationEventType.redriveAdmitted.text ∧
    later.type = OperationEventType.redriveAdmitted.text ∧
    earlier.body.textAt "operation_id" = later.body.textAt "operation_id" ∧
    (redriveClaims later.body).proofDigest = "" ∧
    (((redriveClaims later.body).owner = "kernel_replay" ∧
        (redriveClaims earlier.body).owner = "kernel_replay" ∧
        earlier.body.textAt "recovery_decision_event_id" =
          later.body.textAt "recovery_decision_event_id") ∨
      ((redriveClaims later.body).owner = "operator_budget_amendment" ∧
        earlier.body.textAt "recovery_decision_event_id" =
          later.body.textAt "recovery_decision_event_id") ∨
      ((redriveClaims later.body).owner ∈ ["run_manager", "controlled_action"] ∧
        earlier.body.textAt "source_attempt_id" = later.body.textAt "source_attempt_id"))

instance (earlier later : ZfEvent) : Decidable (SharesRedriveKey earlier later) := by
  unfold SharesRedriveKey
  infer_instance

theorem fresh_key_of_admission {toFloat : Json → Except FloatError FloatValue} {writer : Writer}
    {request : RedriveRequest} {log : Log} {event : ZfEvent}
    (admission : Admission toFloat writer request log event) {earlier : ZfEvent}
    (member : earlier ∈ log) : ¬ SharesRedriveKey earlier event := by
  rintro ⟨isRedrive, _, sameOperation, noProof, sameKey⟩
  obtain ⟨row, _, _, _, _, _, _, rfl⟩ := admission.checked
  apply admission.fresh
  rw [redriveDraft_claims] at noProof sameKey
  rw [redriveDraft_operationId] at sameOperation
  rw [redriveDraft_decision, redriveDraft_sourceAttemptId] at sameKey
  dsimp only at noProof sameKey
  refine ⟨earlier, member, isRedrive, sameOperation, Or.inr ?_⟩
  rcases sameKey with ⟨owner, earlierOwner, decision⟩ | ⟨owner, decision⟩ | ⟨owner, attempt⟩
  · exact Or.inl ⟨noProof, owner, earlierOwner, decision⟩
  · exact Or.inr (Or.inl ⟨noProof, owner, decision⟩)
  · refine Or.inr (Or.inr ⟨noProof, fun special => ?_, attempt⟩)
    rcases List.mem_pair.mp owner with manager | action
    · rw [manager] at special
      exact absurd special (by decide)
    · rw [action] at special
      exact absurd special (by decide)

/-- A redrive call, or an event of another type that someone appends in between. -/
inductive RedriveStep where
  | call (request : RedriveRequest)
  | other (event : ZfEvent) (notAdmission : event.type ≠ OperationEventType.redriveAdmitted.text)

section Runs

variable (toFloat : Json → Except FloatError FloatValue) (writer : Writer)

def takeStep (log : Log) : RedriveStep → Log
  | .call request => (admitTaskPipelineRedrive toFloat writer request log).2
  | .other event _ => log ++ [event]

/-- What was appended shares no key with anything before it. -/
def FreshSince (initial log : Log) : Prop :=
  ∃ added, log = initial ++ added ∧
    added.Pairwise (fun earlier later => ¬ SharesRedriveKey earlier later) ∧
    ∀ earlier ∈ initial, ∀ later ∈ added, ¬ SharesRedriveKey earlier later

theorem FreshSince.append {initial log : Log} {event : ZfEvent} (fresh : FreshSince initial log)
    (unshared : ∀ earlier ∈ log, ¬ SharesRedriveKey earlier event) :
    FreshSince initial (log ++ [event]) := by
  obtain ⟨added, rfl, distinct, apart⟩ := fresh
  refine ⟨added ++ [event], List.append_assoc _ _ _, ?_, ?_⟩
  · rw [List.pairwise_append]
    refine ⟨distinct, List.pairwise_singleton _ _, fun earlier member later last => ?_⟩
    rw [List.mem_singleton.mp last]
    exact unshared earlier (List.mem_append_right initial member)
  · intro earlier member later appended
    rcases List.mem_append.mp appended with old | last
    · exact apart earlier member later old
    · rw [List.mem_singleton.mp last]
      exact unshared earlier (List.mem_append_left added member)

theorem takeStep_fresh {initial log : Log} (fresh : FreshSince initial log)
    (step : RedriveStep) : FreshSince initial (takeStep toFloat writer log step) := by
  cases step with
  | call request =>
      rcases admit_outcome toFloat writer request log with ⟨event, admission, same⟩ | ⟨_, same⟩
      · rw [takeStep, same]
        exact fresh.append fun earlier member => fresh_key_of_admission admission member
      · rw [takeStep, same]
        exact fresh
  | other event notAdmission =>
      exact fresh.append fun earlier _ shared => notAdmission shared.2.1

theorem run_fresh (initial : Log) (steps : List RedriveStep) :
    FreshSince initial (Runs.run (takeStep toFloat writer) initial steps) := by
  have start : FreshSince initial initial :=
    ⟨[], (List.append_nil initial).symm, List.Pairwise.nil,
      fun _ _ _ member => absurd member List.not_mem_nil⟩
  exact Runs.Along.invariant (FreshSince initial)
    (fun _ step fresh _ => takeStep_fresh toFloat writer fresh step) start
    (Runs.along_of_forall_mem (fun _ _ => True.intro) initial)

/-- Admission and replay agree: an appended redrive is replayed as exactly one
redrive, any other outcome leaves the log unchanged, and over a run no decision
or attempt is admitted twice without a compatibility proof. -/
theorem redrive_replays_as_admitted :
    (∀ request log event extended,
      admitTaskPipelineRedrive toFloat writer request log = (.ok (some event), extended) →
        ∃ before after,
          loadWorkflowOperation log request.operationId = .ok (some before) ∧
          loadWorkflowOperation extended request.operationId = .ok (some after) ∧
          after.status = .requested ∧ after.redriveCount = before.redriveCount + 1) ∧
      (∀ request log,
        (∀ event, (admitTaskPipelineRedrive toFloat writer request log).1 ≠ .ok (some event)) →
          (admitTaskPipelineRedrive toFloat writer request log).2 = log) ∧
      ∀ initial steps, FreshSince initial (Runs.run (takeStep toFloat writer) initial steps) := by
  refine ⟨?_, ?_, run_fresh toFloat writer⟩
  · intro request log event extended appended
    obtain ⟨admission, rfl⟩ := admission_of_appended appended
    obtain ⟨before, after, found, replayed, status, count⟩ := rowAt_of_admission admission
    exact ⟨before, after, loadWorkflowOperation_eq_some.mpr found,
      loadWorkflowOperation_eq_some.mpr replayed, status, count⟩
  · intro request log refused
    rcases admit_outcome toFloat writer request log with ⟨event, _, same⟩ | ⟨_, same⟩
    · exact absurd (congrArg Prod.fst same) (refused event)
    · exact same

end Runs

/-- A writer that numbers its events. -/
def sampleWriter : Writer where
  stamp position := ⟨"evt-" ++ toString position, "2026-07-09T09:00:00+00:00", "trace"⟩

/-- `float` on the numbers of a decoded payload. -/
def numberToFloat (value : Json) : Except FloatError FloatValue :=
  match value.number? with
  | some number => .ok (.finite number)
  | none => .error .conversion

def suspendedLog : Log := [sampleEvent .requested "h1" [], sampleEvent .interrupted "h1" []]

/-- The request of the run manager to redrive the attempt `a1`, under a proof digest. -/
def managerRedrive (proofDigest : String) : RedriveRequest where
  operationId := "op-1"
  requestHash := "h1"
  workflowRunId := "run-1"
  taskId := "task-1"
  sourceAttemptId := "a1"
  recoveryDecisionEventId := "evt-decision"
  reason := "worker lost"
  compatibilityProofDigest := proofDigest

theorem manager_redrive_replayed :
    ∃ event extended,
      admitTaskPipelineRedrive numberToFloat sampleWriter (managerRedrive "") suspendedLog =
        (.ok (some event), extended) ∧
      ∃ before after,
        loadWorkflowOperation suspendedLog "op-1" = .ok (some before) ∧
        loadWorkflowOperation extended "op-1" = .ok (some after) ∧
        after.status = .requested ∧ after.redriveCount = before.redriveCount + 1 := by
  have appended : ∃ event extended,
      admitTaskPipelineRedrive numberToFloat sampleWriter (managerRedrive "") suspendedLog =
        (.ok (some event), extended) := by
    refine ⟨(redriveDraft (managerRedrive "") { seedRow (sampleEvent .requested "h1" []) with
      status := .suspended }).enrich sampleWriter suspendedLog,
      (admitTaskPipelineRedrive numberToFloat sampleWriter (managerRedrive "") suspendedLog).2, ?_⟩
    exact Prod.ext (by decide +kernel) rfl
  obtain ⟨event, extended, same⟩ := appended
  exact ⟨event, extended, same,
    (redrive_replays_as_admitted numberToFloat sampleWriter).1 _ _ _ _ same⟩

/-- Two admissions of one attempt by the run manager or a controlled action. -/
def SharesSourceAttempt (earlier later : ZfEvent) : Prop :=
  earlier.type = OperationEventType.redriveAdmitted.text ∧
    later.type = OperationEventType.redriveAdmitted.text ∧
    earlier.body.textAt "operation_id" = later.body.textAt "operation_id" ∧
    (redriveClaims earlier.body).owner ∈ ["run_manager", "controlled_action"] ∧
    (redriveClaims later.body).owner ∈ ["run_manager", "controlled_action"] ∧
    earlier.body.textAt "source_attempt_id" = later.body.textAt "source_attempt_id"

instance (earlier later : ZfEvent) : Decidable (SharesSourceAttempt earlier later) := by
  unfold SharesSourceAttempt
  infer_instance

/-- Under two different proofs the run manager redrives one attempt twice. -/
theorem proven_attempt_redriven_twice :
    ¬ ∀ (toFloat : Json → Except FloatError FloatValue) (writer : Writer)
      (requests : List RedriveRequest),
      (Runs.run (takeStep toFloat writer) suspendedLog (requests.map .call)).Pairwise
        (fun earlier later => ¬ SharesSourceAttempt earlier later) := by
  intro distinct
  exact absurd (distinct numberToFloat sampleWriter [managerRedrive "p1", managerRedrive "p2"])
    (by decide +kernel)

end ZaofuFormal.Workflow
