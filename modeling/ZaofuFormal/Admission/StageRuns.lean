import ZaofuFormal.Admission.Stages

/-!
# Operations keep every run in a stage

A rejection ends its run, or belongs to an invoke inside an admitted run and
changes nothing.  After an admission the handler only records outcomes, which
leave the run admitted or end it.  Handler calls, reconcile passes and whole runs
of the system are built from these.
-/

namespace ZaofuFormal.Admission

open Foundation Foundation.Runs Workflow

/-- The run was admitted and is running, or it ended. -/
def Decided (log : Log) (runId : String) : Prop :=
  ∃ entry, (runsOf log).get? runId = some entry ∧
    (Holding log runId entry ∨ entry.terminal = true)

theorem Decided.staged {log : Log} {runId : String} (decided : Decided log runId) :
    Staged log runId := by
  obtain ⟨entry, found, holding | terminal⟩ := decided
  · exact .holding found holding
  · exact .ended found terminal

section Extends

variable (runtime : Runtime) (source : ZfEvent) (log : Log)

theorem recordAdmission_extends (kind : AdmissionKind) (extra : List (String × Json)) :
    log <+: recordAdmission runtime kind source extra log := by
  rcases recordAdmission_cases runtime kind source extra log with ⟨same, _⟩ | appended
  · rw [same]
  · rw [appended]
    exact List.prefix_append log _

theorem grant_extends (queued : Bool) : log <+: grant runtime source queued log := by
  unfold grant
  cases queued with
  | false => exact recordAdmission_extends runtime source log .admitted _
  | true =>
      exact (recordAdmission_extends runtime source log .released _).trans
        (recordAdmission_extends runtime source _ .admitted _)

theorem admit_extends : log <+: (admitWorkflowInvoke runtime source log).2 := by
  have asked := recordAdmission_extends runtime source log .requested []
  rcases admitWorkflowInvoke_cases runtime source log with
    ⟨same, _⟩ | ⟨_, _, ⟨blocker, same, _⟩ | ⟨same, _⟩⟩
  · rw [same]
  · rw [same]
    exact asked.trans (recordAdmission_extends runtime source _ .queued _)
  · rw [same]
    exact asked.trans (grant_extends runtime source _ _)

theorem reject_extends (reason : String) :
    log <+: rejectWorkflowInvokeAdmission runtime source reason log := by
  unfold rejectWorkflowInvokeAdmission
  split
  · exact List.prefix_refl log
  · split
    · exact List.prefix_refl log
    · exact (recordAdmission_extends runtime source log .requested []).trans
        (recordAdmission_extends runtime source _ .rejected _)

theorem emitWorkflowInvokeRejected_extends (taskId patternId reason : String) :
    log <+: emitWorkflowInvokeRejected runtime source taskId patternId reason log :=
  (List.prefix_append log _).trans (reject_extends runtime source _ reason)

end Extends

theorem Invoked.mono {log later : Log} {source : ZfEvent} (invoked : Invoked log source)
    (extends_ : log <+: later) : Invoked later source :=
  ⟨extends_.subset invoked.1, invoked.2⟩

section Operations

variable {runtime : Runtime} {log : Log} {source : ZfEvent}

theorem rejectWorkflowInvokeAdmission_cases (stamped : Stamped runtime.writer)
    (beside : Beside runtime.writer (eventRunId source) log) (invoked : Invoked log source)
    (named : eventRunId source ≠ "") (reason : String) :
    (nestedInvoke source log = true ∧
        rejectWorkflowInvokeAdmission runtime source reason log = log) ∨
      (Beside runtime.writer (eventRunId source)
          (rejectWorkflowInvokeAdmission runtime source reason log) ∧
        ∃ entry, (runsOf (rejectWorkflowInvokeAdmission runtime source reason log)).get?
          (eventRunId source) = some entry ∧ entry.terminal = true) := by
  unfold rejectWorkflowInvokeAdmission
  rw [if_neg named]
  by_cases nested : nestedInvoke source log = true
  · exact Or.inl ⟨nested, if_pos nested⟩
  · rw [if_neg nested]
    obtain ⟨asked, known⟩ := recordAdmission_beside .requested [] stamped beside invoked named
      (by simp)
    refine Or.inr ⟨(recordAdmission_beside .rejected _ stamped asked known named (by simp)).1, ?_⟩
    rcases recordAdmission_cases runtime .rejected source _
      (recordAdmission runtime .requested source [] log) with ⟨same, present⟩ | appended
    · rw [same]
      obtain ⟨event, member, read, run, _⟩ :=
        exists_of_admissionEventForSource asked.core stamped known present
      exact run ▸ asked.core.rejected event member read
    · rw [appended]
      exact ⟨_, runsOf_admissionEvent runtime _ _ asked.core.sourced named, rfl⟩

/-- A nested invoke belongs to an admitted run. -/
theorem holding_of_nested (staged : Staged log (eventRunId source))
    (nested : nestedInvoke source log = true) : Decided log (eventRunId source) := by
  obtain ⟨entry, found, active⟩ := (Option.any_eq_true _ _).mp nested
  simp only [Bool.and_eq_true] at active
  cases staged with
  | fresh absent _ => rw [absent] at found; cases found
  | waiting known waiting =>
      cases Option.some.inj (known.symm.trans found)
      have idle := active.1.1
      rw [RunAdmissionEntry.active, waiting.status] at idle
      cases idle
  | holding known holding => exact ⟨_, known, Or.inl holding⟩
  | ended known terminal => exact ⟨_, known, Or.inr terminal⟩

theorem reject_tracked (stamped : Stamped runtime.writer) (tracked : Tracked runtime.writer log)
    (invoked : Invoked log source) (reason : String) :
    Tracked runtime.writer (rejectWorkflowInvokeAdmission runtime source reason log) := by
  by_cases named : eventRunId source ≠ ""
  · rcases rejectWorkflowInvokeAdmission_cases stamped tracked.open invoked named reason with
      ⟨_, same⟩ | ⟨beside, entry, found, terminal⟩
    · rw [same]
      exact tracked
    · exact beside.close fun _ => .ended found terminal
  · rw [rejectWorkflowInvokeAdmission, if_pos (not_not.mp named)]
    exact tracked

variable (runtime) in
theorem appendable_rejectionEvent (invoked : Invoked log source)
    (taskId patternId reason : String) :
    Appendable runtime.writer log (eventRunId source)
      (rejectionEvent runtime source taskId patternId reason log) :=
  .rejection invoked rfl (Json.text_str source.id)

theorem emitWorkflowInvokeRejected_tracked (stamped : Stamped runtime.writer)
    (tracked : Tracked runtime.writer log) (invoked : Invoked log source)
    (taskId patternId reason : String) :
    Tracked runtime.writer
        (emitWorkflowInvokeRejected runtime source taskId patternId reason log) ∧
      (eventRunId source ≠ "" → Decided
        (emitWorkflowInvokeRejected runtime source taskId patternId reason log)
        (eventRunId source)) := by
  have appended := appendable_rejectionEvent runtime invoked taskId patternId reason
  have working : Beside runtime.writer (eventRunId source) log := tracked.open
  have beside := working.append stamped appended (Or.inr rfl)
  have silent : runEvent? (rejectionEvent runtime source taskId patternId reason log) = none :=
    runEvent?_rejection rfl
  unfold emitWorkflowInvokeRejected
  by_cases named : eventRunId source ≠ ""
  · rcases rejectWorkflowInvokeAdmission_cases stamped beside (invoked.append _) named reason with
      ⟨nested, same⟩ | ⟨ended, entry, found, terminal⟩
    · have kept : (runsOf (log ++ [rejectionEvent runtime source taskId patternId reason log])).get?
          (eventRunId source) = (runsOf log).get? (eventRunId source) := by
        rw [runsOf_append beside.core.sourced, noteFor_none silent]
      have before : nestedInvoke source log = true := by
        rw [nestedInvoke, ← kept]
        exact nested
      obtain ⟨entry, found, holding | terminal⟩ :=
        holding_of_nested (tracked.staged _ named named) before
      · have decided : Decided (log ++ [rejectionEvent runtime source taskId patternId reason log])
            (eventRunId source) :=
          ⟨entry, kept.trans found, Or.inl ⟨holding.status, holding.admitted,
            holding.source.append _⟩⟩
        rw [same]
        exact ⟨beside.close fun _ => decided.staged, fun _ => decided⟩
      · have decided : Decided (log ++ [rejectionEvent runtime source taskId patternId reason log])
            (eventRunId source) := ⟨entry, kept.trans found, Or.inr terminal⟩
        rw [same]
        exact ⟨beside.close fun _ => decided.staged, fun _ => decided⟩
    · exact ⟨ended.close fun _ => .ended found terminal, fun _ => ⟨entry, found, Or.inr terminal⟩⟩
  · rw [rejectWorkflowInvokeAdmission, if_pos (not_not.mp named)]
    exact ⟨beside.close fun nonempty => absurd nonempty named, fun nonempty =>
      absurd nonempty named⟩

theorem acceptanceEvent_runId (named : eventRunId source ≠ "") (taskId : String)
    (fields : List (String × Json)) :
    eventRunId (acceptanceEvent runtime source taskId fields log) = eventRunId source := by
  have workflowRun : (acceptanceEvent runtime source taskId fields log).body.textAt
      "workflow_run_id" = eventRunId source := Json.text_str _
  exact eventRunId_of_workflowRunId workflowRun named (strip_eventRunId source)

variable (runtime) in
theorem appendable_acceptanceEvent (invoked : Invoked log source) (named : eventRunId source ≠ "")
    (taskId : String) (fields : List (String × Json)) :
    Appendable runtime.writer log (eventRunId source)
      (acceptanceEvent runtime source taskId fields log) := by
  refine .acceptance invoked ?_ (acceptanceEvent_runId named taskId fields)
    (Json.text_str source.id)
  rw [runEvent?, acceptanceEvent_runId named, if_neg named]
  exact runEventKind?_accepted

/-- A legacy fact that names its invoke changes the identities only. -/
theorem RunAdmissionEntry.note_legacy {entry : RunAdmissionEntry} {kind : LegacyKind}
    {event : ZfEvent} (named : strippedAt event.body "source_event_id" ≠ "") (index : Nat) :
    entry.note [] index (.legacy kind) event = entry.identify (.legacy kind) event := by
  have dedicated : (entry.identify (.legacy kind) event).hasDedicatedAdmission = true := by
    refine RunAdmissionEntry.hasDedicatedAdmission_of_source ?_
    rw [RunAdmissionEntry.identify_sourceEventId, if_pos named]
    exact named
  simp only [RunAdmissionEntry.note, RunAdmissionEntry.advance, dedicated, not_true_eq_false,
    false_and, and_false, if_false]

theorem Decided.accept (decided : Decided log (eventRunId source))
    (stamped : Stamped runtime.writer) (core : Core runtime.writer log)
    (invoked : Invoked log source) (named : eventRunId source ≠ "") (taskId : String)
    (fields : List (String × Json)) :
    Decided (log ++ [acceptanceEvent runtime source taskId fields log]) (eventRunId source) := by
  have appended := appendable_acceptanceEvent runtime invoked named taskId fields
  have sourced := appended.sourced core stamped
  obtain ⟨entry, found, holding | terminal⟩ := decided
  · obtain ⟨trimmed, nonempty⟩ := core.trimmed stamped invoked
    have name : strippedAt (acceptanceEvent runtime source taskId fields log).body
        "source_event_id" = source.id := by
      rw [strippedAt]
      exact (congrArg PyString.strip (Json.text_str source.id)).trans trimmed
    have read : runEvent? (acceptanceEvent runtime source taskId fields log) =
        some (.legacy .invokeAccepted) := by
      rw [runEvent?, acceptanceEvent_runId named, if_neg named]
      exact runEventKind?_accepted
    have noted := noteFor_some [] read ((runsOf log).get? (eventRunId source)) log.length
    rw [acceptanceEvent_runId named, found, Option.getD_some,
      RunAdmissionEntry.note_legacy (name ▸ nonempty)] at noted
    refine ⟨_, (runsOf_append sourced _).trans (found ▸ noted), Or.inl ⟨?_, ?_, ?_⟩⟩
    · rw [RunAdmissionEntry.identify_status, holding.status]
    · rw [RunAdmissionEntry.identify_admittedEventId]
      exact holding.admitted
    · refine ⟨source, invoked.append _, rfl, ?_⟩
      rw [RunAdmissionEntry.identify_sourceEventId, name, if_pos nonempty]
  · obtain ⟨later, known, ended⟩ :=
      ended_append sourced appended.not_goalUpdated ⟨entry, found, terminal⟩
    exact ⟨later, known, Or.inr ended⟩

theorem sideEvents_beside (stamped : Stamped runtime.writer) {own : String}
    (beside : Beside runtime.writer own log) (sides : List SideEvent) :
    Beside runtime.writer own (log ++ sides.map SideEvent.event) := by
  induction sides generalizing log with
  | nil => simpa using beside
  | cons side rest ih =>
      have first := beside.append stamped (.side side) (Or.inl rfl)
      have later := ih first
      rwa [List.append_assoc, List.singleton_append] at later

/-- A decided run stays decided while the handler follows up on its admission. -/
theorem followUp_decided (stamped : Stamped runtime.writer) (tracked : Tracked runtime.writer log)
    (invoked : Invoked log source) (named : eventRunId source ≠ "")
    (decided : Decided log (eventRunId source)) (followUp : FollowUp) :
    Tracked runtime.writer (followUp.apply runtime source log) ∧
      Invoked (followUp.apply runtime source log) source ∧
      Decided (followUp.apply runtime source log) (eventRunId source) := by
  cases followUp with
  | note side =>
      have appended : Appendable runtime.writer log "" side.event := .side side
      refine ⟨tracked.append stamped appended (Or.inl rfl), invoked.append _, ?_⟩
      have kept := runsOf_append_other tracked.core stamped appended named.symm
      obtain ⟨entry, found, holding | terminal⟩ := decided
      · exact ⟨entry, kept.trans found, Or.inl
          ⟨holding.status, holding.admitted, holding.source.append _⟩⟩
      · exact ⟨entry, kept.trans found, Or.inr terminal⟩
  | accept taskId fields =>
      have appended := appendable_acceptanceEvent runtime invoked named taskId fields
      have working : Beside runtime.writer (eventRunId source) log := tracked.open
      have later := decided.accept stamped tracked.core invoked named taskId fields
      exact ⟨(working.append stamped appended (Or.inr rfl)).close fun _ => later.staged,
        invoked.append _, later⟩
  | refuse taskId patternId reason =>
      obtain ⟨kept, later⟩ := emitWorkflowInvokeRejected_tracked stamped tracked invoked taskId
        patternId reason
      have extended :=
        emitWorkflowInvokeRejected_extends runtime source log taskId patternId reason
      exact ⟨kept, invoked.mono extended, later named⟩

theorem followUps_decided (stamped : Stamped runtime.writer)
    (tracked : Tracked runtime.writer log) (invoked : Invoked log source)
    (named : eventRunId source ≠ "") (decided : Decided log (eventRunId source))
    (followUps : List FollowUp) :
    Tracked runtime.writer (followUps.foldl (FollowUp.apply runtime source) log) ∧
      Decided (followUps.foldl (FollowUp.apply runtime source) log) (eventRunId source) := by
  induction followUps generalizing log with
  | nil => exact ⟨tracked, decided⟩
  | cons followUp rest ih =>
      obtain ⟨kept, known, later⟩ :=
        followUp_decided stamped tracked invoked named decided followUp
      exact ih kept known later

theorem handleInvoke_tracked (stamped : Stamped runtime.writer)
    (tracked : Tracked runtime.writer log) (invoked : Invoked log source) (handling : Handling) :
    Tracked runtime.writer (handleInvoke runtime handling source log) := by
  have begun := sideEvents_beside stamped tracked handling.preface
  have known := invoked.mono (List.prefix_append log (handling.preface.map SideEvent.event))
  unfold handleInvoke
  cases handling.verdict with
  | refuse taskId patternId reason =>
      exact (emitWorkflowInvokeRejected_tracked stamped begun known taskId patternId reason).1
  | admits followUps =>
      obtain ⟨kept, admitted⟩ := admit_tracked stamped begun known
      simp only
      split
      · rename_i status
        obtain ⟨named, entry, found, holding⟩ := admitted status
        exact (followUps_decided stamped kept (known.mono (admit_extends runtime source _)) named
          ⟨entry, found, Or.inl holding⟩ followUps).1
      · exact kept

theorem reconcileSource_invoked {attempted : List String}
    (selected : reconcileSource runtime attempted log = some source) : Invoked log source := by
  obtain ⟨runId, _, found⟩ := List.exists_of_findSome?_eq_some selected
  unfold candidateSource at found
  split at found
  · cases found
  · split at found
    · cases found
    · have hit := List.find?_some found
      exact ⟨List.mem_of_find?_eq_some found, (of_decide_eq_true hit).2⟩

theorem reconcileRunAdmission_tracked (stamped : Stamped runtime.writer)
    (tracked : Tracked runtime.writer log) (handlings : List Handling)
    (attempted : List String) :
    Tracked runtime.writer (reconcileRunAdmission runtime handlings attempted log).2 := by
  induction handlings generalizing attempted log with
  | nil => exact tracked
  | cons handling rest ih =>
      unfold reconcileRunAdmission
      split
      · exact tracked
      · rename_i source selected
        have handled := handleInvoke_tracked stamped tracked (reconcileSource_invoked selected)
          handling
        split
        · exact handled
        · exact ih handled _

end Operations

theorem SystemStep.apply_tracked {runtime : Runtime} {log : Log} {step : SystemStep}
    (stamped : Stamped runtime.writer) (tracked : Tracked runtime.writer log)
    (enabled : step.Enabled log) : Tracked runtime.writer (step.apply runtime log) := by
  cases step with
  | submit draft =>
      exact tracked.append stamped (.submitted rfl rfl) (Or.inl rfl)
  | admitInvoke source => exact (admit_tracked stamped tracked enabled).1
  | reject source reason => exact reject_tracked stamped tracked enabled reason
  | handle handling source => exact handleInvoke_tracked stamped tracked enabled handling
  | reconcile handlings => exact reconcileRunAdmission_tracked stamped tracked handlings []
  | record event =>
      rcases recordable_cases enabled with ⟨kind, type⟩ | ⟨unread, noOutcome, noInvoke⟩
      · have appended : Appendable runtime.writer log (eventRunId event) event := .terminal type
        have working : Beside runtime.writer (eventRunId event) log := tracked.open
        have beside := working.append stamped appended (Or.inr rfl)
        refine beside.close fun named => ?_
        have read : runEvent? event = some (.terminal kind) := by
          rw [runEvent?, if_neg named, type]
        refine .ended ((runsOf_append beside.core.sourced _).trans (noteFor_some [] read _ _)) ?_
        exact terminalStatus_terminal kind event.body
      · exact tracked.append stamped (.side ⟨event, unread, noOutcome, noInvoke⟩) (Or.inl rfl)

theorem tracked_nil (writer : Writer) : Tracked writer [] := by
  refine ⟨⟨?_, ?_, ?_, ?_, ?_, ?_⟩, fun runId _ _ => .fresh rfl ⟨⟨?_, ?_⟩, rfl, rfl⟩⟩
  · intro position event present
    cases present
  · intro event member
    cases member
  · intro event member
    cases member
  · intro event member
    cases member
  · intro event member
    cases member
  · intro event member
    cases member
  · intro event member
    cases member
  · intro source invoked
    cases invoked.1

end ZaofuFormal.Admission
