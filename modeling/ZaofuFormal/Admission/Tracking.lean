import ZaofuFormal.Admission.Reconcile

/-!
# Logs that the admission system writes

Every event of such a log is of one of six sorts, and each sort concerns at most
one run.  Between two operations every run is in one of four stages: nothing was
asked for it, it waits in the queue, it was admitted and is running, or it ended.
-/

namespace ZaofuFormal.Admission

open Foundation Foundation.Runs Workflow

/-- Event ids are distinct, not empty and without white space around them. -/
structure Stamped (writer : Writer) : Prop where
  distinct : ∀ first second, (writer.stamp first).id = (writer.stamp second).id → first = second
  named : ∀ position, (writer.stamp position).id ≠ ""
  trimmed : ∀ position, PyString.strip (writer.stamp position).id = (writer.stamp position).id

/-- An invoke request of the log. -/
def Invoked (log : Log) (source : ZfEvent) : Prop := source ∈ log ∧ source.type = invokeRequested

instance (log : Log) (source : ZfEvent) : Decidable (Invoked log source) := by
  unfold Invoked
  infer_instance

inductive SystemStep where
  | submit (draft : Draft)
  | admitInvoke (source : ZfEvent)
  | reject (source : ZfEvent) (reason : String)
  | handle (handling : Handling) (source : ZfEvent)
  | reconcile (handlings : List Handling)
  | record (event : ZfEvent)

def submittedEvent (runtime : Runtime) (draft : Draft) (log : Log) : ZfEvent :=
  Draft.enrich { draft with type := invokeRequested } runtime.writer log

def SystemStep.apply (runtime : Runtime) (log : Log) : SystemStep → Log
  | .submit draft => log ++ [submittedEvent runtime draft log]
  | .admitInvoke source => (admitWorkflowInvoke runtime source log).2
  | .reject source reason => rejectWorkflowInvokeAdmission runtime source reason log
  | .handle handling source => handleInvoke runtime handling source log
  | .reconcile handlings => (reconcileRunAdmission runtime handlings [] log).2
  | .record event => log ++ [event]

/-- A terminal run event, or one that admission does not read. -/
def Recordable (event : ZfEvent) : Prop :=
  match runEventKind? event.type with
  | none => event.type ∉ outcomeEvents ∧ event.type ≠ invokeRequested
  | some (.terminal _) => True
  | some _ => False

instance (event : ZfEvent) : Decidable (Recordable event) := by
  unfold Recordable
  split <;> infer_instance

theorem recordable_cases {event : ZfEvent} (recordable : Recordable event) :
    (∃ kind, runEventKind? event.type = some (.terminal kind)) ∨
      (runEventKind? event.type = none ∧ event.type ∉ outcomeEvents ∧
        event.type ≠ invokeRequested) := by
  unfold Recordable at recordable
  split at recordable
  · rename_i unread
    exact Or.inr ⟨unread, recordable⟩
  · rename_i kind read
    exact Or.inl ⟨kind, read⟩
  · exact recordable.elim

/-- The operations are called on invoke requests read from the log. -/
def SystemStep.Enabled (log : Log) : SystemStep → Prop
  | .submit _ => True
  | .admitInvoke source => Invoked log source
  | .reject source _ => Invoked log source
  | .handle _ source => Invoked log source
  | .reconcile _ => True
  | .record event => Recordable event

instance (log : Log) (step : SystemStep) : Decidable (step.Enabled log) := by
  cases step <;> unfold SystemStep.Enabled <;> infer_instance

/-- The events that may be appended to a log, with the run that each concerns. -/
inductive Appendable (writer : Writer) (log : Log) : String → ZfEvent → Prop
  | side (side : SideEvent) : Appendable writer log "" side.event
  | submitted {event : ZfEvent} (type : event.type = invokeRequested)
      (id : event.id = (writer.stamp log.length).id) : Appendable writer log "" event
  | terminal {event : ZfEvent} {kind : TerminalKind}
      (type : runEventKind? event.type = some (.terminal kind)) :
      Appendable writer log (eventRunId event) event
  | rejection {event source : ZfEvent} (invoked : Invoked log source)
      (type : event.type = "workflow.invoke.rejected")
      (named : event.body.textAt "source_event_id" = source.id) :
      Appendable writer log (eventRunId source) event
  | acceptance {event source : ZfEvent} (invoked : Invoked log source)
      (read : runEvent? event = some (.legacy .invokeAccepted))
      (runId : eventRunId event = eventRunId source)
      (named : event.body.textAt "source_event_id" = source.id) :
      Appendable writer log (eventRunId source) event
  | admission {event source : ZfEvent} {kind : AdmissionKind} (invoked : Invoked log source)
      (read : runEvent? event = some (.admission kind))
      (runId : eventRunId event = eventRunId source)
      (named : event.body.textAt "source_event_id" = source.id)
      (asked : kind = .queued → admissionEventForSource log .requested source.id = true) :
      Appendable writer log (eventRunId source) event

/-- The facts about a log that hold after every single append. -/
structure Core (writer : Writer) (log : Log) : Prop where
  positions : ∀ position event, log[position]? = some event → event.type = invokeRequested →
    event.id = (writer.stamp position).id
  sourced : Sourced log
  admissions : ∀ event ∈ log, ∀ kind : AdmissionKind, event.type = kind.type →
    runEvent? event = some (.admission kind) ∧
      ∃ source, Invoked log source ∧ event.body.textAt "source_event_id" = source.id ∧
        eventRunId event = eventRunId source
  outcomes : ∀ event ∈ log, event.type ∈ outcomeEvents →
    ∃ source, Invoked log source ∧ event.body.textAt "source_event_id" = source.id
  rejected : ∀ event ∈ log, runEvent? event = some (.admission .rejected) →
    ∃ entry, (runsOf log).get? (eventRunId event) = some entry ∧ entry.terminal = true
  asked : ∀ event ∈ log, runEvent? event = some (.admission .queued) →
    admissionEventForSource log .requested (event.body.textAt "source_event_id") = true

section Types

variable {event : ZfEvent}

theorem runEvent?_eq_some {kind : RunEventKind} (read : runEvent? event = some kind) :
    eventRunId event ≠ "" ∧ runEventKind? event.type = some kind := by
  unfold runEvent? at read
  split at read
  · cases read
  · rename_i named
    exact ⟨named, read⟩

theorem runEvent?_of_type {type : String} (same : event.type = type)
    (unread : runEventKind? type = none) : runEvent? event = none := by
  unfold runEvent?
  rw [same, unread, ite_self]

theorem SideEvent.silent (side : SideEvent) : runEvent? side.event = none :=
  runEvent?_of_type rfl side.unread

theorem runEvent?_terminal {kind : TerminalKind} {other : RunEventKind}
    (type : runEventKind? event.type = some (.terminal kind))
    (read : runEvent? event = some other) :
    other = .terminal kind :=
  Option.some.inj ((runEvent?_eq_some read).2.symm.trans type)

theorem runEventKind?_invoke : runEventKind? invokeRequested = none := by
  simp [runEventKind?, runEventKinds, Dict.find, AdmissionKind.type, invokeRequested]

theorem runEvent?_invoke (type : event.type = invokeRequested) : runEvent? event = none :=
  runEvent?_of_type type runEventKind?_invoke

theorem runEventKind?_rejection : runEventKind? "workflow.invoke.rejected" = none := by
  simp [runEventKind?, runEventKinds, Dict.find, AdmissionKind.type]

theorem runEvent?_rejection (type : event.type = "workflow.invoke.rejected") :
    runEvent? event = none :=
  runEvent?_of_type type runEventKind?_rejection

theorem runEventKind?_accepted :
    runEventKind? "workflow.invoke.accepted" = some (.legacy .invokeAccepted) := by
  simp [runEventKind?, runEventKinds, Dict.find, AdmissionKind.type]

theorem not_outcome_of_terminal {kind : TerminalKind}
    (type : runEventKind? event.type = some (.terminal kind)) : event.type ∉ outcomeEvents := by
  intro outcome
  simp only [outcomeEvents, List.mem_cons, List.not_mem_nil, or_false] at outcome
  rcases outcome with accepted | rejected
  · rw [accepted, runEventKind?_accepted] at type
    cases type
  · rw [rejected, runEventKind?_rejection] at type
    cases type

/-- Of the events that the projection reads, only acceptances are outcomes. -/
theorem accepted_of_outcome {kind : RunEventKind} (read : runEvent? event = some kind)
    (outcome : event.type ∈ outcomeEvents) : kind = .legacy .invokeAccepted := by
  have table := (runEvent?_eq_some read).2
  simp only [outcomeEvents, List.mem_cons, List.not_mem_nil, or_false] at outcome
  rcases outcome with type | type
  · rw [type, runEventKind?_accepted] at table
    exact (Option.some.inj table).symm
  · rw [runEvent?_rejection type] at read
    cases read

theorem runEventKinds_nodup : (runEventKinds.map Prod.fst).Nodup := by decide +kernel

theorem type_of_admission {kind : AdmissionKind} (read : runEvent? event = some (.admission kind)) :
    event.type = kind.type := by
  have table := (Dict.find_eq_some_iff runEventKinds_nodup _ _).mp (runEvent?_eq_some read).2
  simp only [runEventKinds, List.mem_cons, Prod.mk.injEq, RunEventKind.admission.injEq,
    reduceCtorEq, and_false, List.not_mem_nil, or_false] at table
  rcases table with ⟨type, rfl⟩ | ⟨type, rfl⟩ | ⟨type, rfl⟩ | ⟨type, rfl⟩ | ⟨type, rfl⟩
  all_goals exact type

end Types

section OneAppend

variable {writer : Writer} {log : Log} {runId : String} {event : ZfEvent}

theorem Invoked.append {source : ZfEvent} (invoked : Invoked log source) (event : ZfEvent) :
    Invoked (log ++ [event]) source :=
  ⟨List.mem_append_left _ invoked.1, invoked.2⟩

theorem invoked_append {source : ZfEvent} :
    Invoked (log ++ [event]) source ↔
      Invoked log source ∨ (source = event ∧ event.type = invokeRequested) := by
  simp only [Invoked, List.mem_append, List.mem_singleton]
  constructor
  · rintro ⟨old | rfl, type⟩
    · exact Or.inl ⟨old, type⟩
    · exact Or.inr ⟨rfl, type⟩
  · rintro (⟨old, type⟩ | ⟨rfl, type⟩)
    · exact ⟨Or.inl old, type⟩
    · exact ⟨Or.inr rfl, type⟩

theorem admissionEventForSource_append (kind : AdmissionKind) (id : String) :
    admissionEventForSource (log ++ [event]) kind id =
      (admissionEventForSource log kind id ||
        decide (event.type = kind.type ∧ event.body.textAt "source_event_id" = id)) := by
  simp [admissionEventForSource]

theorem sourceHasOutcome_append (id : String) :
    sourceHasOutcome (log ++ [event]) id =
      (sourceHasOutcome log id ||
        decide (event.type ∈ outcomeEvents ∧ event.body.textAt "source_event_id" = id)) := by
  simp [sourceHasOutcome]

/-- What an event that the projection reads concerns is its own run. -/
theorem Appendable.runId_eq {kind : RunEventKind} (appended : Appendable writer log runId event)
    (read : runEvent? event = some kind) : runId = eventRunId event := by
  cases appended with
  | side side => rw [side.silent] at read; cases read
  | submitted type _ => rw [runEvent?_invoke type] at read; cases read
  | terminal _ => rfl
  | rejection _ type _ => rw [runEvent?_rejection type] at read; cases read
  | acceptance _ _ same _ => exact same.symm
  | admission _ _ same _ _ => exact same.symm

theorem Appendable.not_goalUpdated (appended : Appendable writer log runId event) :
    runEvent? event ≠ some .goalUpdated := by
  intro update
  cases appended with
  | side side => rw [side.silent] at update; cases update
  | submitted type _ => rw [runEvent?_invoke type] at update; cases update
  | terminal type => cases runEvent?_terminal type update
  | rejection _ type _ => rw [runEvent?_rejection type] at update; cases update
  | acceptance _ read _ _ => rw [read] at update; cases update
  | admission _ read _ _ _ => rw [read] at update; cases update

/-- An outcome names an invoke of the run that it concerns. -/
theorem Appendable.outcome (appended : Appendable writer log runId event)
    (outcome : event.type ∈ outcomeEvents) :
    ∃ source, Invoked log source ∧ eventRunId source = runId ∧
      event.body.textAt "source_event_id" = source.id := by
  cases appended with
  | side side => exact absurd outcome side.noOutcome
  | submitted type _ => rw [type] at outcome; exact absurd outcome (by decide)
  | terminal type => exact absurd outcome (not_outcome_of_terminal type)
  | rejection invoked _ named => exact ⟨_, invoked, rfl, named⟩
  | acceptance invoked _ _ named => exact ⟨_, invoked, rfl, named⟩
  | admission _ read _ _ _ => cases accepted_of_outcome read outcome

theorem Appendable.admission_source {kind : AdmissionKind}
    (appended : Appendable writer log runId event)
    (read : runEvent? event = some (.admission kind)) :
    ∃ source, Invoked log source ∧ event.body.textAt "source_event_id" = source.id ∧
      eventRunId event = eventRunId source ∧
      (kind = .queued → admissionEventForSource log .requested source.id = true) := by
  cases appended with
  | side side => rw [side.silent] at read; cases read
  | submitted type _ => rw [runEvent?_invoke type] at read; cases read
  | terminal type => cases runEvent?_terminal type read
  | rejection _ type _ => rw [runEvent?_rejection type] at read; cases read
  | acceptance _ other _ _ => rw [other] at read; cases read
  | admission invoked other same named asked =>
      rw [other] at read
      cases read
      exact ⟨_, invoked, named, same, asked⟩

/-- An event of an admission type is read as such. -/
theorem Appendable.read_admission {kind : AdmissionKind}
    (appended : Appendable writer log runId event) (type : event.type = kind.type) :
    runEvent? event = some (.admission kind) := by
  have table : runEventKind? event.type = some (.admission kind) :=
    type ▸ runEventKind?_admission kind
  cases appended with
  | side side => rw [side.unread] at table; cases table
  | submitted other _ => rw [other, runEventKind?_invoke] at table; cases table
  | terminal other => rw [other] at table; cases table
  | rejection _ other _ => rw [other, runEventKind?_rejection] at table; cases table
  | acceptance _ read _ _ =>
      rw [(runEvent?_eq_some read).2] at table
      cases table
  | admission _ read _ _ _ =>
      rw [(runEvent?_eq_some read).2] at table
      exact read.trans table

theorem Appendable.invoke_id (appended : Appendable writer log runId event)
    (type : event.type = invokeRequested) : event.id = (writer.stamp log.length).id := by
  have unread := runEvent?_invoke type
  cases appended with
  | side side => exact absurd type side.noInvoke
  | submitted _ id => exact id
  | terminal other => exact absurd other (by rw [type, runEventKind?_invoke]; simp)
  | rejection _ other _ => exact absurd (type.symm.trans other) (by decide)
  | acceptance _ read _ _ => rw [unread] at read; cases read
  | admission _ read _ _ _ => rw [unread] at read; cases read

theorem Core.unique (core : Core writer log) (stamped : Stamped writer) {first second : ZfEvent}
    (firstInvoked : Invoked log first) (secondInvoked : Invoked log second)
    (same : first.id = second.id) : first = second := by
  obtain ⟨here, firstAt⟩ := List.mem_iff_getElem?.mp firstInvoked.1
  obtain ⟨there, secondAt⟩ := List.mem_iff_getElem?.mp secondInvoked.1
  have firstId := core.positions here first firstAt firstInvoked.2
  have secondId := core.positions there second secondAt secondInvoked.2
  have position : here = there := stamped.distinct _ _ (firstId ▸ secondId ▸ same)
  rw [position, secondAt] at firstAt
  exact (Option.some.inj firstAt).symm

theorem Core.trimmed (core : Core writer log) (stamped : Stamped writer) {source : ZfEvent}
    (invoked : Invoked log source) : PyString.strip source.id = source.id ∧ source.id ≠ "" := by
  obtain ⟨position, present⟩ := List.mem_iff_getElem?.mp invoked.1
  rw [core.positions position source present invoked.2]
  exact ⟨stamped.trimmed position, stamped.named position⟩

/-- Nothing but a goal update reopens a run. -/
theorem RunAdmissionEntry.note_terminal {pending : List String} {index : Nat}
    {kind : RunEventKind} {entry : RunAdmissionEntry} (other : kind ≠ .goalUpdated)
    (ended : entry.terminal = true) : (entry.note pending index kind event).terminal = true := by
  rw [← entry.identify_terminal] at ended
  unfold RunAdmissionEntry.note
  generalize entry.identify kind event = entry at ended
  cases kind with
  | admission kind => cases kind <;> simp [RunAdmissionEntry.advance, ended] <;> rfl
  | terminal kind => exact terminalStatus_terminal kind event.body
  | goalUpdated => exact absurd rfl other
  | _ => simp [RunAdmissionEntry.advance, ended]

theorem ended_append (sourced : Sourced (log ++ [event]))
    (other : runEvent? event ≠ some .goalUpdated) {ended : String}
    (before : ∃ entry, (runsOf log).get? ended = some entry ∧ entry.terminal = true) :
    ∃ entry, (runsOf (log ++ [event])).get? ended = some entry ∧ entry.terminal = true := by
  obtain ⟨entry, found, terminal⟩ := before
  rw [runsOf_append sourced]
  by_cases mine : eventRunId event = ended
  · subst mine
    cases read : runEvent? event with
    | none => exact ⟨entry, by rw [noteFor_none read, found], terminal⟩
    | some kind =>
        rw [noteFor_some _ read, found]
        refine ⟨_, rfl, RunAdmissionEntry.note_terminal (fun update => ?_) terminal⟩
        exact other (update ▸ read)
  · exact ⟨entry, by rw [noteFor_other mine, found], terminal⟩

theorem Appendable.sourced (appended : Appendable writer log runId event) (core : Core writer log)
    (stamped : Stamped writer) : Sourced (log ++ [event]) := by
  refine sourced_append.mpr ⟨core.sourced, fun legacy read => ?_⟩
  cases appended with
  | side side => rw [side.silent] at read; cases read
  | submitted type _ => rw [runEvent?_invoke type] at read; cases read
  | terminal type => cases runEvent?_terminal type read
  | rejection _ type _ => rw [runEvent?_rejection type] at read; cases read
  | acceptance invoked _ _ named =>
      obtain ⟨trimmed, nonempty⟩ := core.trimmed stamped invoked
      rw [strippedAt, named, trimmed]
      exact nonempty
  | admission _ other _ _ _ => rw [other] at read; cases read

theorem Core.append (core : Core writer log) (stamped : Stamped writer)
    (appended : Appendable writer log runId event) : Core writer (log ++ [event]) := by
  have sourced := appended.sourced core stamped
  refine ⟨?_, sourced, ?_, ?_, ?_, ?_⟩
  · intro position other present type
    rcases Nat.lt_trichotomy position log.length with inside | rfl | beyond
    · rw [List.getElem?_append_left inside] at present
      exact core.positions position other present type
    · rw [List.getElem?_concat_length] at present
      cases Option.some.inj present
      exact appended.invoke_id type
    · rw [List.getElem?_eq_none (by simp; omega)] at present
      cases present
  · intro other member kind type
    rcases List.mem_append.mp member with old | new
    · obtain ⟨read, source, invoked, named, same⟩ := core.admissions other old kind type
      exact ⟨read, source, invoked.append event, named, same⟩
    · cases List.mem_singleton.mp new
      have read := appended.read_admission type
      obtain ⟨source, invoked, named, same, _⟩ := appended.admission_source read
      exact ⟨read, source, invoked.append _, named, same⟩
  · intro other member outcome
    rcases List.mem_append.mp member with old | new
    · obtain ⟨source, invoked, named⟩ := core.outcomes other old outcome
      exact ⟨source, invoked.append event, named⟩
    · cases List.mem_singleton.mp new
      obtain ⟨source, invoked, _, named⟩ := appended.outcome outcome
      exact ⟨source, invoked.append _, named⟩
  · intro other member read
    rcases List.mem_append.mp member with old | new
    · exact ended_append sourced appended.not_goalUpdated (core.rejected other old read)
    · cases List.mem_singleton.mp new
      rw [runsOf_append sourced, noteFor_some _ read]
      exact ⟨_, rfl, rfl⟩
  · intro other member read
    rw [admissionEventForSource_append, Bool.or_eq_true]
    rcases List.mem_append.mp member with old | new
    · exact Or.inl (core.asked other old read)
    · cases List.mem_singleton.mp new
      obtain ⟨source, _, named, _, asked⟩ := appended.admission_source read
      rw [named]
      exact Or.inl (asked rfl)

end OneAppend

end ZaofuFormal.Admission
