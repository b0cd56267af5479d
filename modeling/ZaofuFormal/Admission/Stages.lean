import ZaofuFormal.Admission.Tracking

/-!
# Stages of a run

Nothing was asked for the run, it waits in the queue, it was admitted and is
running, or it ended.  An operation may leave these stages while it runs, for its
own run only, and has returned to one of them when it is done.
-/

namespace ZaofuFormal.Admission

open Foundation Workflow

/-- The position of the first admission event of one kind of a run. -/
def firstIndex (log : Log) (runId : String) (kind : AdmissionKind) : Option Nat :=
  log.findIdx? fun event =>
    decide (runEvent? event = some (.admission kind) ∧ eventRunId event = runId)

theorem firstIndex_append (log : Log) (event : ZfEvent) (runId : String) (kind : AdmissionKind) :
    firstIndex (log ++ [event]) runId kind =
      (firstIndex log runId kind).or
        (if runEvent? event = some (.admission kind) ∧ eventRunId event = runId then
          some log.length else none) := by
  rw [firstIndex, List.findIdx?_append, firstIndex]
  congr 1
  by_cases hit : runEvent? event = some (.admission kind) ∧ eventRunId event = runId
  · simp [hit, List.findIdx?_cons]
  · simp only [List.findIdx?_cons, hit, decide_false, if_false]
    simp

theorem lt_of_firstIndex {log : Log} {runId : String} {kind : AdmissionKind} {position : Nat}
    (first : firstIndex log runId kind = some position) : position < log.length :=
  (List.findIdx?_eq_some_iff_findIdx_eq.mp first).1

theorem not_mem_of_firstIndex {log : Log} {runId : String} {kind : AdmissionKind}
    (absent : firstIndex log runId kind = none) {event : ZfEvent} (member : event ∈ log)
    (read : runEvent? event = some (.admission kind)) : eventRunId event ≠ runId := by
  intro same
  have missing := List.findIdx?_eq_none_iff.mp absent event member
  simp [read, same] at missing

/-- The run was never admitted or released, and none of its invokes has an outcome. -/
structure Ungranted (log : Log) (runId : String) : Prop where
  closed : ∀ event ∈ log, eventRunId event = runId →
    runEvent? event ≠ some (.admission .admitted) ∧ runEvent? event ≠ some (.admission .released)
  undecided : ∀ source, Invoked log source → eventRunId source = runId →
    sourceHasOutcome log source.id = false

structure Fresh (log : Log) (runId : String) : Prop where
  ungranted : Ungranted log runId
  unasked : firstIndex log runId .requested = none
  unqueued : firstIndex log runId .queued = none

/-- The entry names a logged invoke of its run. -/
def HasSource (log : Log) (runId : String) (entry : RunAdmissionEntry) : Prop :=
  ∃ source, Invoked log source ∧ eventRunId source = runId ∧ entry.sourceEventId = source.id

/-- Asked for first and queued later. -/
def Ordered (log : Log) (runId : String) (entry : RunAdmissionEntry) : Prop :=
  ∃ asked position, firstIndex log runId .requested = some asked ∧
    firstIndex log runId .queued = some position ∧ entry.queuedIndex = some position ∧
      asked < position

structure Waiting (log : Log) (runId : String) (entry : RunAdmissionEntry) : Prop where
  status : entry.status = .queued
  ungranted : Ungranted log runId
  source : HasSource log runId entry
  asked : admissionEventForSource log .requested entry.sourceEventId = true
  ordered : Ordered log runId entry

structure Holding (log : Log) (runId : String) (entry : RunAdmissionEntry) : Prop where
  status : entry.status = .running
  admitted : entry.admittedEventId ≠ ""
  source : HasSource log runId entry

inductive Staged (log : Log) (runId : String) : Prop
  | fresh (absent : (runsOf log).get? runId = none) (fresh : Fresh log runId)
  | waiting {entry : RunAdmissionEntry} (found : (runsOf log).get? runId = some entry)
      (waiting : Waiting log runId entry)
  | holding {entry : RunAdmissionEntry} (found : (runsOf log).get? runId = some entry)
      (holding : Holding log runId entry)
  | ended {entry : RunAdmissionEntry} (found : (runsOf log).get? runId = some entry)
      (terminal : entry.terminal = true)

/-- Every run is in a stage, except perhaps the one that an operation is working on. -/
structure Beside (writer : Writer) (own : String) (log : Log) : Prop where
  core : Core writer log
  staged : ∀ runId, runId ≠ "" → runId ≠ own → Staged log runId

/-- Every run is in a stage. -/
abbrev Tracked (writer : Writer) (log : Log) : Prop := Beside writer "" log

section Frame

variable {writer : Writer} {log : Log} {concerned runId : String} {event : ZfEvent}

theorem runsOf_append_other (core : Core writer log) (stamped : Stamped writer)
    (appended : Appendable writer log concerned event) (other : concerned ≠ runId) :
    (runsOf (log ++ [event])).get? runId = (runsOf log).get? runId := by
  rw [runsOf_append (appended.sourced core stamped)]
  cases read : runEvent? event with
  | none => exact noteFor_none read _ _ _
  | some kind => exact noteFor_other (appended.runId_eq read ▸ other) _ _

theorem firstIndex_append_other (appended : Appendable writer log concerned event)
    (other : concerned ≠ runId) (kind : AdmissionKind) :
    firstIndex (log ++ [event]) runId kind = firstIndex log runId kind := by
  rw [firstIndex_append, if_neg, Option.or_none]
  rintro ⟨read, same⟩
  exact other ((appended.runId_eq read).trans same)

theorem Ungranted.append_other (ungranted : Ungranted log runId) (core : Core writer log)
    (stamped : Stamped writer) (appended : Appendable writer log concerned event)
    (other : concerned ≠ runId) : Ungranted (log ++ [event]) runId := by
  refine ⟨fun candidate member same => ?_, fun source invoked same => ?_⟩
  · rcases List.mem_append.mp member with old | new
    · exact ungranted.closed candidate old same
    · cases List.mem_singleton.mp new
      exact ⟨fun read => other ((appended.runId_eq read).trans same),
        fun read => other ((appended.runId_eq read).trans same)⟩
  · rw [sourceHasOutcome_append, Bool.or_eq_false_iff]
    rcases invoked_append.mp invoked with old | ⟨rfl, type⟩
    · refine ⟨ungranted.undecided source old same, decide_eq_false ?_⟩
      rintro ⟨outcome, named⟩
      obtain ⟨decided, known, run, name⟩ := appended.outcome outcome
      have hit : decided = source := core.unique stamped known old (name.symm.trans named)
      exact other (run.symm.trans (hit ▸ same))
    · refine ⟨?_, decide_eq_false fun outcome => ?_⟩
      · rw [sourceHasOutcome, List.any_eq_false]
        intro earlier member hit
        obtain ⟨outcome, named⟩ := of_decide_eq_true hit
        obtain ⟨decided, known, name⟩ := core.outcomes earlier member outcome
        obtain ⟨position, present⟩ := List.mem_iff_getElem?.mp known.1
        have id := core.positions position decided present known.2
        rw [appended.invoke_id type, name, id] at named
        have last := stamped.distinct _ _ named
        obtain ⟨bound, _⟩ := List.getElem?_eq_some_iff.mp present
        omega
      · have invoke := outcome.1
        rw [type] at invoke
        exact absurd invoke (by decide)

theorem HasSource.append {entry : RunAdmissionEntry} (source : HasSource log runId entry)
    (event : ZfEvent) : HasSource (log ++ [event]) runId entry := by
  obtain ⟨source, invoked, same, named⟩ := source
  exact ⟨source, invoked.append event, same, named⟩

theorem Staged.append_other (staged : Staged log runId) (core : Core writer log)
    (stamped : Stamped writer) (appended : Appendable writer log concerned event)
    (other : concerned ≠ runId) : Staged (log ++ [event]) runId := by
  have entries := runsOf_append_other core stamped appended other
  have asked := firstIndex_append_other appended other .requested
  have queued := firstIndex_append_other appended other .queued
  cases staged with
  | fresh absent fresh =>
      refine .fresh (entries.trans absent) ⟨?_, asked.trans fresh.unasked,
        queued.trans fresh.unqueued⟩
      exact fresh.ungranted.append_other core stamped appended other
  | waiting found waiting =>
      refine .waiting (entries.trans found)
        ⟨waiting.status, ?_, waiting.source.append event, ?_, ?_⟩
      · exact waiting.ungranted.append_other core stamped appended other
      · rw [admissionEventForSource_append, waiting.asked, Bool.true_or]
      · obtain ⟨first, position, firstAt, positionAt, index, below⟩ := waiting.ordered
        exact ⟨first, position, asked.trans firstAt, queued.trans positionAt, index, below⟩
  | holding found holding =>
      exact .holding (entries.trans found)
        ⟨holding.status, holding.admitted, holding.source.append event⟩
  | ended found terminal => exact .ended (entries.trans found) terminal

/-- An append that concerns no run, or the exempted one, keeps the others in their stages. -/
theorem Beside.append {own : String} (beside : Beside writer own log) (stamped : Stamped writer)
    (appended : Appendable writer log concerned event)
    (exempt : concerned = "" ∨ concerned = own) : Beside writer own (log ++ [event]) := by
  refine ⟨beside.core.append stamped appended, fun runId named different => ?_⟩
  refine (beside.staged runId named different).append_other beside.core stamped appended ?_
  rintro rfl
  rcases exempt with none | same
  · exact named none
  · exact different same

theorem Beside.close {own : String} (beside : Beside writer own log)
    (staged : own ≠ "" → Staged log own) : Tracked writer log := by
  refine ⟨beside.core, fun runId named _ => ?_⟩
  by_cases same : runId = own
  · subst same
    exact staged named
  · exact beside.staged runId named same

theorem Beside.open {own : String} (tracked : Tracked writer log) : Beside writer own log :=
  ⟨tracked.core, fun runId named _ => tracked.staged runId named named⟩

end Frame

section Own

variable {runtime : Runtime} {log : Log} {source : ZfEvent} {kind : AdmissionKind}
  {extra : List (String × Json)}

variable (runtime kind extra) in
theorem appendable_admissionEvent (invoked : Invoked log source) (named : eventRunId source ≠ "")
    (asked : kind = .queued → admissionEventForSource log .requested source.id = true) :
    Appendable runtime.writer log (eventRunId source)
      (admissionEvent runtime kind source extra log) :=
  .admission invoked (admissionEvent_runEvent? runtime kind extra log named)
    (admissionEvent_runId runtime kind extra log named)
    (admissionEvent_source runtime kind source extra log) asked

/-- The entry of the run before an operation, or a new one. -/
def currentEntry (log : Log) (runId : String) : RunAdmissionEntry :=
  ((runsOf log).get? runId).getD { runId := runId, firstSeenIndex := log.length }

theorem currentEntry_of_found {runId : String} {entry : RunAdmissionEntry}
    (found : (runsOf log).get? runId = some entry) : currentEntry log runId = entry := by
  rw [currentEntry, found, Option.getD_some]

variable (runtime kind extra) in
theorem runsOf_admissionEvent (sourced : Sourced log) (named : eventRunId source ≠ "") :
    (runsOf (log ++ [admissionEvent runtime kind source extra log])).get? (eventRunId source) =
      some ((currentEntry log (eventRunId source)).note [] log.length (.admission kind)
        (admissionEvent runtime kind source extra log)) := by
  have grown := sourced_admissionEvent runtime kind extra named sourced
  have own := admissionEvent_runId runtime kind extra log named
  have noted := noteFor_some [] (admissionEvent_runEvent? runtime kind extra log named)
    ((runsOf log).get? (eventRunId source)) log.length
  rw [own] at noted
  rw [runsOf_append grown, noted]
  rfl

theorem noted_source (core : Core runtime.writer log) (stamped : Stamped runtime.writer)
    (invoked : Invoked log source) (entry : RunAdmissionEntry) :
    (entry.note [] log.length (.admission kind)
      (admissionEvent runtime kind source extra log)).sourceEventId = source.id := by
  obtain ⟨trimmed, nonempty⟩ := core.trimmed stamped invoked
  have name : strippedAt (admissionEvent runtime kind source extra log).body "source_event_id" =
      source.id := by
    rw [strippedAt, admissionEvent_source, trimmed]
  rw [RunAdmissionEntry.note_sourceEventId, name, if_pos nonempty]

theorem admissionEventForSource_admissionEvent (other : AdmissionKind) :
    admissionEventForSource (log ++ [admissionEvent runtime kind source extra log]) other
        source.id =
      (admissionEventForSource log other source.id || decide (kind = other)) := by
  rw [admissionEventForSource_append, admissionEvent_type, admissionEvent_source]
  cases kind <;> cases other <;> simp [AdmissionKind.type]

theorem firstIndex_admissionEvent (named : eventRunId source ≠ "") (other : AdmissionKind) :
    firstIndex (log ++ [admissionEvent runtime kind source extra log]) (eventRunId source) other =
      (firstIndex log (eventRunId source) other).or
        (if kind = other then some log.length else none) := by
  rw [firstIndex_append, admissionEvent_runEvent? runtime kind extra log named,
    admissionEvent_runId runtime kind extra log named]
  simp

/-- No grant of the run means no grant for any of its invokes. -/
theorem Ungranted.not_granted (ungranted : Ungranted log (eventRunId source))
    (core : Core runtime.writer log) (stamped : Stamped runtime.writer)
    (invoked : Invoked log source) (grants : kind = .admitted ∨ kind = .released) :
    admissionEventForSource log kind source.id = false := by
  rw [admissionEventForSource, List.any_eq_false]
  intro event member hit
  obtain ⟨type, name⟩ := of_decide_eq_true hit
  obtain ⟨read, other, known, otherName, run⟩ := core.admissions event member kind type
  have same : other = source := core.unique stamped known invoked (otherName.symm.trans name)
  obtain ⟨notAdmitted, notReleased⟩ := ungranted.closed event member (same ▸ run)
  rcases grants with rfl | rfl
  · exact notAdmitted read
  · exact notReleased read

/-- A request or a queueing grants nothing. -/
theorem Ungranted.append_own (ungranted : Ungranted log (eventRunId source))
    (named : eventRunId source ≠ "") (waits : kind = .requested ∨ kind = .queued) :
    Ungranted (log ++ [admissionEvent runtime kind source extra log]) (eventRunId source) := by
  have read := admissionEvent_runEvent? runtime kind extra log named
  refine ⟨fun candidate member same => ?_, fun other invoked same => ?_⟩
  · rcases List.mem_append.mp member with old | new
    · exact ungranted.closed candidate old same
    · rw [List.mem_singleton.mp new, read]
      rcases waits with rfl | rfl <;> simp
  · rw [sourceHasOutcome_append, Bool.or_eq_false_iff]
    have noOutcome : (admissionEvent runtime kind source extra log).type ∉ outcomeEvents := by
      rw [admissionEvent_type]
      cases kind <;> decide
    refine ⟨?_, decide_eq_false fun outcome => noOutcome outcome.1⟩
    rcases invoked_append.mp invoked with old | ⟨_, type⟩
    · exact ungranted.undecided other old same
    · rw [runEvent?_invoke type] at read
      cases read

end Own

section Notes

variable (index : Nat) (event : ZfEvent) {entry : RunAdmissionEntry}

theorem RunAdmissionEntry.note_requested (fine : entry.terminal = false) :
    (entry.note [] index (.admission .requested) event).status = .requested ∧
      (entry.note [] index (.admission .requested) event).queuedIndex = entry.queuedIndex := by
  simp [RunAdmissionEntry.note, RunAdmissionEntry.advance, fine]

theorem RunAdmissionEntry.note_queued (fine : entry.terminal = false) :
    (entry.note [] index (.admission .queued) event).status = .queued ∧
      (entry.note [] index (.admission .queued) event).queuedIndex =
        entry.queuedIndex.or (some index) := by
  simp [RunAdmissionEntry.note, RunAdmissionEntry.advance, fine]

theorem RunAdmissionEntry.note_released (fine : entry.terminal = false) :
    (entry.note [] index (.admission .released) event).status = .running := by
  simp [RunAdmissionEntry.note, RunAdmissionEntry.advance, fine]

theorem RunAdmissionEntry.note_admitted (fine : entry.terminal = false) :
    (entry.note [] index (.admission .admitted) event).status = .running ∧
      (entry.note [] index (.admission .admitted) event).admittedEventId = event.id := by
  simp [RunAdmissionEntry.note, RunAdmissionEntry.advance, fine]

end Notes

/-- The run was asked for and has not been granted yet. -/
structure Pending (log : Log) (runId : String) (entry : RunAdmissionEntry) : Prop where
  status : entry.status = .requested ∨ entry.status = .queued
  ungranted : Ungranted log runId
  source : HasSource log runId entry
  asked : admissionEventForSource log .requested entry.sourceEventId = true
  order : ∃ first, firstIndex log runId .requested = some first ∧
    ((firstIndex log runId .queued = none ∧ entry.queuedIndex = none) ∨
      ∃ position, firstIndex log runId .queued = some position ∧
        entry.queuedIndex = some position ∧ first < position)

theorem Waiting.pending {log : Log} {runId : String} {entry : RunAdmissionEntry}
    (waiting : Waiting log runId entry) : Pending log runId entry := by
  obtain ⟨first, position, firstAt, positionAt, index, below⟩ := waiting.ordered
  exact ⟨Or.inr waiting.status, waiting.ungranted, waiting.source, waiting.asked,
    first, firstAt, Or.inr ⟨position, positionAt, index, below⟩⟩

theorem Pending.fine {log : Log} {runId : String} {entry : RunAdmissionEntry}
    (pending : Pending log runId entry) : entry.terminal = false := by
  unfold RunAdmissionEntry.terminal
  rcases pending.status with status | status <;> rw [status] <;> rfl

section Admit

variable {runtime : Runtime} {log : Log} {source : ZfEvent}

/-- The stages in which an admission may be asked for. -/
def Askable (log : Log) (runId : String) : Prop :=
  ((runsOf log).get? runId = none ∧ Fresh log runId) ∨
    ∃ entry, (runsOf log).get? runId = some entry ∧ Waiting log runId entry

/-- A run without a decision is fresh or waiting. -/
theorem unsettled_stage (staged : Staged log (eventRunId source))
    (open_ : settledDecision source (buildRunAdmissionProjection log) = none) :
    Askable log (eventRunId source) := by
  cases staged with
  | fresh absent fresh => exact Or.inl ⟨absent, fresh⟩
  | waiting found waiting => exact Or.inr ⟨_, found, waiting⟩
  | holding found holding =>
      change (buildRunAdmissionProjection log).runs.get? _ = _ at found
      simp [settledDecision, found, RunAdmissionEntry.terminal, holding.status, holding.admitted,
        RunStatus.terminal] at open_
  | ended found terminal =>
      change (buildRunAdmissionProjection log).runs.get? _ = _ at found
      simp [settledDecision, found, terminal] at open_

theorem Askable.ungranted {runId : String} (stage : Askable log runId) : Ungranted log runId := by
  rcases stage with ⟨_, fresh⟩ | ⟨_, _, waiting⟩
  · exact fresh.ungranted
  · exact waiting.ungranted

theorem Askable.fine {runId : String} (stage : Askable log runId) :
    (currentEntry log runId).terminal = false := by
  rcases stage with ⟨absent, _⟩ | ⟨entry, found, waiting⟩
  · rw [currentEntry, absent]
    rfl
  · rw [currentEntry_of_found found]
    exact waiting.pending.fine

theorem exists_of_admissionEventForSource (core : Core runtime.writer log)
    (stamped : Stamped runtime.writer) (invoked : Invoked log source) {kind : AdmissionKind}
    (present : admissionEventForSource log kind source.id = true) :
    ∃ event ∈ log, runEvent? event = some (.admission kind) ∧
      eventRunId event = eventRunId source ∧
      event.body.textAt "source_event_id" = source.id := by
  obtain ⟨event, member, hit⟩ := List.any_eq_true.mp present
  obtain ⟨type, name⟩ := of_decide_eq_true hit
  obtain ⟨read, other, known, otherName, run⟩ := core.admissions event member kind type
  have same : other = source := core.unique stamped known invoked (otherName.symm.trans name)
  exact ⟨event, member, read, same ▸ run, name⟩

/-- After the request the run is pending; if its queueing is on record, it is still waiting. -/
theorem pending_of_requested (stamped : Stamped runtime.writer) (core : Core runtime.writer log)
    (invoked : Invoked log source) (named : eventRunId source ≠ "")
    (stage : Askable log (eventRunId source)) :
    ∃ entry, (runsOf (recordAdmission runtime .requested source [] log)).get?
        (eventRunId source) = some entry ∧
      Pending (recordAdmission runtime .requested source [] log) (eventRunId source) entry ∧
      (admissionEventForSource (recordAdmission runtime .requested source [] log) .queued
          source.id = true →
        Waiting (recordAdmission runtime .requested source [] log) (eventRunId source) entry) := by
  by_cases present : admissionEventForSource log .requested source.id = true
  · rw [recordAdmission, if_pos present]
    rcases stage with ⟨_, fresh⟩ | ⟨entry, found, waiting⟩
    · obtain ⟨event, member, read, run, _⟩ :=
        exists_of_admissionEventForSource core stamped invoked present
      exact absurd run (not_mem_of_firstIndex fresh.unasked member read)
    · exact ⟨entry, found, waiting.pending, fun _ => waiting⟩
  · rw [recordAdmission, if_neg present]
    have fine := stage.fine
    refine ⟨_, runsOf_admissionEvent runtime _ _ core.sourced named, ?_, fun queued => ?_⟩
    · obtain ⟨status, index⟩ := RunAdmissionEntry.note_requested log.length
        (admissionEvent runtime .requested source [] log) fine
      refine ⟨Or.inl status, stage.ungranted.append_own named (Or.inl rfl), ?_, ?_, ?_⟩
      · exact ⟨source, invoked.append _, rfl, noted_source core stamped invoked _⟩
      · rw [noted_source core stamped invoked, admissionEventForSource_admissionEvent]
        simp
      · rw [firstIndex_admissionEvent named, firstIndex_admissionEvent named, index]
        rcases stage with ⟨absent, fresh⟩ | ⟨entry, found, waiting⟩
        · rw [fresh.unasked, fresh.unqueued, currentEntry, absent]
          exact ⟨log.length, by simp, Or.inl ⟨by simp, rfl⟩⟩
        · obtain ⟨first, position, firstAt, positionAt, old, below⟩ := waiting.ordered
          rw [firstAt, positionAt, currentEntry_of_found found]
          exact ⟨first, by simp, Or.inr ⟨position, by simp, old, below⟩⟩
    · rw [admissionEventForSource_admissionEvent, Bool.or_eq_true] at queued
      have earlier := queued.resolve_right (by decide)
      obtain ⟨event, member, read, _, name⟩ :=
        exists_of_admissionEventForSource core stamped invoked earlier
      exact absurd (name ▸ core.asked event member read) present

theorem waiting_of_enqueued (stamped : Stamped runtime.writer) (core : Core runtime.writer log)
    (invoked : Invoked log source) (named : eventRunId source ≠ "") {entry : RunAdmissionEntry}
    (found : (runsOf log).get? (eventRunId source) = some entry)
    (pending : Pending log (eventRunId source) entry)
    (asked : admissionEventForSource log .requested source.id = true)
    (replayed : admissionEventForSource log .queued source.id = true →
      Waiting log (eventRunId source) entry) (blocker : String) :
    Staged (enqueue runtime source blocker log) (eventRunId source) := by
  unfold enqueue
  by_cases present : admissionEventForSource log .queued source.id = true
  · rw [recordAdmission, if_pos present]
    exact .waiting found (replayed present)
  · rw [recordAdmission, if_neg present]
    have current := currentEntry_of_found found
    obtain ⟨status, index⟩ := RunAdmissionEntry.note_queued log.length
      (admissionEvent runtime .queued source
        (queuedFields blocker (activeOthers source log)) log) pending.fine
    refine .waiting (runsOf_admissionEvent runtime _ _ core.sourced named) ?_
    rw [current]
    refine ⟨status, pending.ungranted.append_own named (Or.inr rfl), ?_, ?_, ?_⟩
    · exact ⟨source, invoked.append _, rfl, noted_source core stamped invoked _⟩
    · rw [noted_source core stamped invoked, admissionEventForSource_admissionEvent, asked,
        Bool.true_or]
    · obtain ⟨first, firstAt, order⟩ := pending.order
      rcases order with ⟨none, noIndex⟩ | ⟨position, positionAt, old, below⟩
      · refine ⟨first, log.length, ?_, ?_, ?_, lt_of_firstIndex firstAt⟩
        · rw [firstIndex_admissionEvent named, firstAt, Option.some_or]
        · rw [firstIndex_admissionEvent named, none]
          simp
        · rw [index, noIndex, Option.none_or]
      · refine ⟨first, position, ?_, ?_, ?_, below⟩
        · rw [firstIndex_admissionEvent named, firstAt, Option.some_or]
        · rw [firstIndex_admissionEvent named, positionAt, Option.some_or]
        · rw [index, old, Option.some_or]

/-- The log in which a queued run has just been released. -/
def releasedLog (runtime : Runtime) (source : ZfEvent) (queued : Bool) (log : Log) : Log :=
  if queued then log ++ [admissionEvent runtime .released source releasedFields log] else log

/-- The admission that follows. -/
def admittedEvent (runtime : Runtime) (source : ZfEvent) (queued : Bool) (log : Log) : ZfEvent :=
  admissionEvent runtime .admitted source
    (admittedFields runtime (releasedLog runtime source queued log))
    (releasedLog runtime source queued log)

/-- An ungranted run gets both facts of its grant. -/
theorem grant_eq (stamped : Stamped runtime.writer) (core : Core runtime.writer log)
    (invoked : Invoked log source) (ungranted : Ungranted log (eventRunId source))
    (queued : Bool) :
    grant runtime source queued log =
      releasedLog runtime source queued log ++ [admittedEvent runtime source queued log] := by
  have unreleased : admissionEventForSource log .released source.id = false :=
    ungranted.not_granted core stamped invoked (Or.inr rfl)
  have unadmitted : admissionEventForSource log .admitted source.id = false :=
    ungranted.not_granted core stamped invoked (Or.inl rfl)
  cases queued with
  | false =>
      have absent : ¬admissionEventForSource log .admitted source.id = true := by
        simp [unadmitted]
      exact if_neg absent
  | true =>
      have released : recordAdmission runtime .released source releasedFields log =
          releasedLog runtime source true log := by
        simp [recordAdmission, unreleased, releasedLog]
      have absent : ¬admissionEventForSource (releasedLog runtime source true log) .admitted
          source.id = true := by
        simp [releasedLog, admissionEventForSource_admissionEvent, unadmitted]
      rw [grant, if_pos rfl, released]
      exact if_neg absent

theorem releasedLog_beside (stamped : Stamped runtime.writer)
    (beside : Beside runtime.writer (eventRunId source) log) (invoked : Invoked log source)
    (named : eventRunId source ≠ "") (queued : Bool) :
    Beside runtime.writer (eventRunId source) (releasedLog runtime source queued log) ∧
      Invoked (releasedLog runtime source queued log) source := by
  cases queued with
  | false => exact ⟨beside, invoked⟩
  | true =>
      refine ⟨beside.append stamped ?_ (Or.inr rfl), invoked.append _⟩
      exact appendable_admissionEvent runtime _ _ invoked named (by simp)

theorem releasedLog_open (sourced : Sourced log) (named : eventRunId source ≠ "")
    {entry : RunAdmissionEntry} (found : (runsOf log).get? (eventRunId source) = some entry)
    (fine : entry.terminal = false) (queued : Bool) :
    ∃ later, (runsOf (releasedLog runtime source queued log)).get? (eventRunId source) =
      some later ∧ later.terminal = false := by
  cases queued with
  | false => exact ⟨entry, found, fine⟩
  | true =>
      refine ⟨_, runsOf_admissionEvent runtime _ _ sourced named, ?_⟩
      rw [currentEntry_of_found found, RunAdmissionEntry.terminal,
        RunAdmissionEntry.note_released _ _ fine]
      rfl

theorem holding_of_granted (stamped : Stamped runtime.writer)
    (beside : Beside runtime.writer (eventRunId source) log) (invoked : Invoked log source)
    (named : eventRunId source ≠ "") {entry : RunAdmissionEntry}
    (found : (runsOf log).get? (eventRunId source) = some entry)
    (pending : Pending log (eventRunId source) entry) (queued : Bool) :
    Tracked runtime.writer (grant runtime source queued log) ∧
      ∃ later, (runsOf (grant runtime source queued log)).get? (eventRunId source) = some later ∧
        Holding (grant runtime source queued log) (eventRunId source) later := by
  rw [grant_eq stamped beside.core invoked pending.ungranted]
  obtain ⟨released, known⟩ := releasedLog_beside stamped beside invoked named queued
  obtain ⟨later, openFound, fine⟩ :=
    releasedLog_open beside.core.sourced named found pending.fine queued
  have admitted := runsOf_admissionEvent runtime .admitted
    (admittedFields runtime (releasedLog runtime source queued log)) released.core.sourced named
  rw [currentEntry_of_found openFound] at admitted
  obtain ⟨status, id⟩ := RunAdmissionEntry.note_admitted
    (releasedLog runtime source queued log).length (admittedEvent runtime source queued log) fine
  have holding : Holding (releasedLog runtime source queued log ++
      [admittedEvent runtime source queued log]) (eventRunId source)
      (later.note [] (releasedLog runtime source queued log).length (.admission .admitted)
        (admittedEvent runtime source queued log)) := by
    refine ⟨status, ?_, source, known.append _, rfl, noted_source released.core stamped known _⟩
    rw [id]
    exact stamped.named _
  have grown := released.append stamped
    (appendable_admissionEvent runtime .admitted
      (admittedFields runtime (releasedLog runtime source queued log)) known named (by simp)) (Or.inr rfl)
  exact ⟨grown.close fun _ => .holding admitted holding, _, admitted, holding⟩

theorem recordAdmission_beside (kind : AdmissionKind) (extra : List (String × Json))
    (stamped : Stamped runtime.writer) (beside : Beside runtime.writer (eventRunId source) log)
    (invoked : Invoked log source) (named : eventRunId source ≠ "")
    (asked : kind = .queued → admissionEventForSource log .requested source.id = true) :
    Beside runtime.writer (eventRunId source) (recordAdmission runtime kind source extra log) ∧
      Invoked (recordAdmission runtime kind source extra log) source := by
  rcases recordAdmission_cases runtime kind source extra log with ⟨same, _⟩ | appended
  · rw [same]
    exact ⟨beside, invoked⟩
  · rw [appended]
    refine ⟨beside.append stamped ?_ (Or.inr rfl), invoked.append _⟩
    exact appendable_admissionEvent runtime kind extra invoked named asked

theorem admissionEventForSource_recorded (runtime : Runtime) (kind : AdmissionKind)
    (source : ZfEvent) (extra : List (String × Json)) (log : Log) :
    admissionEventForSource (recordAdmission runtime kind source extra log) kind source.id =
      true := by
  by_cases present : admissionEventForSource log kind source.id = true
  · rw [recordAdmission, if_pos present, present]
  · rw [recordAdmission, if_neg present, admissionEventForSource_admissionEvent]
    simp

theorem Staged.holding_of_running {runId : String} {entry : RunAdmissionEntry}
    (staged : Staged log runId) (found : (runsOf log).get? runId = some entry)
    (running : entry.status = .running) : Holding log runId entry := by
  cases staged with
  | fresh absent _ => rw [absent] at found; cases found
  | waiting known waiting =>
      cases Option.some.inj (known.symm.trans found)
      rw [waiting.status] at running
      cases running
  | holding known holding =>
      cases Option.some.inj (known.symm.trans found)
      exact holding
  | ended known terminal =>
      cases Option.some.inj (known.symm.trans found)
      rw [RunAdmissionEntry.terminal, running] at terminal
      cases terminal

/-- What an admission call does: nothing, leave the run in the queue, or grant it. -/
theorem admitWorkflowInvoke_cases (runtime : Runtime) (source : ZfEvent) (log : Log) :
    ((admitWorkflowInvoke runtime source log).2 = log ∧
        ((admitWorkflowInvoke runtime source log).1.status = .admitted →
          eventRunId source ≠ "" ∧ ∃ entry, (runsOf log).get? (eventRunId source) = some entry ∧
            entry.status = .running)) ∨
      (eventRunId source ≠ "" ∧
        settledDecision source (buildRunAdmissionProjection log) = none ∧
        ((∃ blocker, (admitWorkflowInvoke runtime source log).2 =
              enqueue runtime source blocker (recordAdmission runtime .requested source [] log) ∧
            (admitWorkflowInvoke runtime source log).1.status ≠ .admitted ∧
            activeOthers source (recordAdmission runtime .requested source [] log) ≠ []) ∨
          ((admitWorkflowInvoke runtime source log).2 =
              grant runtime source (wasQueued source log)
                (recordAdmission runtime .requested source [] log) ∧
            (activeOthers source (recordAdmission runtime .requested source [] log)).length <
              runtime.maxActiveRuns))) := by
  unfold admitWorkflowInvoke
  split
  · exact Or.inl ⟨rfl, fun admitted => by cases admitted⟩
  · rename_i named
    split
    · rename_i settled decided
      exact Or.inl ⟨rfl, fun admitted => ⟨named, running_of_settled decided admitted⟩⟩
    · rename_i unsettled
      refine Or.inr ⟨named, unsettled, ?_⟩
      simp only
      split
      · rename_i blocked
        exact Or.inl ⟨_, rfl, by simp, fun alone => blocked (admissionBlocker_alone alone)⟩
      · rename_i free
        exact Or.inr ⟨rfl, activeOthers_lt (not_not.mp free)⟩

theorem admit_tracked (stamped : Stamped runtime.writer) (tracked : Tracked runtime.writer log)
    (invoked : Invoked log source) :
    Tracked runtime.writer (admitWorkflowInvoke runtime source log).2 ∧
      ((admitWorkflowInvoke runtime source log).1.status = .admitted →
        eventRunId source ≠ "" ∧
        ∃ entry, (runsOf (admitWorkflowInvoke runtime source log).2).get? (eventRunId source) =
            some entry ∧
          Holding (admitWorkflowInvoke runtime source log).2 (eventRunId source) entry) := by
  rcases admitWorkflowInvoke_cases runtime source log with
    ⟨same, running⟩ | ⟨named, unsettled, outcome⟩
  · rw [same]
    refine ⟨tracked, fun admitted => ?_⟩
    obtain ⟨named, entry, found, status⟩ := running admitted
    exact ⟨named, entry, found, (tracked.staged _ named named).holding_of_running found status⟩
  · have stage := unsettled_stage (tracked.staged _ named named) unsettled
    obtain ⟨entry, found, pending, replayed⟩ :=
      pending_of_requested stamped tracked.core invoked named stage
    obtain ⟨beside, known⟩ := recordAdmission_beside .requested [] stamped tracked.open invoked
      named (by simp)
    rcases outcome with ⟨blocker, same, held, _⟩ | ⟨same, _⟩
    · have asked := admissionEventForSource_recorded runtime .requested source [] log
      refine ⟨?_, fun admitted => absurd admitted held⟩
      rw [same]
      refine (recordAdmission_beside .queued _ stamped beside known named
        fun _ => asked).1.close fun _ => ?_
      exact waiting_of_enqueued stamped beside.core known named found pending asked replayed blocker
    · rw [same]
      obtain ⟨granted, holding⟩ := holding_of_granted stamped beside known named found pending _
      exact ⟨granted, fun _ => ⟨named, holding⟩⟩

end Admit

end ZaofuFormal.Admission
