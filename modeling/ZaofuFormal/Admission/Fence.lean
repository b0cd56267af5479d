import ZaofuFormal.Admission.Operations
import ZaofuFormal.Foundation.History

/-!
# The dispatch fence

A run that was requested or queued may be dispatched only after an admission
fact.  The projection decides this by folding every event of the run; here its
verdict is read off the history of the run: what ended it last, whether it was
granted since its last gate, and which other events have woken it since.
-/

namespace ZaofuFormal.Admission

open Foundation Workflow

structure RunFact where
  kind : RunEventKind
  event : ZfEvent
  deriving DecidableEq

def factOf (runId : String) (event : ZfEvent) : Option RunFact :=
  if eventRunId event = runId then (runEvent? event).map fun kind => ⟨kind, event⟩ else none

def history (log : Log) (runId : String) : List RunFact := log.filterMap (factOf runId)

namespace RunFact

/-- The run waits for an admission. -/
def gate (fact : RunFact) : Bool :=
  match fact.kind with
  | .admission .requested | .admission .queued => true
  | _ => false

def grants (fact : RunFact) : Bool :=
  match fact.kind with
  | .admission .admitted | .admission .released => true
  | _ => false

def ends (fact : RunFact) : Bool :=
  match fact.kind with
  | .admission .rejected | .terminal _ => true
  | _ => false

def blocksGoal (fact : RunFact) : Bool := decide (fact.kind = .terminal .goalBlocked)

def reopens (fact : RunFact) : Bool := decide (fact.kind = .goalUpdated) && reactivates fact.event

def source (fact : RunFact) : String := strippedAt fact.event.body "source_event_id"

end RunFact

/-- The last ending event blocked the goal, and no goal update has reopened the run. -/
def GoalBlocked : List RunFact → Prop :=
  Since (fun _ fact => fact.blocksGoal) fun _ fact => ¬fact.ends ∧ ¬fact.reopens

/-- The last ending event is none that a goal update could revert. -/
def EndedForGood : List RunFact → Prop :=
  Since (fun _ fact => fact.ends ∧ ¬fact.blocksGoal) fun _ fact => ¬fact.blocksGoal

def Ended (facts : List RunFact) : Prop := GoalBlocked facts ∨ EndedForGood facts

/-- Admission evidence: a named source, a queueing, or an admission with an id. -/
def Evidenced (facts : List RunFact) : Prop :=
  (∃ fact ∈ facts, fact.source ≠ "") ∨
    Since (fun before fact => fact.kind = .admission .queued ∧ ¬Ended before)
      (fun _ _ => True) facts ∨
    Since (fun before fact => fact.kind = .admission .admitted ∧ ¬Ended before ∧ fact.event.id ≠ "")
      (fun before fact => fact.kind = .admission .admitted → Ended before ∨ fact.event.id ≠ "") facts

/-- The events other than grants that set a run running or paused.  A legacy fact does so for a
run without admission evidence that no invoke is waiting for. -/
def Wakes (pending : List String) (runId : String) (before : List RunFact) (fact : RunFact) :
    Prop :=
  match fact.kind with
  | .paused => True
  | .resumed => True
  | .goalUpdated => reactivates fact.event = true
  | .legacy _ => fact.source = "" ∧ ¬Evidenced before ∧ runId ∉ pending
  | _ => False

/-- Some waking event has neither a gate nor an ending event after it. -/
def Woken (pending : List String) (runId : String) : List RunFact → Prop :=
  Since (Wakes pending runId) fun _ fact => ¬fact.gate ∧ ¬fact.ends

def Requested (facts : List RunFact) : Prop :=
  ∃ fact ∈ facts, fact.kind = .admission .requested

instance (facts : List RunFact) : Decidable (Requested facts) := by
  unfold Requested
  infer_instance

/-- An admission or a release follows the last gate. -/
def GrantedSinceGate : List RunFact → Prop :=
  Since (fun _ fact => fact.grants) fun _ fact => ¬fact.gate

/-- What the entry of a run records of the events of that run. -/
structure Recorded (pending : List String) (facts : List RunFact) (entry : RunAdmissionEntry) :
    Prop where
  source : entry.sourceEventId ≠ "" ↔ ∃ fact ∈ facts, fact.source ≠ ""
  queued : entry.queuedIndex.isSome = true ↔
    Since (fun before fact => fact.kind = .admission .queued ∧ ¬Ended before)
      (fun _ _ => True) facts
  admitted : entry.admittedEventId ≠ "" ↔
    Since (fun before fact => fact.kind = .admission .admitted ∧ ¬Ended before ∧ fact.event.id ≠ "")
      (fun before fact => fact.kind = .admission .admitted → Ended before ∨ fact.event.id ≠ "") facts
  blocked : entry.terminal = true ∧ entry.terminalType = some (.terminal .goalBlocked) ↔
    GoalBlocked facts
  ended : entry.terminal = true ∧ entry.terminalType ≠ some (.terminal .goalBlocked) ↔
    EndedForGood facts
  active : entry.active = true ↔ ¬Ended facts ∧
    Since (fun before fact => fact.grants ∨ Wakes pending entry.runId before fact)
      (fun _ fact => ¬fact.gate ∧ ¬fact.ends) facts

namespace Recorded

variable {pending : List String} {facts : List RunFact} {entry : RunAdmissionEntry}

theorem terminal_iff (recorded : Recorded pending facts entry) :
    entry.terminal = true ↔ Ended facts := by
  rw [Ended, ← recorded.blocked, ← recorded.ended]
  tauto

theorem evidenced_iff (recorded : Recorded pending facts entry) :
    entry.hasDedicatedAdmission = true ↔ Evidenced facts := by
  rw [Evidenced, ← recorded.source, ← recorded.queued, ← recorded.admitted]
  simp only [RunAdmissionEntry.hasDedicatedAdmission, Bool.or_eq_true, decide_eq_true_eq]
  tauto

/-- A run without events. -/
theorem fresh (pending : List String) (runId : String) (index : Nat) :
    Recorded pending [] { runId := runId, firstSeenIndex := index } where
  source := by simp
  queued := by simp [Since.not_nil]
  admitted := by simp [Since.not_nil]
  blocked := by simp [GoalBlocked, Since.not_nil]
  ended := by simp [EndedForGood, Since.not_nil, RunAdmissionEntry.terminal, RunStatus.terminal]
  active := by simp [Since.not_nil, RunAdmissionEntry.active, RunStatus.active]

end Recorded

section Growth

variable {facts : List RunFact} {fact : RunFact}

theorem goalBlocked_append_of_plain (plain : ¬fact.ends ∧ ¬fact.reopens) :
    GoalBlocked (facts ++ [fact]) ↔ GoalBlocked facts := by
  have other : ¬fact.blocksGoal := fun blocks =>
    plain.1 (by simp [RunFact.ends, of_decide_eq_true blocks])
  rw [GoalBlocked, Since.append_iff]
  tauto

theorem endedForGood_append_of_open (fine : ¬fact.ends) :
    EndedForGood (facts ++ [fact]) ↔ EndedForGood facts := by
  have other : ¬fact.blocksGoal := fun blocks =>
    fine (by simp [RunFact.ends, of_decide_eq_true blocks])
  rw [EndedForGood, Since.append_iff]
  tauto

theorem ended_append_of_plain (plain : ¬fact.ends ∧ ¬fact.reopens) :
    Ended (facts ++ [fact]) ↔ Ended facts := by
  rw [Ended, Ended, goalBlocked_append_of_plain plain, endedForGood_append_of_open plain.1]

theorem goalBlocked_append_of_ends (ends : fact.ends) :
    GoalBlocked (facts ++ [fact]) ↔ fact.blocksGoal := by
  rw [GoalBlocked, Since.append_iff]
  tauto

theorem endedForGood_append_of_ends (ends : fact.ends) :
    EndedForGood (facts ++ [fact]) ↔ ¬fact.blocksGoal := by
  rw [EndedForGood, Since.append_iff]
  tauto

theorem not_ends_of_reopens (reopens : fact.reopens) : ¬fact.ends := by
  rw [RunFact.reopens, Bool.and_eq_true, decide_eq_true_eq] at reopens
  simp [RunFact.ends, reopens.1]

theorem goalBlocked_append_of_reopens (reopens : fact.reopens) :
    GoalBlocked (facts ++ [fact]) ↔ False := by
  rw [GoalBlocked, Since.append_iff, iff_false]
  rintro (blocks | ⟨_, _, closed⟩)
  · exact not_ends_of_reopens reopens (by simp [RunFact.ends, of_decide_eq_true blocks])
  · exact closed reopens

theorem ended_append_of_reopens (reopens : fact.reopens) :
    Ended (facts ++ [fact]) ↔ EndedForGood facts := by
  rw [Ended, goalBlocked_append_of_reopens reopens, false_or,
    endedForGood_append_of_open (not_ends_of_reopens reopens)]

theorem ended_append_of_ends (ends : fact.ends) : Ended (facts ++ [fact]) := by
  rw [Ended, goalBlocked_append_of_ends ends, endedForGood_append_of_ends ends]
  exact em _

theorem wakes_of_reopens {pending : List String} {runId : String} (reopens : fact.reopens) :
    Wakes pending runId facts fact := by
  rw [RunFact.reopens, Bool.and_eq_true, decide_eq_true_eq] at reopens
  simp only [Wakes, reopens.1]
  exact reopens.2

/-- What wakes a run without reopening it. -/
theorem wakes_of_plain {pending : List String} {runId : String} (plain : ¬fact.reopens) :
    Wakes pending runId facts fact ↔
      fact.kind = .paused ∨ fact.kind = .resumed ∨
        ((∃ legacy, fact.kind = .legacy legacy) ∧ ¬(fact.source ≠ "" ∨ Evidenced facts) ∧
          runId ∉ pending) := by
  obtain ⟨kind, event⟩ := fact
  cases kind with
  | goalUpdated => simpa [Wakes, RunFact.reopens] using plain
  | legacy kind => simp [Wakes, not_or, and_assoc]
  | _ => simp [Wakes]

end Growth

namespace RunAdmissionEntry

variable (pending : List String) (index : Nat) {fact : RunFact} (entry : RunAdmissionEntry)

/-- Events that neither end nor reopen a run leave open what ended it. -/
theorem advance_terminal_of_plain (plain : ¬fact.ends ∧ ¬fact.reopens) :
    (entry.advance pending index fact.kind fact.event).terminal = entry.terminal ∧
      ((entry.advance pending index fact.kind fact.event).terminalType = entry.terminalType) := by
  obtain ⟨kind, event⟩ := fact
  cases kind with
  | admission kind =>
      cases kind with
      | rejected => exact absurd rfl plain.1
      | _ =>
          simp only [advance]
          split
          · exact ⟨rfl, rfl⟩
          · rename_i fine
            exact ⟨(Bool.eq_false_iff.mpr fine).symm, rfl⟩
  | terminal kind => exact absurd rfl plain.1
  | goalUpdated =>
      have inert : reactivates event = false := by
        simpa [RunFact.reopens] using plain.2
      simp [advance, inert]
  | legacy kind =>
      simp only [advance]
      split
      · rename_i fine
        exact ⟨(Bool.eq_false_iff.mpr fine.1).symm, rfl⟩
      · exact ⟨rfl, rfl⟩
  | _ =>
      simp only [advance]
      split
      · exact ⟨rfl, rfl⟩
      · rename_i fine
        exact ⟨(Bool.eq_false_iff.mpr fine).symm, rfl⟩

theorem advance_terminal_of_ends (ends : fact.ends) :
    (entry.advance pending index fact.kind fact.event).terminal = true ∧
      (entry.advance pending index fact.kind fact.event).terminalType = some fact.kind := by
  obtain ⟨kind, event⟩ := fact
  cases kind with
  | admission kind =>
      cases kind with
      | rejected => exact ⟨rfl, rfl⟩
      | _ => cases ends
  | terminal kind => exact ⟨terminalStatus_terminal kind event.body, rfl⟩
  | _ => cases ends

/-- A reopening update runs every run that is not ended for good. -/
theorem advance_of_reopens (reopens : fact.reopens) :
    (entry.terminal = true ∧ entry.terminalType ≠ some (.terminal .goalBlocked) ∧
        entry.advance pending index fact.kind fact.event = entry) ∨
      (¬(entry.terminal = true ∧ entry.terminalType ≠ some (.terminal .goalBlocked)) ∧
        (entry.advance pending index fact.kind fact.event).status = .running ∧
        (entry.advance pending index fact.kind fact.event).terminalType = none) := by
  obtain ⟨kind, event⟩ := fact
  simp only [RunFact.reopens, Bool.and_eq_true, decide_eq_true_eq] at reopens
  obtain ⟨rfl, active⟩ := reopens
  simp only [advance, active, true_and]
  by_cases fine : ¬entry.terminal = true ∨ entry.terminalType = some (.terminal .goalBlocked)
  · refine Or.inr ⟨fun ended => ?_, ?_⟩
    · exact fine.elim (absurd ended.1) ended.2
    · rw [if_pos fine]
      exact ⟨rfl, rfl⟩
  · obtain ⟨ended, final⟩ := not_or.mp fine
    exact Or.inl ⟨not_not.mp ended, final, if_neg fine⟩

theorem advance_admission :
    ((entry.advance pending index fact.kind fact.event).queuedIndex.isSome = true ↔
      (fact.kind = .admission .queued ∧ ¬entry.terminal = true) ∨
        entry.queuedIndex.isSome = true) ∧
    (entry.advance pending index fact.kind fact.event).admittedEventId =
      if fact.kind = .admission .admitted ∧ ¬entry.terminal = true then fact.event.id
      else entry.admittedEventId := by
  obtain ⟨kind, event⟩ := fact
  cases kind with
  | admission kind =>
      cases kind with
      | rejected => simp [advance]
      | _ =>
          simp only [advance]
          split
          · rename_i ended
            simp [ended]
          · rename_i fine
            simp [fine]
  | terminal kind => simp [advance]
  | _ => simp only [advance]; split <;> simp

/-- Which events leave the run active: those that set it running or paused, when nothing ended
it, and those that change no status. -/
theorem advance_active_of_plain (plain : ¬fact.ends ∧ ¬fact.reopens) :
    (entry.advance pending index fact.kind fact.event).active = true ↔
      ¬entry.terminal = true ∧
        (fact.grants = true ∨ fact.kind = .paused ∨ fact.kind = .resumed ∨
            ((∃ legacy, fact.kind = .legacy legacy) ∧ ¬entry.hasDedicatedAdmission = true ∧
              entry.runId ∉ pending) ∨
          (entry.active = true ∧ ¬fact.gate)) := by
  have inactive (ended : entry.terminal = true) : entry.active = false :=
    RunStatus.not_active_of_terminal ended
  obtain ⟨kind, event⟩ := fact
  cases kind with
  | admission kind =>
      cases kind with
      | rejected => exact absurd rfl plain.1
      | _ =>
          simp only [advance]
          split
          · rename_i ended
            simp [ended, inactive ended]
          · rename_i fine
            simp [fine, RunFact.grants, RunFact.gate, active, RunStatus.active]
  | terminal kind => exact absurd rfl plain.1
  | goalUpdated =>
      have inert : reactivates event = false := by
        simpa [RunFact.reopens] using plain.2
      have awake : entry.active = true → ¬entry.terminal = true := fun active ended =>
        Bool.false_ne_true ((inactive ended).symm.trans active)
      simp only [advance, inert, Bool.false_eq_true, false_and, if_false, RunFact.grants,
        RunFact.gate, reduceCtorEq, exists_false, false_or, not_false_eq_true, and_true]
      exact ⟨fun active => ⟨awake active, active⟩, fun both => both.2⟩
  | legacy kind =>
      have awake : entry.active = true → ¬entry.terminal = true := fun active ended =>
        Bool.false_ne_true ((inactive ended).symm.trans active)
      simp only [advance]
      split
      · rename_i counts
        simp [counts.1, counts.2.1, counts.2.2, active, RunStatus.active]
      · rename_i idle
        simp only [RunFact.grants, RunFact.gate, Bool.false_eq_true, reduceCtorEq, false_or,
          RunEventKind.legacy.injEq, exists_eq', true_and, not_false_eq_true, and_true]
        exact ⟨fun active => ⟨awake active, Or.inr active⟩, fun both => both.2.elim
          (fun counts => absurd ⟨both.1, counts⟩ idle) id⟩
  | _ =>
      simp only [advance]
      split
      · rename_i ended
        simp [ended, inactive ended]
      · rename_i fine
        simp [fine, active, RunStatus.active]

end RunAdmissionEntry

namespace Recorded

variable {pending : List String} {facts : List RunFact} {entry : RunAdmissionEntry}

/-- A legacy fact counts when neither it nor the history names an admission. -/
theorem dedicated_iff (recorded : Recorded pending facts entry) (fact : RunFact) :
    (entry.identify fact.kind fact.event).hasDedicatedAdmission = true ↔
      fact.source ≠ "" ∨ Evidenced facts := by
  rw [← recorded.evidenced_iff]
  by_cases named : fact.source ≠ ""
  · have own : (entry.identify fact.kind fact.event).sourceEventId = fact.source := by
      rw [RunAdmissionEntry.identify_sourceEventId]
      exact if_pos named
    exact iff_of_true (RunAdmissionEntry.hasDedicatedAdmission_of_source (own ▸ named))
      (Or.inl named)
  · have kept : (entry.identify fact.kind fact.event).sourceEventId = entry.sourceEventId := by
      rw [RunAdmissionEntry.identify_sourceEventId]
      exact if_neg named
    simp only [RunAdmissionEntry.hasDedicatedAdmission, kept, named, false_or,
      RunAdmissionEntry.identify_queuedIndex, RunAdmissionEntry.identify_admittedEventId]

section Note

open RunAdmissionEntry

variable (recorded : Recorded pending facts entry) (index : Nat) (fact : RunFact)

include recorded

theorem source_note : (entry.note pending index fact.kind fact.event).sourceEventId ≠ "" ↔
    ∃ other ∈ facts ++ [fact], other.source ≠ "" := by
  simp only [List.mem_append, List.mem_singleton, or_and_right, exists_or, exists_eq_left]
  rw [note_sourceEventId, ← recorded.source]
  change (if fact.source ≠ "" then fact.source else entry.sourceEventId) ≠ "" ↔ _
  split_ifs with named
  · exact iff_of_true named (Or.inr named)
  · exact (or_iff_left named).symm

theorem queued_note : (entry.note pending index fact.kind fact.event).queuedIndex.isSome = true ↔
    Since (fun before fact => fact.kind = .admission .queued ∧ ¬Ended before)
      (fun _ _ => True) (facts ++ [fact]) := by
  rw [RunAdmissionEntry.note, (advance_admission _ _ _).1, Since.append_iff, identify_terminal,
    identify_queuedIndex, recorded.terminal_iff, recorded.queued, and_true]

theorem admitted_note : (entry.note pending index fact.kind fact.event).admittedEventId ≠ "" ↔
    Since (fun before fact => fact.kind = .admission .admitted ∧ ¬Ended before ∧ fact.event.id ≠ "")
      (fun before fact => fact.kind = .admission .admitted → Ended before ∨ fact.event.id ≠ "")
      (facts ++ [fact]) := by
  rw [RunAdmissionEntry.note, (advance_admission _ _ _).2, Since.append_iff, identify_terminal,
    identify_admittedEventId, ← recorded.admitted]
  have ended := recorded.terminal_iff
  split_ifs with counts
  · tauto
  · tauto

variable {fact}

theorem note_of_ends (ends : fact.ends) :
    Recorded pending (facts ++ [fact]) (entry.note pending index fact.kind fact.event) where
  source := recorded.source_note index fact
  queued := recorded.queued_note index fact
  admitted := recorded.admitted_note index fact
  blocked := by
    obtain ⟨terminal, type⟩ := advance_terminal_of_ends pending index
      (entry.identify fact.kind fact.event) ends
    rw [goalBlocked_append_of_ends ends, RunAdmissionEntry.note, terminal, type]
    simp [RunFact.blocksGoal]
  ended := by
    obtain ⟨terminal, type⟩ := advance_terminal_of_ends pending index
      (entry.identify fact.kind fact.event) ends
    rw [endedForGood_append_of_ends ends, RunAdmissionEntry.note, terminal, type]
    simp [RunFact.blocksGoal]
  active := by
    have terminal := (advance_terminal_of_ends pending index
      (entry.identify fact.kind fact.event) ends).1
    have inactive := RunStatus.not_active_of_terminal terminal
    rw [Since.append_iff]
    refine iff_of_false (fun active => Bool.false_ne_true (inactive.symm.trans active)) ?_
    exact fun both => both.1 (ended_append_of_ends ends)

/-- What a reopening update makes of a run that ended for good, and of any other one. -/
theorem note_reopened (reopens : fact.reopens) :
    EndedForGood facts ∧ entry.note pending index fact.kind fact.event =
        entry.identify fact.kind fact.event ∨
      ¬EndedForGood facts ∧
        (entry.note pending index fact.kind fact.event).status = .running ∧
        (entry.note pending index fact.kind fact.event).terminalType = none := by
  have cases := advance_of_reopens pending index (entry.identify fact.kind fact.event) reopens
  rw [identify_terminal, identify_terminalType, recorded.ended, ← and_assoc, recorded.ended] at cases
  exact cases

theorem note_of_reopens (reopens : fact.reopens) :
    Recorded pending (facts ++ [fact]) (entry.note pending index fact.kind fact.event) where
  source := recorded.source_note index fact
  queued := recorded.queued_note index fact
  admitted := recorded.admitted_note index fact
  blocked := by
    rw [goalBlocked_append_of_reopens reopens, iff_false]
    rcases recorded.note_reopened index reopens with ⟨ended, same⟩ | ⟨_, _, type⟩
    · rw [same, identify_terminalType]
      exact fun both => (recorded.ended.mpr ended).2 both.2
    · rw [type]
      exact fun both => Option.some_ne_none _ both.2.symm
  ended := by
    rw [endedForGood_append_of_open (not_ends_of_reopens reopens)]
    rcases recorded.note_reopened index reopens with ⟨_, same⟩ | ⟨going, status, _⟩
    · rw [same, identify_terminal, identify_terminalType, recorded.ended]
    · refine iff_of_false (fun both => ?_) going
      rw [RunAdmissionEntry.terminal, status] at both
      exact Bool.false_ne_true both.1
  active := by
    rw [note_runId, Since.append_iff, ended_append_of_reopens reopens]
    rcases recorded.note_reopened index reopens with ⟨ended, same⟩ | ⟨going, status, _⟩
    · have inactive := RunStatus.not_active_of_terminal (recorded.ended.mpr ended).1
      rw [same, identify_active]
      refine iff_of_false (fun active => Bool.false_ne_true (inactive.symm.trans active)) ?_
      exact fun both => both.1 ended
    · rw [RunAdmissionEntry.active, status]
      exact iff_of_true rfl ⟨going, Or.inl (Or.inr (wakes_of_reopens reopens))⟩

theorem note_of_plain (plain : ¬fact.ends ∧ ¬fact.reopens) :
    Recorded pending (facts ++ [fact]) (entry.note pending index fact.kind fact.event) where
  source := recorded.source_note index fact
  queued := recorded.queued_note index fact
  admitted := recorded.admitted_note index fact
  blocked := by
    obtain ⟨terminal, type⟩ := advance_terminal_of_plain pending index
      (entry.identify fact.kind fact.event) plain
    rw [goalBlocked_append_of_plain plain, RunAdmissionEntry.note, terminal, type,
      identify_terminal, identify_terminalType, recorded.blocked]
  ended := by
    obtain ⟨terminal, type⟩ := advance_terminal_of_plain pending index
      (entry.identify fact.kind fact.event) plain
    rw [endedForGood_append_of_open plain.1, RunAdmissionEntry.note, terminal, type,
      identify_terminal, identify_terminalType, recorded.ended]
  active := by
    rw [note_runId, Since.append_iff, ended_append_of_plain plain, RunAdmissionEntry.note,
      advance_active_of_plain pending index _ plain, identify_terminal, identify_active,
      identify_runId, recorded.dedicated_iff, recorded.terminal_iff, recorded.active,
      wakes_of_plain plain.2]
    generalize (fact.source ≠ "" ∨ Evidenced facts) = evidenced
    tauto

variable (fact)

/-- An event ends the run, reopens it or does neither. -/
theorem note : Recorded pending (facts ++ [fact])
    (entry.note pending index fact.kind fact.event) := by
  by_cases ends : fact.ends
  · exact recorded.note_of_ends index ends
  by_cases reopens : fact.reopens
  · exact recorded.note_of_reopens index reopens
  · exact recorded.note_of_plain index ⟨ends, reopens⟩

end Note

end Recorded

theorem history_append (log : Log) (event : ZfEvent) (runId : String) :
    history (log ++ [event]) runId = history log runId ++ (factOf runId event).toList := by
  rw [history, List.filterMap_append, history]
  cases fact : factOf runId event with
  | none => simp [fact]
  | some found => simp [fact]

/-- The entry that the fold holds for a run, or a new one. -/
def entryOf (runs : RunEntries) (runId : String) (index : Nat) : RunAdmissionEntry :=
  (runs.get? runId).getD { runId := runId, firstSeenIndex := index }

theorem foldRuns_recorded (pending : List String) (log : Log) (runId : String) (index : Nat) :
    Recorded pending (history log runId) (entryOf (foldRuns pending log) runId index) := by
  induction log using List.reverseRecOn generalizing index with
  | nil => exact Recorded.fresh pending runId index
  | append_singleton log event ih =>
      rw [history_append, entryOf, foldRuns_append_get?]
      by_cases mine : eventRunId event = runId
      · subst mine
        cases read : runEvent? event with
        | none =>
            rw [noteFor_none read]
            simpa [factOf, read, entryOf] using ih index
        | some kind =>
            rw [noteFor_some _ read]
            have grown := (ih log.length).note log.length ⟨kind, event⟩
            simpa [factOf, read, entryOf] using grown
      · rw [noteFor_other mine]
        simpa [factOf, mine, entryOf] using ih index

theorem entryOf_runId {runs : RunEntries} (keyed : Keyed runs) (runId : String) (index : Nat) :
    (entryOf runs runId index).runId = runId := by
  unfold entryOf
  cases found : runs.get? runId with
  | none => rfl
  | some entry => exact keyed runId entry found

theorem active_iff_entryOf (log : Log) (runId : String) :
    Active log runId ↔ (entryOf (runsOf log) runId 0).active = true := by
  rw [active_iff, entryOf]
  cases (runsOf log).get? runId with
  | none => simp [RunAdmissionEntry.active, RunStatus.active]
  | some entry => simp

/-- Running or paused, read off the history of the run. -/
theorem active_iff_history (log : Log) (runId : String) :
    Active log runId ↔ ¬Ended (history log runId) ∧
      Since (fun before fact => fact.grants ∨ Wakes (pendingInvokeRunIds log) runId before fact)
        (fun _ fact => ¬fact.gate ∧ ¬fact.ends) (history log runId) := by
  have recorded := foldRuns_recorded (pendingInvokeRunIds log) log runId 0
  have own : (entryOf (foldRuns (pendingInvokeRunIds log) log) runId 0).runId = runId :=
    entryOf_runId (foldRuns_keyed _ log) runId 0
  have verdict := recorded.active
  rw [own] at verdict
  rw [active_iff_entryOf]
  exact verdict

theorem strip_of_active {log : Log} {runId : String} (active : Active log runId) :
    PyString.strip runId = runId ∧ runId ≠ "" := by
  have facts := ((active_iff_history log runId).mp active).2
  have occupied : history log runId ≠ [] := fun empty => Since.not_nil (empty ▸ facts)
  obtain ⟨fact, member⟩ := List.exists_mem_of_ne_nil _ occupied
  obtain ⟨event, _, read⟩ := List.mem_filterMap.mp member
  unfold factOf at read
  split at read
  · rename_i mine
    rw [← mine]
    refine ⟨strip_eventRunId event, fun empty => ?_⟩
    rw [runEvent?, if_pos empty] at read
    cases read
  · cases read

/-- Only the pause fence can hold an active run back. -/
theorem runDispatchBlockReason_of_active {log : Log} {runId : String}
    (active : Active log runId) :
    runDispatchBlockReason log runId = "" ∨ runDispatchBlockReason log runId = "run_paused" := by
  obtain ⟨stripped, named⟩ := strip_of_active active
  obtain ⟨entry, found, status⟩ := (active_iff log runId).mp active
  have fine : entry.terminal = false := by
    cases ended : entry.terminal with
    | false => rfl
    | true =>
        have inactive : entry.active = false := RunStatus.not_active_of_terminal ended
        exact absurd (inactive.symm.trans status) Bool.false_ne_true
  change (buildRunAdmissionProjection log).runs.get? runId = some entry at found
  simp only [runDispatchBlockReason, stripped, if_neg named, found, fine]
  by_cases paused : entry.status = .paused
  · exact Or.inr (if_pos paused)
  · have running : entry.status = .running := by
      unfold RunAdmissionEntry.active at status
      cases same : entry.status <;> simp_all [RunStatus.active]
    simp [running]

/-- A requested run is dispatched without a grant exactly when, its last end being reverted or
missing, one of the waking events has come after its last gate. -/
theorem fence_iff_unwoken (log : Log) (runId : String) :
    (Active log runId → runDispatchBlockReason log runId = "" ∨
        runDispatchBlockReason log runId = "run_paused") ∧
      ((Requested (history log runId) → Active log runId →
          GrantedSinceGate (history log runId)) ↔
        (Requested (history log runId) →
          GrantedSinceGate (history log runId) ∨ Ended (history log runId) ∨
            ¬Woken (pendingInvokeRunIds log) runId (history log runId))) := by
  refine ⟨runDispatchBlockReason_of_active, imp_congr_right fun _ => ?_⟩
  rw [active_iff_history, Since.or_iff]
  have granted : Since (fun _ fact => fact.grants)
      (fun _ fact => ¬fact.gate ∧ ¬fact.ends) (history log runId) →
        GrantedSinceGate (history log runId) :=
    Since.mono (fun _ _ => id) fun _ _ => And.left
  change (_ ∧ (_ ∨ Woken (pendingInvokeRunIds log) runId (history log runId)) → _) ↔ _
  tauto

/-- A queued run whose goal is set active. -/
def activatedQueueLog : Log :=
  [runFact AdmissionKind.requested.type "requested-b" "run-b" [("source_event_id", .str "invoke-b")],
    runFact AdmissionKind.queued.type "queued-b" "run-b" [("source_event_id", .str "invoke-b")],
    runFact "run.goal.updated" "updated-b" "run-b" [("status", .str "active")]]

/-- The goal update makes the queued run dispatchable. -/
theorem queued_run_dispatchable :
    ¬ ∀ (log : Log) (runId : String), Requested (history log runId) → Active log runId →
      GrantedSinceGate (history log runId) := by
  intro fenced
  have granted := fenced activatedQueueLog "run-b" (by decide +kernel) (by decide +kernel)
  obtain ⟨_, fact, member, grants⟩ := granted.exists_mem
  have ungranted : ∀ fact ∈ history activatedQueueLog "run-b", ¬fact.grants := by
    decide +kernel
  exact ungranted fact member grants

end ZaofuFormal.Admission
