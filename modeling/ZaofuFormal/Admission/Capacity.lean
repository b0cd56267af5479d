import ZaofuFormal.Admission.Operations
import ZaofuFormal.Foundation.Runs

/-!
# The capacity of active runs

Admission compares the number of active runs with the policy before it grants a
run.  Of the other events, pauses and resumptions of active runs and terminal
events never add an active run.  A goal update that reopens a blocked run does,
and nothing compares it with the policy.
-/

namespace ZaofuFormal.Admission

open Foundation Foundation.Runs Workflow

def activeCount (log : Log) : Nat := (buildRunAdmissionProjection log).activeRunIds.length

/-- Ended by a blocked goal, and not reopened since. -/
def goalBlocked (log : Log) (runId : String) : Bool :=
  ((runsOf log).get? runId).any fun entry =>
    decide (entry.terminalType = some (.terminal .goalBlocked))

/-- The two admission operations, and an event that somebody else appends. -/
inductive AdmissionStep where
  | admitInvoke (source : ZfEvent)
  | reject (source : ZfEvent) (reason : String)
  | record (event : ZfEvent)

def AdmissionStep.apply (runtime : Runtime) (log : Log) : AdmissionStep → Log
  | .admitInvoke source => (admitWorkflowInvoke runtime source log).2
  | .reject source reason => rejectWorkflowInvokeAdmission runtime source reason log
  | .record event => log ++ [event]

/-- The events of other writers: pauses and resumptions of active runs, terminal
events, goal updates that reopen blocked runs, and whatever wakes no run. -/
def Foreign (log : Log) (event : ZfEvent) : Prop :=
  match runEvent? event with
  | none => True
  | some (.admission _) => False
  | some (.terminal _) => True
  | some (.legacy _) => strippedAt event.body "source_event_id" ≠ ""
  | some .paused => Active log (eventRunId event)
  | some .resumed => Active log (eventRunId event)
  | some .goalUpdated => reactivates event = true → goalBlocked log (eventRunId event) = true

instance (log : Log) (event : ZfEvent) : Decidable (Foreign log event) := by
  unfold Foreign
  split <;> infer_instance

def AdmissionStep.Interleaved (log : Log) : AdmissionStep → Prop
  | .record event => Foreign log event
  | _ => True

instance (log : Log) (step : AdmissionStep) : Decidable (step.Interleaved log) := by
  cases step <;> unfold AdmissionStep.Interleaved <;> infer_instance

/-- A blocked run is reopened only while a slot is free. -/
def AdmissionStep.Spare (runtime : Runtime) (log : Log) : AdmissionStep → Prop
  | .record event =>
      runEvent? event = some .goalUpdated → reactivates event = true →
        activeCount log < runtime.maxActiveRuns
  | _ => True

instance (runtime : Runtime) (log : Log) (step : AdmissionStep) :
    Decidable (step.Spare runtime log) := by
  cases step <;> unfold AdmissionStep.Spare <;> infer_instance

theorem activeCount_le {log : Log} {among : List String}
    (covered : ∀ runId, Active log runId → runId ∈ among) : activeCount log ≤ among.length :=
  (activeRunIds_nodup (runsOf_keyed log)).length_le_of_subset fun runId active =>
    covered runId active

/-- Nobody but one run can have become active. -/
theorem activeCount_le_others {log later : Log} {source : ZfEvent}
    (others : ∀ runId, runId ≠ eventRunId source → Active later runId → Active log runId) :
    activeCount later ≤ (activeOthers source log).length + 1 := by
  have covered : ∀ runId, Active later runId →
      runId ∈ eventRunId source :: activeOthers source log := by
    intro runId active
    by_cases own : runId = eventRunId source
    · exact List.mem_cons.mpr (Or.inl own)
    · refine List.mem_cons.mpr (Or.inr (List.mem_filter.mpr ⟨?_, by simpa using own⟩))
      exact others runId own active
  exact activeCount_le covered

/-- The kinds that never make an inactive run active. -/
def RunEventKind.quiet (event : ZfEvent) : RunEventKind → Bool
  | .admission .admitted => false
  | .admission .released => false
  | .admission _ => true
  | .terminal _ => true
  | .legacy _ => decide (strippedAt event.body "source_event_id" ≠ "")
  | .paused => false
  | .resumed => false
  | .goalUpdated => !reactivates event

def RunEventKind.isLegacy : RunEventKind → Bool
  | .legacy _ => true
  | _ => false

/-- A legacy fact of a run with its own admission evidence is quiet too. -/
theorem RunAdmissionEntry.active_of_advance {pending : List String} {index : Nat}
    {kind : RunEventKind} {event : ZfEvent} {entry : RunAdmissionEntry}
    (quiet : kind.quiet event = true) (dedicated : entry.sourceEventId ≠ "" ∨ kind.isLegacy = false)
    (active : (entry.advance pending index kind event).active = true) : entry.active = true := by
  cases kind with
  | admission kind =>
      cases kind with
      | admitted => cases quiet
      | released => cases quiet
      | rejected => cases active
      | requested =>
          simp only [RunAdmissionEntry.advance] at active
          split at active
          · exact active
          · cases active
      | queued =>
          simp only [RunAdmissionEntry.advance] at active
          split at active
          · exact active
          · cases active
  | terminal kind =>
      have ended := RunStatus.not_active_of_terminal (terminalStatus_terminal kind event.body)
      exact absurd (ended.symm.trans active) Bool.false_ne_true
  | legacy kind =>
      rcases dedicated with named | shape
      · simp only [RunAdmissionEntry.advance,
          RunAdmissionEntry.hasDedicatedAdmission_of_source named, not_true_eq_false,
          false_and, and_false, if_false] at active
        exact active
      · cases shape
  | paused => cases quiet
  | resumed => cases quiet
  | goalUpdated =>
      have inert : reactivates event = false := by simpa [RunEventKind.quiet] using quiet
      simp only [RunAdmissionEntry.advance, inert, Bool.false_eq_true, false_and,
        if_false] at active
      exact active

theorem RunAdmissionEntry.active_of_note_quiet {pending : List String} {index : Nat}
    {kind : RunEventKind} {event : ZfEvent} {entry : RunAdmissionEntry}
    (quiet : kind.quiet event = true)
    (active : (entry.note pending index kind event).active = true) : entry.active = true := by
  have dedicated : (entry.identify kind event).sourceEventId ≠ "" ∨ kind.isLegacy = false := by
    cases kind with
    | legacy kind =>
        have named : strippedAt event.body "source_event_id" ≠ "" := of_decide_eq_true quiet
        rw [RunAdmissionEntry.identify_sourceEventId, if_pos named]
        exact Or.inl named
    | _ => exact Or.inr rfl
  have identified := RunAdmissionEntry.active_of_advance quiet dedicated active
  exact entry.identify_active.symm.trans identified

/-- An event that wakes no run keeps the inactive runs inactive. -/
theorem active_of_append_quiet {log : Log} {event : ZfEvent} (sourced : Sourced (log ++ [event]))
    (quiet : ∀ kind, runEvent? event = some kind → kind.quiet event = true) {runId : String}
    (active : Active (log ++ [event]) runId) : Active log runId := by
  obtain ⟨entry, found, running⟩ := (active_iff _ _).mp active
  rw [runsOf_append sourced] at found
  by_cases mine : eventRunId event = runId
  · subst mine
    cases read : runEvent? event with
    | none =>
        rw [noteFor_none read] at found
        exact (active_iff _ _).mpr ⟨entry, found, running⟩
    | some kind =>
        rw [noteFor_some _ read] at found
        rw [← Option.some.inj found] at running
        have before := RunAdmissionEntry.active_of_note_quiet (quiet kind read) running
        cases known : (runsOf log).get? (eventRunId event) with
        | none => rw [known] at before; cases before
        | some old => exact (active_iff _ _).mpr ⟨old, known, by simpa [known] using before⟩
  · rw [noteFor_other mine] at found
    exact (active_iff _ _).mpr ⟨entry, found, running⟩

theorem active_of_append_other {log : Log} {event : ZfEvent} (sourced : Sourced (log ++ [event]))
    {runId : String} (other : runId ≠ eventRunId event) :
    Active (log ++ [event]) runId ↔ Active log runId :=
  active_congr (by rw [runsOf_append sourced, noteFor_other (Ne.symm other)])

structure WithinCapacity (runtime : Runtime) (log : Log) : Prop where
  sourced : Sourced log
  within : activeCount log ≤ runtime.maxActiveRuns

section Steps

variable {runtime : Runtime} {log : Log} {source : ZfEvent} {kind : AdmissionKind}
  {extra : List (String × Json)}

theorem activeCount_le_of_active {later : Log}
    (fewer : ∀ runId, Active later runId → Active log runId) :
    activeCount later ≤ activeCount log :=
  activeCount_le fewer

theorem WithinCapacity.recordQuiet (safe : WithinCapacity runtime log)
    (named : eventRunId source ≠ "") (quiet : ∀ event, (RunEventKind.admission kind).quiet event) :
    WithinCapacity runtime (recordAdmission runtime kind source extra log) := by
  rcases recordAdmission_cases runtime kind source extra log with ⟨same, _⟩ | appended
  · exact same.symm ▸ safe
  · have sourced := sourced_admissionEvent runtime kind extra named safe.sourced
    rw [appended]
    refine ⟨sourced, (activeCount_le_of_active fun runId active => ?_).trans safe.within⟩
    refine active_of_append_quiet sourced (fun read shape => ?_) active
    rw [admissionEvent_runEvent? runtime kind extra log named] at shape
    exact Option.some.inj shape ▸ quiet _

theorem grant_sourced (named : eventRunId source ≠ "") (sourced : Sourced log) (queued : Bool) :
    Sourced (grant runtime source queued log) := by
  cases queued with
  | false => exact recordAdmission_sourced named sourced
  | true => exact recordAdmission_sourced named (recordAdmission_sourced named sourced)

theorem grant_get?_other (named : eventRunId source ≠ "") (sourced : Sourced log) (queued : Bool)
    {runId : String} (other : runId ≠ eventRunId source) :
    (runsOf (grant runtime source queued log)).get? runId = (runsOf log).get? runId := by
  cases queued with
  | false => exact recordAdmission_get?_other named sourced other
  | true =>
      exact (recordAdmission_get?_other named (recordAdmission_sourced named sourced) other).trans
        (recordAdmission_get?_other named sourced other)

theorem WithinCapacity.grant (safe : WithinCapacity runtime log) (named : eventRunId source ≠ "")
    (free : admissionBlocker runtime source log = "") (queued : Bool) :
    WithinCapacity runtime (grant runtime source queued log) := by
  refine ⟨grant_sourced named safe.sourced queued, ?_⟩
  have bound : activeCount (ZaofuFormal.Admission.grant runtime source queued log) ≤
      (activeOthers source log).length + 1 :=
    activeCount_le_others fun runId other active =>
      (active_congr (grant_get?_other named safe.sourced queued other)).mp active
  have spare := activeOthers_lt free
  omega

theorem WithinCapacity.admit (safe : WithinCapacity runtime log) (source : ZfEvent) :
    WithinCapacity runtime (admitWorkflowInvoke runtime source log).2 := by
  unfold admitWorkflowInvoke
  split
  · exact safe
  · rename_i named
    split
    · exact safe
    · have requested : WithinCapacity runtime
          (recordAdmission runtime .requested source [] log) :=
        safe.recordQuiet named fun _ => rfl
      simp only
      split
      · exact requested.recordQuiet named fun _ => rfl
      · rename_i free
        exact requested.grant named (not_not.mp free) _

theorem WithinCapacity.reject (safe : WithinCapacity runtime log) (source : ZfEvent)
    (reason : String) :
    WithinCapacity runtime (rejectWorkflowInvokeAdmission runtime source reason log) := by
  unfold rejectWorkflowInvokeAdmission
  split
  · exact safe
  · rename_i named
    split
    · exact safe
    · exact (safe.recordQuiet named fun _ => rfl).recordQuiet named fun _ => rfl

theorem sourced_of_foreign (sourced : Sourced log) {event : ZfEvent}
    (foreign : Foreign log event) : Sourced (log ++ [event]) := by
  refine sourced_append.mpr ⟨sourced, fun legacy read => ?_⟩
  unfold Foreign at foreign
  rw [read] at foreign
  exact foreign

/-- Only a reopening goal update lets a foreign event wake its run. -/
theorem active_of_foreign (sourced : Sourced log) {event : ZfEvent} (foreign : Foreign log event)
    {runId : String} (active : Active (log ++ [event]) runId) :
    Active log runId ∨
      (runId = eventRunId event ∧ runEvent? event = some .goalUpdated ∧
        reactivates event = true) := by
  have grown := sourced_of_foreign sourced foreign
  by_cases mine : runId = eventRunId event
  · unfold Foreign at foreign
    cases read : runEvent? event with
    | none => exact Or.inl (active_of_append_quiet grown (by simp [read]) active)
    | some kind =>
        rw [read] at foreign
        cases kind with
        | admission kind => exact foreign.elim
        | terminal kind =>
            refine Or.inl (active_of_append_quiet grown (fun other same => ?_) active)
            rw [← Option.some.inj (read.symm.trans same)]
            rfl
        | legacy kind =>
            refine Or.inl (active_of_append_quiet grown (fun other same => ?_) active)
            rw [← Option.some.inj (read.symm.trans same)]
            exact decide_eq_true foreign
        | paused => exact Or.inl (mine ▸ foreign)
        | resumed => exact Or.inl (mine ▸ foreign)
        | goalUpdated =>
            by_cases wakes : reactivates event = true
            · exact Or.inr ⟨mine, rfl, wakes⟩
            · refine Or.inl (active_of_append_quiet grown (fun other same => ?_) active)
              rw [← Option.some.inj (read.symm.trans same)]
              simpa [RunEventKind.quiet] using wakes
  · exact Or.inl ((active_of_append_other grown mine).mp active)

theorem WithinCapacity.record (safe : WithinCapacity runtime log) {event : ZfEvent}
    (foreign : Foreign log event)
    (spare : runEvent? event = some .goalUpdated → reactivates event = true →
      activeCount log < runtime.maxActiveRuns) :
    WithinCapacity runtime (log ++ [event]) := by
  refine ⟨sourced_of_foreign safe.sourced foreign, ?_⟩
  by_cases wakes : runEvent? event = some .goalUpdated ∧ reactivates event = true
  · have bound : activeCount (log ++ [event]) ≤
        (eventRunId event :: (buildRunAdmissionProjection log).activeRunIds).length := by
      refine activeCount_le fun runId active => ?_
      rcases active_of_foreign safe.sourced foreign active with before | ⟨own, _⟩
      · exact List.mem_cons_of_mem _ before
      · exact List.mem_cons.mpr (Or.inl own)
    have room := spare wakes.1 wakes.2
    rw [List.length_cons] at bound
    exact bound.trans room
  · refine (activeCount_le_of_active fun runId active => ?_).trans safe.within
    rcases active_of_foreign safe.sourced foreign active with before | ⟨_, waking⟩
    · exact before
    · exact absurd waking wakes

theorem WithinCapacity.apply (safe : WithinCapacity runtime log) {step : AdmissionStep}
    (interleaved : step.Interleaved log) (spare : step.Spare runtime log) :
    WithinCapacity runtime (step.apply runtime log) := by
  cases step with
  | admitInvoke source => exact safe.admit source
  | reject source reason => exact safe.reject source reason
  | record event => exact safe.record interleaved spare

end Steps

/-- While blocked runs are reopened only into free slots, no run of the system
exceeds the capacity. -/
theorem capacity_kept (runtime : Runtime) {steps : List AdmissionStep}
    (along : Along (AdmissionStep.apply runtime)
      (fun log step => step.Interleaved log ∧ step.Spare runtime log) [] steps) :
    (buildRunAdmissionProjection
      (run (AdmissionStep.apply runtime) [] steps)).activeRunIds.length ≤
        runtime.maxActiveRuns := by
  have initial : WithinCapacity runtime [] := by
    refine ⟨fun event member => absurd member List.not_mem_nil, ?_⟩
    exact Nat.zero_le _
  have safe := along.invariant (WithinCapacity runtime)
    (fun log step safe allowed => safe.apply allowed.1 allowed.2) initial
  exact safe.within

/-- The first run is blocked, and the second one takes the slot. -/
def replacedSteps : List AdmissionStep :=
  [.admitInvoke (invokeOf "invoke-a" "run-a"),
    .record (runFact "run.goal.blocked" "blocked-a" "run-a" []),
    .admitInvoke (invokeOf "invoke-b" "run-b")]

def reopening : AdmissionStep :=
  .record (runFact "run.goal.updated" "updated-a" "run-a" [("status", .str "active")])

theorem replaced_steps_kept :
    (buildRunAdmissionProjection
      (run (AdmissionStep.apply serialRuntime) [] replacedSteps)).activeRunIds.length ≤
        serialRuntime.maxActiveRuns ∧
      (buildRunAdmissionProjection
        (run (AdmissionStep.apply serialRuntime) [] replacedSteps)).activeRunIds = ["run-b"] :=
  ⟨capacity_kept serialRuntime (by decide +kernel), by decide +kernel⟩

/-- The blocked run is reopened while the second one is running. -/
theorem reopened_beside_replacement :
    ¬ ∀ (runtime : Runtime) (steps : List AdmissionStep),
      Along (AdmissionStep.apply runtime) (fun log step => step.Interleaved log) [] steps →
        (buildRunAdmissionProjection
          (run (AdmissionStep.apply runtime) [] steps)).activeRunIds.length ≤
            runtime.maxActiveRuns := by
  intro kept
  have bound := kept serialRuntime (replacedSteps ++ [reopening]) (by decide +kernel)
  exact absurd bound (by decide +kernel)

end ZaofuFormal.Admission
