import ZaofuFormal.Admission.Fence

/-!
# Ends that no goal update reverts

A goal update reopens a run only if its last ending event is `run.goal.blocked`.
Both folds that decide this remember the type of the last ending event alone, so
a `run.goal.blocked` that arrives for a run ended otherwise makes its end
revertible again.
-/

namespace ZaofuFormal.Admission

open Foundation Workflow

/-- The last ending event blocked the goal. -/
def LastBlocked : List RunFact → Prop :=
  Since (fun _ fact => fact.blocksGoal) fun _ fact => ¬fact.ends

/-- A goal update has come after a last ending event that blocked the goal. -/
def Reopened : List RunFact → Prop :=
  Since (fun before fact => fact.reopens ∧ LastBlocked before) fun _ fact => ¬fact.ends

theorem ends_of_blocksGoal {fact : RunFact} (blocks : fact.blocksGoal) : fact.ends := by
  simp [RunFact.ends, of_decide_eq_true blocks]

variable {facts : List RunFact}

theorem LastBlocked.exists_ends (blocked : LastBlocked facts) : ∃ fact ∈ facts, fact.ends := by
  obtain ⟨_, fact, member, blocks⟩ := Since.exists_mem blocked
  exact ⟨fact, member, ends_of_blocksGoal blocks⟩

theorem goalBlocked_iff (facts : List RunFact) :
    GoalBlocked facts ↔ LastBlocked facts ∧ ¬Reopened facts := by
  induction facts using List.reverseRecOn with
  | nil => simp [GoalBlocked, LastBlocked, Since.not_nil]
  | append_singleton facts fact ih =>
      have ends : fact.blocksGoal → fact.ends := ends_of_blocksGoal
      have reopens : fact.reopens → ¬fact.ends := not_ends_of_reopens
      rw [GoalBlocked, LastBlocked, Reopened, Since.append_iff, Since.append_iff, Since.append_iff]
      change _ ∨ (GoalBlocked facts ∧ _) ↔
        (_ ∨ (LastBlocked facts ∧ _)) ∧ ¬(_ ∨ (Reopened facts ∧ _))
      rw [ih]
      tauto

/-- The end that a whole history leaves, read off its last ending event. -/
theorem endedForGood_iff (facts : List RunFact) :
    EndedForGood facts ↔ (∃ fact ∈ facts, fact.ends) ∧ ¬LastBlocked facts := by
  induction facts using List.reverseRecOn with
  | nil => simp [EndedForGood, Since.not_nil]
  | append_singleton facts fact ih =>
      have ends : fact.blocksGoal → fact.ends := ends_of_blocksGoal
      have grown : (∃ other ∈ facts ++ [fact], other.ends) ↔
          (∃ other ∈ facts, other.ends) ∨ fact.ends := by
        simp [or_and_right, exists_or]
      rw [grown, EndedForGood, LastBlocked, Since.append_iff, Since.append_iff]
      change _ ∨ (EndedForGood facts ∧ _) ↔ _ ∧ ¬(_ ∨ (LastBlocked facts ∧ _))
      rw [ih]
      generalize (∃ other ∈ facts, other.ends = true) = some_end
      tauto

theorem Reopened.lastBlocked (reopened : Reopened facts) : LastBlocked facts := by
  induction facts using List.reverseRecOn with
  | nil => exact absurd reopened Since.not_nil
  | append_singleton facts fact ih =>
      rw [Reopened, Since.append_iff] at reopened
      rw [LastBlocked, Since.append_iff]
      rcases reopened with ⟨reopens, blocked⟩ | ⟨earlier, kept⟩
      · exact .inr ⟨blocked, not_ends_of_reopens reopens⟩
      · exact .inr ⟨ih earlier, kept⟩

/-- A run has ended unless a goal update has reopened it. -/
theorem ended_iff (facts : List RunFact) :
    Ended facts ↔ (∃ fact ∈ facts, fact.ends) ∧ ¬Reopened facts := by
  have exists_ends : LastBlocked facts → ∃ fact ∈ facts, fact.ends := LastBlocked.exists_ends
  have lastBlocked : Reopened facts → LastBlocked facts := Reopened.lastBlocked
  rw [Ended, goalBlocked_iff, endedForGood_iff]
  tauto

/-- Nothing that precedes an irreversible end can be reopened. -/
theorem reopened_append_iff (ended : EndedForGood facts)
    (later : List RunFact) : Reopened (facts ++ later) ↔ Reopened later := by
  have unblocked := ((endedForGood_iff facts).mp ended).2
  have closed : ¬Reopened facts := fun reopened => unblocked reopened.lastBlocked
  have lastBlocked : ∀ later, LastBlocked (facts ++ later) ↔ LastBlocked later := by
    intro later
    induction later using List.reverseRecOn with
    | nil =>
        rw [List.append_nil]
        exact iff_of_false unblocked Since.not_nil
    | append_singleton later fact ih =>
        rw [← List.append_assoc, LastBlocked, Since.append_iff, Since.append_iff]
        exact or_congr_right (and_congr_left fun _ => ih)
  induction later using List.reverseRecOn with
  | nil =>
      rw [List.append_nil]
      exact iff_of_false closed Since.not_nil
  | append_singleton later fact ih =>
      rw [← List.append_assoc, Reopened, Since.append_iff, Since.append_iff, lastBlocked later]
      exact or_congr_right (and_congr_left fun _ => ih)

/-- The only known run of a log, or the empty id. -/
def singletonRun (aliases : Dict String String) : String :=
  match aliases.values.eraseDups with
  | [only] => only
  | _ => ""

/-- The run of an event of the log; an unscoped event belongs to the only known run. -/
def scopedRunId (log : Log) (event : ZfEvent) : String :=
  firstText [Workflow.eventRunId (runAliases log) event, singletonRun (runAliases log)]

def noteTerminalType (scope : ZfEvent → String) (types : Dict String TerminalKind)
    (event : ZfEvent) : Dict String TerminalKind :=
  let runId := scope event
  if runId = "" then types
  else
    match runEventKind? event.type with
    | some (.terminal kind) => types.insert runId kind
    | some .goalUpdated =>
        if reactivates event ∧ types.get? runId = some .goalBlocked then types.erase runId
        else types
    | _ => types

def terminalTypes (log : Log) : Dict String TerminalKind :=
  log.foldl (noteTerminalType (scopedRunId log)) Dict.empty

/-- The aliases of the runs and the runs that are terminal at the end of the log. -/
def foldTerminalRunScope (log : Log) : Dict String String × List String :=
  (runAliases log, (terminalTypes log).keys)

/-- The terminal and goal update events of a run, under some scope of events. -/
def scopedFactOf (scope : ZfEvent → String) (runId : String) (event : ZfEvent) : Option RunFact :=
  if scope event = "" ∨ scope event ≠ runId then none
  else
    match runEventKind? event.type with
    | some (.terminal kind) => some ⟨.terminal kind, event⟩
    | some .goalUpdated => some ⟨.goalUpdated, event⟩
    | _ => none

def scopedHistory (log : Log) (runId : String) : List RunFact :=
  log.filterMap (scopedFactOf (scopedRunId log) runId)

/-- What one event of a run does to its recorded terminal type. -/
def nextTerminalType (type : Option TerminalKind) (fact : RunFact) : Option TerminalKind :=
  match fact.kind with
  | .terminal kind => some kind
  | _ => if fact.reopens ∧ type = some .goalBlocked then none else type

theorem noteTerminalType_get? (scope : ZfEvent → String) (types : Dict String TerminalKind)
    (event : ZfEvent) (runId : String) :
    (noteTerminalType scope types event).get? runId =
      (scopedFactOf scope runId event).elim (types.get? runId)
        (nextTerminalType (types.get? runId)) := by
  unfold noteTerminalType scopedFactOf
  by_cases unscoped : scope event = ""
  · simp [unscoped]
  by_cases mine : scope event = runId
  · subst mine
    simp only [unscoped, not_true_eq_false, ne_eq, or_false, if_false]
    split
    · simp [nextTerminalType]
    · simp only [Option.elim_some, nextTerminalType, RunFact.reopens, decide_true, Bool.true_and]
      split
      · rw [Dict.get?_erase, if_pos rfl]
      · rfl
    · rfl
  · have other : runId ≠ scope event := Ne.symm mine
    simp only [unscoped, mine, not_false_eq_true, ne_eq, or_true, if_true, if_false,
      Option.elim_none]
    split
    · exact Dict.get?_insert_ne _ _ other
    · split
      · rw [Dict.get?_erase, if_neg other]
      · rfl
    · rfl

/-- What the terminal type of a run records of the events of that run. -/
structure TypeRecorded (facts : List RunFact) (type : Option TerminalKind) : Prop where
  blocked : type = some .goalBlocked ↔ GoalBlocked facts
  ended : type ≠ none ∧ type ≠ some .goalBlocked ↔ EndedForGood facts

theorem TypeRecorded.isSome_iff {type : Option TerminalKind}
    (recorded : TypeRecorded facts type) : type.isSome = true ↔ Ended facts := by
  rw [Ended, ← recorded.blocked, ← recorded.ended]
  cases type with
  | none => simp
  | some kind => simp [em]

theorem TypeRecorded.next {type : Option TerminalKind}
    (recorded : TypeRecorded facts type) {scope : ZfEvent → String} {runId : String}
    {event : ZfEvent} {fact : RunFact} (read : scopedFactOf scope runId event = some fact) :
    TypeRecorded (facts ++ [fact]) (nextTerminalType type fact) := by
  unfold scopedFactOf at read
  split at read
  · cases read
  · split at read
    · cases read
      rename_i kind _
      have ends : RunFact.ends ⟨.terminal kind, event⟩ := rfl
      constructor
      · rw [goalBlocked_append_of_ends ends]
        simp [nextTerminalType, RunFact.blocksGoal]
      · rw [endedForGood_append_of_ends ends]
        simp [nextTerminalType, RunFact.blocksGoal]
    · cases read
      by_cases reopens : RunFact.reopens ⟨.goalUpdated, event⟩
      · constructor
        · rw [goalBlocked_append_of_reopens reopens]
          simp [nextTerminalType, reopens]
        · rw [endedForGood_append_of_open (not_ends_of_reopens reopens), ← recorded.ended]
          by_cases blocked : type = some .goalBlocked
          · simp [nextTerminalType, reopens, blocked]
          · simp [nextTerminalType, reopens, blocked]
      · have plain : ¬RunFact.ends ⟨.goalUpdated, event⟩ := Bool.false_ne_true
        constructor
        · rw [goalBlocked_append_of_plain ⟨plain, reopens⟩, ← recorded.blocked]
          simp [nextTerminalType, reopens]
        · rw [endedForGood_append_of_open plain, ← recorded.ended]
          simp [nextTerminalType, reopens]
    · cases read

theorem foldl_noteTerminalType_recorded (scope : ZfEvent → String) (log : Log) (runId : String) :
    TypeRecorded (log.filterMap (scopedFactOf scope runId))
      ((log.foldl (noteTerminalType scope) Dict.empty).get? runId) := by
  induction log using List.reverseRecOn with
  | nil => constructor <;> simp [GoalBlocked, EndedForGood, Since.not_nil]
  | append_singleton log event ih =>
      rw [List.foldl_append, List.foldl_cons, List.foldl_nil, noteTerminalType_get?,
        List.filterMap_append]
      cases read : scopedFactOf scope runId event with
      | none => simpa [read] using ih
      | some fact => simpa [read] using ih.next read

theorem terminalTypes_recorded (log : Log) (runId : String) :
    TypeRecorded (scopedHistory log runId) ((terminalTypes log).get? runId) :=
  foldl_noteTerminalType_recorded (scopedRunId log) log runId

theorem mem_foldTerminalRunScope (log : Log) (runId : String) :
    runId ∈ (foldTerminalRunScope log).2 ↔ Ended (scopedHistory log runId) := by
  rw [← (terminalTypes_recorded log runId).isSome_iff]
  change runId ∈ (terminalTypes log).entries.map Prod.fst ↔ _
  rw [List.mem_map, Option.isSome_iff_exists]
  constructor
  · rintro ⟨entry, member, rfl⟩
    exact ⟨entry.2, (Dict.get?_eq_some_iff _ _ _).mpr member⟩
  · rintro ⟨kind, found⟩
    exact ⟨(runId, kind), (Dict.get?_eq_some_iff _ _ _).mp found, rfl⟩

/-- The projection shows the run as ended. -/
def Terminal (log : Log) (runId : String) : Prop :=
  ∃ entry, (buildRunAdmissionProjection log).runs.get? runId = some entry ∧ entry.terminal = true

/-- The projection shows the run as ended by something else than a blocked goal. -/
def TerminalForGood (log : Log) (runId : String) : Prop :=
  ∃ entry, (buildRunAdmissionProjection log).runs.get? runId = some entry ∧
    entry.terminal = true ∧ entry.terminalType ≠ some (.terminal .goalBlocked)

instance (log : Log) (runId : String) : Decidable (Terminal log runId) :=
  inferInstanceAs (Decidable (∃ entry ∈ (buildRunAdmissionProjection log).runs.get? runId,
    entry.terminal = true))

instance (log : Log) (runId : String) : Decidable (TerminalForGood log runId) :=
  inferInstanceAs (Decidable (∃ entry ∈ (buildRunAdmissionProjection log).runs.get? runId,
    entry.terminal = true ∧ entry.terminalType ≠ some (.terminal .goalBlocked)))

/-- The terminal scope holds the run for another reason than a blocked goal. -/
def ScopedForGood (log : Log) (runId : String) : Prop :=
  ∃ kind, (terminalTypes log).get? runId = some kind ∧ kind ≠ .goalBlocked

instance (log : Log) (runId : String) : Decidable (ScopedForGood log runId) :=
  inferInstanceAs (Decidable (∃ kind ∈ (terminalTypes log).get? runId, kind ≠ .goalBlocked))

theorem terminal_iff_history (log : Log) (runId : String) :
    Terminal log runId ↔ Ended (history log runId) := by
  rw [← (foldRuns_recorded (pendingInvokeRunIds log) log runId 0).terminal_iff, entryOf]
  change (∃ entry, (foldRuns _ log).get? runId = some entry ∧ _) ↔ _
  cases (foldRuns (pendingInvokeRunIds log) log).get? runId with
  | none => simp [RunAdmissionEntry.terminal, RunStatus.terminal]
  | some entry => simp

theorem terminalForGood_iff_history (log : Log) (runId : String) :
    TerminalForGood log runId ↔ EndedForGood (history log runId) := by
  rw [← (foldRuns_recorded (pendingInvokeRunIds log) log runId 0).ended, entryOf]
  change (∃ entry, (foldRuns _ log).get? runId = some entry ∧ _) ↔ _
  cases (foldRuns (pendingInvokeRunIds log) log).get? runId with
  | none => simp [RunAdmissionEntry.terminal, RunStatus.terminal]
  | some entry => simp

/-- A run that has ended for good stays ended exactly as long as no `run.goal.blocked` of the
run, as its last ending event, is followed by a reactivating goal update of the run.  In the
terminal scope, whose aliases look at the whole log, some terminal event must also still belong
to the run. -/
theorem terminal_irreversible_iff (log later : Log) (runId : String) :
    (TerminalForGood log runId →
      (Terminal (log ++ later) runId ↔ ¬Reopened (history later runId))) ∧
    (ScopedForGood log runId →
      (runId ∈ (foldTerminalRunScope (log ++ later)).2 ↔
        (∃ fact ∈ scopedHistory (log ++ later) runId, fact.ends) ∧
          ¬Reopened (scopedHistory (log ++ later) runId))) := by
  constructor
  · intro terminal
    have ended := (terminalForGood_iff_history log runId).mp terminal
    have split : history (log ++ later) runId = history log runId ++ history later runId :=
      List.filterMap_append
    obtain ⟨fact, member, ends⟩ := ((endedForGood_iff _).mp ended).1
    rw [terminal_iff_history, split, ended_iff, reopened_append_iff ended]
    exact and_iff_right ⟨fact, List.mem_append_left _ member, ends⟩
  · intro _
    rw [mem_foldTerminalRunScope, ended_iff]

def failedLog : Log :=
  [runFact "run.started" "started-a" "run-a" [], runFact "run.failed" "failed-a" "run-a" []]

def goalUpdate : ZfEvent := runFact "run.goal.updated" "updated-a" "run-a" [("status", .str "active")]

/-- A goal update alone does not revert a failed run. -/
theorem failed_run_stays_failed :
    Terminal (failedLog ++ [goalUpdate]) "run-a" ∧
      "run-a" ∈ (foldTerminalRunScope (failedLog ++ [goalUpdate])).2 := by
  obtain ⟨projected, inScope⟩ := terminal_irreversible_iff failedLog [goalUpdate] "run-a"
  constructor
  · refine (projected (by decide +kernel)).mpr fun reopened => ?_
    obtain ⟨_, fact, member, blocks⟩ := Since.exists_mem reopened.lastBlocked
    have unblocked : ∀ fact ∈ history [goalUpdate] "run-a", ¬fact.blocksGoal := by decide +kernel
    exact unblocked fact member blocks
  · refine (inScope (by decide +kernel)).mpr ⟨by decide +kernel, fun reopened => ?_⟩
    obtain ⟨_, fact, member, blocks⟩ := Since.exists_mem reopened.lastBlocked
    have unblocked : ∀ fact ∈ scopedHistory (failedLog ++ [goalUpdate]) "run-a",
        ¬fact.blocksGoal := by decide +kernel
    exact unblocked fact member blocks

/-- The goal of the failed run is reported as blocked and then set active. -/
theorem failed_run_reopened :
    let later := [runFact "run.goal.blocked" "blocked-a" "run-a" [], goalUpdate]
    TerminalForGood failedLog "run-a" ∧ ¬Terminal (failedLog ++ later) "run-a" ∧
      ScopedForGood failedLog "run-a" ∧
      "run-a" ∉ (foldTerminalRunScope (failedLog ++ later)).2 := by
  decide +kernel

end ZaofuFormal.Admission
