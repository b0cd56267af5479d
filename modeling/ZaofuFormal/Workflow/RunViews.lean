import ZaofuFormal.Workflow.RunNamespaces

/-!
# Run views

A view keeps the events of one run.  An event that names no known run belongs to a view only
while the log knows a single run.
-/

namespace ZaofuFormal.Workflow

open Foundation

def knownRunIds (log : Log) : List String := (runAliases log).values.eraseDups

/-- The canonical id of a run, or the empty text. -/
def resolveRunId (log : Log) (value : String) : String :=
  let candidate := PyString.strip value
  if candidate = "" then "" else ((runAliases log).get? candidate).getD ""

/-- `events_for_run` with its default reading of events that name no run. -/
def eventsForRun (log : Log) (runId : String) : Log :=
  let aliases := runAliases log
  let canonical := (aliases.get? (PyString.strip runId)).getD ""
  if canonical = "" then []
  else
    let singleton := (knownRunIds log).length == 1
    log.filter fun event =>
      eventRunId aliases event == canonical || (eventRunId aliases event == "" && singleton)

theorem eventRunId_of_run_id {aliases : Dict String String} {event : ZfEvent} {root : String}
    (named : aliases.get? (strippedAt event.body "run_id") = some root) (filled : root ≠ "") :
    eventRunId aliases event = root := by
  rw [eventRunId, List.map_cons, named, Option.getD_some, firstText_cons filled]

/-- What a view of an established run holds. -/
theorem mem_eventsForRun_iff {log : Log} {root : String} (anchored : Anchored log root)
    (event : ZfEvent) :
    event ∈ eventsForRun log root ↔ event ∈ log ∧
      (eventRunId (runAliases log) event = root ∨
        eventRunId (runAliases log) event = "" ∧ (knownRunIds log).length = 1) := by
  obtain ⟨_, _, _, same, filled⟩ := anchored
  have stripped : PyString.strip root = root := by
    rw [← same, anchorId, PyString.strip_strip]
  unfold eventsForRun
  dsimp only
  rw [stripped, runAliases_anchored ⟨_, ‹_›, ‹_›, same, filled⟩, Option.getD_some, if_neg filled,
    List.mem_filter]
  simp

/-- Two established runs share no event, and an event is in the view of the run it names
first. -/
theorem run_views_apart (log : Log) {root other : String} (anchored : Anchored log root)
    (second : Anchored log other) (different : root ≠ other) :
    (∀ event ∈ eventsForRun log root, event ∉ eventsForRun log other) ∧
      ∀ event ∈ log, strippedAt event.body "run_id" = root → event ∈ eventsForRun log root := by
  have known : ∀ run, Anchored log run → run ∈ knownRunIds log := by
    intro run established
    exact List.mem_eraseDups.mpr
      ((Dict.mem_values_iff _ _).mpr ⟨run, runAliases_anchored established⟩)
  refine ⟨fun event member again => ?_, fun event member named => ?_⟩
  · obtain ⟨_, first⟩ := (mem_eventsForRun_iff anchored event).mp member
    obtain ⟨_, later⟩ := (mem_eventsForRun_iff second event).mp again
    have several : (knownRunIds log).length ≠ 1 := by
      intro single
      obtain ⟨only, same⟩ := List.length_eq_one_iff.mp single
      have rootIs := known root anchored
      have otherIs := known other second
      rw [same, List.mem_singleton] at rootIs otherIs
      exact different (rootIs.trans otherIs.symm)
    rcases first with isRoot | ⟨_, single⟩
    · rcases later with isOther | ⟨_, single⟩
      · exact different (isRoot.symm.trans isOther)
      · exact several single
    · exact several single
  · refine (mem_eventsForRun_iff anchored event).mpr ⟨member, .inl ?_⟩
    obtain ⟨_, _, _, _, filled⟩ := id anchored
    have leads := runAliases_anchored anchored
    rw [← named] at leads
    exact eventRunId_of_run_id (leads.trans (congrArg some named)) filled

def eventOf (type id run : String) : ZfEvent :=
  { type := type, id := id, ts := "", payload := .obj [("run_id", .str run)] }

/-- Two runs, and an event of the second one. -/
def pairedLog : Log :=
  [eventOf "run.started" "e-1" "run-1", eventOf "run.started" "e-2" "run-2",
    eventOf "task.dispatched" "e-3" "run-2"]

theorem run_views_paired : (∀ event ∈ eventsForRun pairedLog "run-2",
      event ∉ eventsForRun pairedLog "run-1") ∧
    ∀ event ∈ pairedLog, strippedAt event.body "run_id" = "run-2" →
      event ∈ eventsForRun pairedLog "run-2" :=
  run_views_apart pairedLog ⟨pairedLog[1], by decide, by decide, by decide +kernel, by decide⟩
    ⟨pairedLog[0], by decide, by decide, by decide +kernel, by decide⟩ (by decide)

end ZaofuFormal.Workflow
