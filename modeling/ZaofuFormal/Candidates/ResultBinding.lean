import ZaofuFormal.Foundation.Latest
import ZaofuFormal.Foundation.Lineages
import ZaofuFormal.Goals.Waivers
import ZaofuFormal.Workflow.RunViews

/-!
# Binding task results to a candidate

A candidate names its base, and the bases of its bases are its lineage.  The tasks that the
lineage lists are bound to the commits that their task refs had when the newest candidate of
the head became ready, and the applied task refs of the lineage add the commits they replayed.
-/

namespace ZaofuFormal.Candidates

open Foundation Workflow
open Goals (iterated)
open Latest (latest)
open Lineages (Child lineage)

/-- The run that an event belongs to is the given one, if one is given. -/
def ofRun (aliases : Dict String String) (run : String) (event : ZfEvent) : Bool :=
  run == "" || eventRunId aliases event == run

/-- The head of a candidate of the run. -/
def readyHead (aliases : Dict String String) (run : String) (event : ZfEvent) : Option String :=
  if event.type ≠ "candidate.ready" ∨ event.payload.isObject = false then none
  else if ofRun aliases run event = false then none
  else
    let head := strippedAt event.payload "candidate_head_commit"
    if head = "" then none else some head

/-- `str(event.task_id or body.get("task_id") or "").strip()`. -/
def boundTaskId (event : ZfEvent) : String :=
  PyString.strip (firstText [event.taskId.getD "", event.body.textAt "task_id"])

/-- The task whose ref an event of the run moves to a commit. -/
def updatedTask (aliases : Dict String String) (run : String) (completed : List String)
    (event : ZfEvent) : Option String :=
  if event.type ≠ "task.ref.updated" ∨ event.payload.isObject = false then none
  else if boundTaskId event ∉ completed then none
  else if ofRun aliases run event = false then none
  else if strippedAt event.payload "source_commit" = "" then none
  else some (boundTaskId event)

/-- What the first pass keeps of a candidate: its base, its tasks and its place in the log. -/
structure Ready where
  base : String
  taskIds : List String
  index : Nat

/-- A candidate of the log; a list of tasks that cannot be iterated raises. -/
def readyOf (entry : ZfEvent × Nat) : Option Ready :=
  (iterated (entry.1.payload.get "completed_task_ids")).map fun items =>
    { base := strippedAt entry.1.payload "candidate_base_commit"
      taskIds := (items.map fun item => PyString.strip item.pyStr).filter fun text => text ≠ ""
      index := entry.2 }

/-- `candidate_base_by_head`, read from the back; a head keeps what it has. -/
def readyTable (aliases : Dict String String) (run : String) (log : Log) :
    Option (Dict String Ready) :=
  log.zipIdx.reverse.foldlM
    (Latest.fill (fun entry => readyHead aliases run entry.1) readyOf) Dict.empty

/-- The base of a head in the table. -/
def baseOf (table : Dict String Ready) (head : String) : Option String :=
  (table.get? head).bind fun ready => if ready.base = "" then none else some ready.base

/-- The heads that the walk from a head visits. -/
def visitedHeads (table : Dict String Ready) (head : String) : List String :=
  if head = "" then [] else lineage (baseOf table) (table.keys.length + 1) [] head

def completedTaskIds (table : Dict String Ready) (head : String) : List String :=
  (visitedHeads table head).flatMap fun visited =>
    ((table.get? visited).map Ready.taskIds).getD []

/-- `candidate_task_source_commits`; nothing when it raises. -/
def candidateTaskSourceCommits (log : Log) (workflowRunId candidateHeadCommit : String) :
    Option (Dict String String) :=
  let aliases := runAliases log
  let run := resolveRunId log workflowRunId
  (readyTable aliases run log).map fun table =>
    let completed := completedTaskIds table candidateHeadCommit
    match table.get? candidateHeadCommit with
    | none => Dict.empty
    | some ready =>
        if completed = [] then Dict.empty
        else
          (log.take (ready.index + 1)).foldl
            (Latest.record (updatedTask aliases run completed)
              fun event => strippedAt event.payload "source_commit") Dict.empty

/-- An applied task ref that left the candidate at the given head. -/
def appliedAs (head : String) (event : ZfEvent) : Bool :=
  event.type == "candidate.task_ref.applied" && event.payload.isObject &&
    strippedAt event.payload "commit" == head

/-- The event belongs to the integration of the final one. -/
def sameIntegration (final event : ZfEvent) : Bool :=
  let integration := PyString.strip (final.causationId.getD "")
  if integration ≠ "" then event.causationId == some integration else event.id == final.id

def appliedCommits (event : ZfEvent) : List String :=
  let values := ["source_commit", "task_commits", "applied_commits"].flatMap fun key =>
    match event.body.get key with
    | .arr items => items
    | value => [value]
  (values.map fun value => PyString.strip value.text).filter fun text => text ≠ ""

/-- Add the commits of one event; repetitions in the list of a task do not matter. -/
def noteApplied (final : ZfEvent) (integrated : Dict String (List String)) (event : ZfEvent) :
    Dict String (List String) :=
  if event.type ≠ "candidate.task_ref.applied" ∨ sameIntegration final event = false then integrated
  else if boundTaskId event = "" then integrated
  else
    integrated.insert (boundTaskId event)
      ((integrated.get? (boundTaskId event)).getD [] ++ appliedCommits event)

/-- Add what the integration of one head of the lineage applied. -/
def noteHead (log : Log) (indexes : Dict String Nat) (integrated : Dict String (List String))
    (head : String) : Dict String (List String) :=
  match indexes.get? head with
  | none => integrated
  | some index =>
      let events := log.take (index + 1)
      match events.reverse.find? (appliedAs head) with
      | none => integrated
      | some final => events.foldl (noteApplied final) integrated

/-- `candidate_task_integrated_commits`; nothing when it raises. -/
def candidateTaskIntegratedCommits (log : Log) (workflowRunId candidateHeadCommit : String) :
    Option (Dict String (List String)) :=
  (candidateTaskSourceCommits log workflowRunId candidateHeadCommit).map fun commits =>
    let ready := readyHead (runAliases log) (resolveRunId log workflowRunId)
    let bases := log.foldl (Latest.record ready fun event =>
      strippedAt event.payload "candidate_base_commit") Dict.empty
    let indexes := log.zipIdx.foldl
      (Latest.record (fun entry => ready entry.1) Prod.snd) Dict.empty
    let heads := if candidateHeadCommit = "" then [] else
      lineage (fun head => (bases.get? head).filter fun base => base ≠ "")
        (bases.keys.length + 1) [] candidateHeadCommit
    heads.foldl (noteHead log indexes) (commits.mapValues fun commit => [commit])

/-- The commits of a task. -/
def commitsOf (integrated : Dict String (List String)) (task : String) : List String :=
  (integrated.get? task).getD []

/-- The newest candidate of the run with the given head stands after the given events. -/
def NewestAt (log : Log) (run head : String) (before : Log) (ready : ZfEvent) : Prop :=
  ∃ after, log = before ++ ready :: after ∧ readyHead (runAliases log) run ready = some head ∧
    ∀ later ∈ after, readyHead (runAliases log) run later ≠ some head

/-- The newest candidate of a head rests on the other head. -/
def RestsOn (log : Log) (run head other : String) : Prop :=
  ∃ before ready, NewestAt log run head before ready ∧
    strippedAt ready.payload "candidate_base_commit" = other ∧ other ≠ ""

/-- A candidate lists a task as completed. -/
def Lists (ready : ZfEvent) (task : String) : Prop :=
  ∃ items, iterated (ready.payload.get "completed_task_ids") = some items ∧
    ∃ item ∈ items, PyString.strip item.pyStr = task ∧ task ≠ ""

/-- A candidate in the lineage of the head lists the task. -/
def Inherits (log : Log) (run head task : String) : Prop :=
  ∃ ancestor before ready, Relation.ReflTransGen (RestsOn log run) head ancestor ∧
    NewestAt log run ancestor before ready ∧ Lists ready task

/-- The ref of a task moves to a commit. -/
def Moves (log : Log) (run task : String) (event : ZfEvent) : Prop :=
  event.type = "task.ref.updated" ∧ event.payload.isObject = true ∧ boundTaskId event = task ∧
    ofRun (runAliases log) run event = true ∧ strippedAt event.payload "source_commit" ≠ ""

instance (log : Log) (run task : String) (event : ZfEvent) : Decidable (Moves log run task event) :=
  inferInstanceAs (Decidable (_ ∧ _))

/-- The last of the given events that moves the ref of the task moves it to the commit. -/
def LastMove (log : Log) (run task : String) (events : Log) (commit : String) : Prop :=
  ∃ earlier move later, events = earlier ++ move :: later ∧ Moves log run task move ∧
    strippedAt move.payload "source_commit" = commit ∧ ∀ event ∈ later, ¬ Moves log run task event

theorem readyHead_eq_some {aliases : Dict String String} {run head : String} {event : ZfEvent}
    (ready : readyHead aliases run event = some head) :
    event.type = "candidate.ready" ∧ head ≠ "" := by
  unfold readyHead at ready
  dsimp only at ready
  split at ready
  · cases ready
  · rename_i typed
    split at ready
    · cases ready
    · split at ready
      · cases ready
      · rename_i filled
        cases ready
        exact ⟨Decidable.not_not.mp fun other => typed (.inl other), filled⟩

theorem newestAt_iff {log : Log} {run head : String} {before : Log} {ready : ZfEvent} :
    NewestAt log run head before ready ↔ before <+: log ∧
      latest (fun entry => readyHead (runAliases log) run entry.1) head log.zipIdx =
        some (ready, before.length) := by
  rw [Latest.latest_zipIdx_iff]
  constructor
  · rintro ⟨after, split, keyed, none⟩
    exact ⟨split ▸ List.prefix_append _ _, before, after, split, rfl, keyed, none⟩
  · rintro ⟨part, front, after, split, places, keyed, none⟩
    have same : before = front := by
      have first := List.prefix_iff_eq_take.mp part
      have second := List.prefix_iff_eq_take.mp (split ▸ List.prefix_append front (ready :: after))
      rw [first, second, places]
    exact ⟨after, same ▸ split, keyed, none⟩

theorem NewestAt.unique {log : Log} {run head : String} {before other : Log}
    {ready second : ZfEvent} (newest : NewestAt log run head before ready)
    (again : NewestAt log run head other second) : before = other ∧ ready = second := by
  obtain ⟨part, found⟩ := newestAt_iff.mp newest
  obtain ⟨otherPart, otherFound⟩ := newestAt_iff.mp again
  obtain ⟨same, places⟩ := Prod.ext_iff.mp (Option.some.inj (found.symm.trans otherFound))
  refine ⟨?_, same⟩
  rw [List.prefix_iff_eq_take.mp part, List.prefix_iff_eq_take.mp otherPart]
  exact congrArg (fun place => log.take place) places

section Table

variable {log : Log} {run : String} {table : Dict String Ready}

/-- An entry of the table is the newest candidate of its head. -/
theorem get?_readyTable_iff (read : readyTable (runAliases log) run log = some table)
    {head : String} {ready : Ready} :
    table.get? head = some ready ↔ ∃ before event, NewestAt log run head before event ∧
      readyOf (event, before.length) = some ready := by
  rw [Latest.get?_foldlM_fill read, Dict.get?_empty, Option.none_or, Option.bind_eq_some_iff]
  constructor
  · rintro ⟨⟨event, place⟩, found, value⟩
    obtain ⟨before, after, split, rfl, keyed, none⟩ := Latest.latest_zipIdx_iff.mp found
    exact ⟨before, event, ⟨after, split, keyed, none⟩, value⟩
  · rintro ⟨before, event, newest, value⟩
    exact ⟨_, (newestAt_iff.mp newest).2, value⟩

/-- The newest candidate of a head has an entry. -/
theorem exists_get?_readyTable (read : readyTable (runAliases log) run log = some table)
    {head : String} {before : Log} {event : ZfEvent} (newest : NewestAt log run head before event) :
    ∃ ready, table.get? head = some ready ∧ readyOf (event, before.length) = some ready := by
  obtain ⟨ready, value⟩ := Latest.readable_of_fill read (Dict.get?_empty head)
    (newestAt_iff.mp newest).2
  exact ⟨ready, (get?_readyTable_iff read).mpr ⟨before, event, newest, value⟩, value⟩

theorem base_readyOf {entry : ZfEvent × Nat} {ready : Ready} (value : readyOf entry = some ready) :
    ready.base = strippedAt entry.1.payload "candidate_base_commit" := by
  obtain ⟨_, _, rfl⟩ := Option.map_eq_some_iff.mp value
  rfl

theorem mem_taskIds_readyOf_iff {entry : ZfEvent × Nat} {ready : Ready}
    (value : readyOf entry = some ready) (task : String) :
    task ∈ ready.taskIds ↔ Lists entry.1 task := by
  obtain ⟨items, listed, rfl⟩ := Option.map_eq_some_iff.mp value
  rw [List.mem_filter, List.mem_map]
  constructor
  · rintro ⟨⟨item, member, same⟩, filled⟩
    exact ⟨items, listed, item, member, same, of_decide_eq_true filled⟩
  · rintro ⟨others, found, item, member, same, filled⟩
    cases Option.some.inj (found.symm.trans listed)
    exact ⟨⟨item, member, same⟩, decide_eq_true filled⟩

theorem child_baseOf_iff (read : readyTable (runAliases log) run log = some table)
    (head other : String) : Child (baseOf table) head other ↔ RestsOn log run head other := by
  rw [Child, baseOf, Option.bind_eq_some_iff]
  constructor
  · rintro ⟨ready, found, rests⟩
    obtain ⟨before, event, newest, value⟩ := (get?_readyTable_iff read).mp found
    split at rests
    · cases rests
    · rename_i filled
      cases rests
      exact ⟨before, event, newest, (base_readyOf value).symm, filled⟩
  · rintro ⟨before, event, newest, same, filled⟩
    obtain ⟨ready, found, value⟩ := exists_get?_readyTable read newest
    have base : ready.base = other := (base_readyOf value).trans same
    exact ⟨ready, found, by rw [base, if_neg filled]⟩

theorem mem_visitedHeads_iff (read : readyTable (runAliases log) run log = some table)
    {head : String} (filled : head ≠ "") (visited : String) :
    visited ∈ visitedHeads table head ↔
      Relation.ReflTransGen (RestsOn log run) head visited := by
  have cover : ∀ node other, baseOf table node = some other → node ∈ table.keys := by
    intro node other step
    obtain ⟨ready, found, _⟩ := Option.bind_eq_some_iff.mp step
    exact (Dict.contains_iff_mem_keys _ _).mp (Option.isSome_iff_exists.mpr ⟨ready, found⟩)
  have same : Child (baseOf table) = RestsOn log run :=
    funext fun node => funext fun other => propext (child_baseOf_iff read node other)
  rw [visitedHeads, if_neg filled, Lineages.mem_lineage_iff cover (Nat.lt_succ_self _), same]

theorem mem_completedTaskIds_iff (read : readyTable (runAliases log) run log = some table)
    (head task : String) :
    task ∈ completedTaskIds table head ↔ Inherits log run head task := by
  rw [completedTaskIds, List.mem_flatMap]
  constructor
  · rintro ⟨visited, reached, member⟩
    have filled : head ≠ "" := by
      rintro rfl
      rw [visitedHeads, if_pos rfl] at reached
      exact List.not_mem_nil reached
    cases found : table.get? visited with
    | none =>
        rw [found] at member
        exact absurd member List.not_mem_nil
    | some ready =>
        rw [found] at member
        obtain ⟨before, event, newest, value⟩ := (get?_readyTable_iff read).mp found
        exact ⟨visited, before, event, (mem_visitedHeads_iff read filled visited).mp reached,
          newest, (mem_taskIds_readyOf_iff value task).mp member⟩
  · rintro ⟨ancestor, before, event, reached, newest, listed⟩
    have filled : head ≠ "" := by
      rcases reached.cases_head with rfl | ⟨next, ⟨_, _, first, _⟩, _⟩
      · exact (readyHead_eq_some newest.choose_spec.2.1).2
      · exact (readyHead_eq_some first.choose_spec.2.1).2
    obtain ⟨ready, found, value⟩ := exists_get?_readyTable read newest
    refine ⟨ancestor, (mem_visitedHeads_iff read filled ancestor).mpr reached, ?_⟩
    rw [found]
    exact (mem_taskIds_readyOf_iff value task).mpr listed

end Table

variable {task : String}

theorem updatedTask_eq_some_iff {log : Log} {run : String} {completed : List String}
    {event : ZfEvent} :
    updatedTask (runAliases log) run completed event = some task ↔
      Moves log run task event ∧ task ∈ completed := by
  unfold updatedTask Moves
  grind

theorem lastMove_iff {log : Log} {run commit : String} {completed : List String}
    (inside : task ∈ completed) (events : Log) :
    LastMove log run task events commit ↔
      (latest (updatedTask (runAliases log) run completed) task events).map
        (fun event => strippedAt event.payload "source_commit") = some commit := by
  have keyed : ∀ event, updatedTask (runAliases log) run completed event = some task ↔
      Moves log run task event := fun event =>
    updatedTask_eq_some_iff.trans (and_iff_left inside)
  rw [Option.map_eq_some_iff]
  constructor
  · rintro ⟨earlier, move, later, split, moves, same, none⟩
    exact ⟨move, Latest.latest_eq_some_iff.mpr ⟨earlier, later, split, (keyed move).mpr moves,
      fun event member again => none event member ((keyed event).mp again)⟩, same⟩
  · rintro ⟨move, found, same⟩
    obtain ⟨earlier, later, split, moves, none⟩ := Latest.latest_eq_some_iff.mp found
    exact ⟨earlier, move, later, split, (keyed move).mp moves, same,
      fun event member again => none event member ((keyed event).mpr again)⟩

/-- A list without moves behind leaves the last move as it is. -/
theorem lastMove_append_iff {log : Log} {run commit : String} (first second : Log) :
    LastMove log run task (first ++ second) commit ↔
      LastMove log run task second commit ∨
        (∀ event ∈ second, ¬ Moves log run task event) ∧ LastMove log run task first commit := by
  have inside : task ∈ [task] := List.mem_singleton_self task
  rw [lastMove_iff inside, lastMove_iff inside, lastMove_iff inside, Latest.latest_append]
  cases found : latest (updatedTask (runAliases log) run [task]) task second with
  | none =>
      have none : ∀ event ∈ second, ¬ Moves log run task event := fun event member moves =>
        Latest.latest_eq_none_iff.mp found event member
          (updatedTask_eq_some_iff.mpr ⟨moves, inside⟩)
      rw [Option.none_or, Option.map_none]
      constructor
      · exact fun last => .inr ⟨none, last⟩
      · rintro (impossible | ⟨_, last⟩)
        · cases impossible
        · exact last
  | some move =>
      have moves := (updatedTask_eq_some_iff.mp (Latest.key_latest found)).1
      have some : ¬ ∀ event ∈ second, ¬ Moves log run task event := fun none =>
        none move (Latest.mem_of_latest found) moves
      simp [some]

/-- A task is bound to a commit if and only if the lineage of the head lists it and its ref was
last moved to the commit before the newest candidate of the head. -/
theorem bound_commit_iff {log : Log} {workflowRunId head : String} {commits : Dict String String}
    (bound : candidateTaskSourceCommits log workflowRunId head = some commits)
    (task commit : String) :
    commits.get? task = some commit ↔ ∃ before ready,
      NewestAt log (resolveRunId log workflowRunId) head before ready ∧
        Inherits log (resolveRunId log workflowRunId) head task ∧
        LastMove log (resolveRunId log workflowRunId) task before commit := by
  obtain ⟨table, read, result⟩ := Option.map_eq_some_iff.mp bound
  generalize resolveRunId log workflowRunId = run at *
  have listed := mem_completedTaskIds_iff read head task
  cases found : table.get? head with
  | none =>
      rw [found] at result
      cases result
      constructor
      · intro impossible
        cases impossible
      · rintro ⟨before, ready, newest, _⟩
        obtain ⟨_, entry, _⟩ := exists_get?_readyTable read newest
        rw [found] at entry
        cases entry
  | some entry =>
      rw [found] at result
      dsimp only at result
      obtain ⟨before, ready, newest, value⟩ := (get?_readyTable_iff read).mp found
      have place : entry.index = before.length := by
        obtain ⟨_, _, rfl⟩ := Option.map_eq_some_iff.mp value
        rfl
      have taken : log.take (entry.index + 1) = before ++ [ready] := by
        obtain ⟨after, split, _⟩ := newest
        rw [place, split, ← List.singleton_append, ← List.append_assoc]
        exact List.take_left' (by simp)
      have still : ∀ event ∈ [ready], ¬ Moves log run task event := by
        intro event member moves
        rw [List.mem_singleton.mp member] at moves
        have typed := (readyHead_eq_some newest.choose_spec.2.1).1
        exact absurd (typed.symm.trans moves.1) (by decide)
      have whole : LastMove log run task (before ++ [ready]) commit ↔
          LastMove log run task before commit := by
        rw [lastMove_append_iff]
        constructor
        · rintro (⟨earlier, move, later, split, moves, _⟩ | ⟨_, last⟩)
          · exact absurd moves (still move (split ▸ List.mem_append_right _ List.mem_cons_self))
          · exact last
        · exact fun last => .inr ⟨still, last⟩
      have unique : (∃ other second, NewestAt log run head other second ∧
          Inherits log run head task ∧ LastMove log run task other commit) ↔
            Inherits log run head task ∧ LastMove log run task before commit := by
        constructor
        · rintro ⟨other, second, again, inherits, last⟩
          obtain ⟨rfl, _⟩ := newest.unique again
          exact ⟨inherits, last⟩
        · exact fun both => ⟨before, ready, newest, both⟩
      rw [unique, ← listed]
      split at result
      · rename_i none
        cases result
        rw [none]
        constructor
        · intro impossible
          cases impossible
        · exact fun both => absurd both.1 List.not_mem_nil
      · rw [taken] at result
        rw [← result, Latest.get?_foldl_record]
        by_cases inside : task ∈ completedTaskIds table head
        · rw [← lastMove_iff inside, whole]
          exact (and_iff_right inside).symm
        · have outside :
              latest (updatedTask (runAliases log) run (completedTaskIds table head)) task
                (before ++ [ready]) = none := Latest.latest_eq_none_iff.mpr fun event _ keyed =>
            inside (updatedTask_eq_some_iff.mp keyed).2
          rw [outside]
          simp [inside]

/-- A run in which the second candidate inherits a task from the first. -/
def inheritingLog : Log :=
  [{ type := "run.started", id := "e-0", ts := "", payload := .obj [("run_id", .str "run-1")] },
    { type := "task.ref.updated", id := "e-1", ts := "", taskId := some "T-1",
      payload := .obj [("run_id", .str "run-1"), ("source_commit", .str "commit-1")] },
    { type := "candidate.ready", id := "e-2", ts := "",
      payload := .obj [("run_id", .str "run-1"), ("candidate_base_commit", .str "main"),
        ("candidate_head_commit", .str "head-1"), ("completed_task_ids", .arr [.str "T-1"])] },
    { type := "task.ref.updated", id := "e-3", ts := "", taskId := some "T-1",
      payload := .obj [("run_id", .str "run-1"), ("source_commit", .str "commit-2")] },
    { type := "candidate.ready", id := "e-4", ts := "",
      payload := .obj [("run_id", .str "run-1"), ("candidate_base_commit", .str "head-1"),
        ("candidate_head_commit", .str "head-2"), ("completed_task_ids", .arr [.str "T-2"])] }]

theorem bound_commit_inheriting : ∃ before ready,
    NewestAt inheritingLog "run-1" "head-2" before ready ∧
      Inherits inheritingLog "run-1" "head-2" "T-1" ∧
      LastMove inheritingLog "run-1" "T-1" before "commit-2" :=
  have resolved : resolveRunId inheritingLog "run-1" = "run-1" := by decide +kernel
  have bound : candidateTaskSourceCommits inheritingLog "run-1" "head-2" =
      some (Dict.ofEntries [("T-1", "commit-2")]) := by decide +kernel
  resolved ▸ (bound_commit_iff bound "T-1" "commit-2").mp (by decide +kernel)

theorem LastMove.unique {log : Log} {run commit other : String} {events : Log}
    (last : LastMove log run task events commit) (again : LastMove log run task events other) :
    commit = other :=
  have inside : task ∈ [task] := List.mem_singleton_self task
  Option.some.inj (((lastMove_iff inside events).mp last).symm.trans
    ((lastMove_iff inside events).mp again))

theorem exists_lastMove {log : Log} {run : String} {events : Log} {event : ZfEvent}
    (member : event ∈ events) (moves : Moves log run task event) :
    ∃ commit, LastMove log run task events commit := by
  have inside : task ∈ [task] := List.mem_singleton_self task
  cases found : latest (updatedTask (runAliases log) run [task]) task events with
  | none =>
      exact absurd (updatedTask_eq_some_iff.mpr ⟨moves, inside⟩)
        (Latest.latest_eq_none_iff.mp found event member)
  | some move =>
      exact ⟨_, (lastMove_iff inside events).mpr (by rw [found, Option.map_some])⟩

/-- A task that an earlier candidate integrated at a commit stays bound to that commit if and
only if its ref was not left at another one before the newest candidate of the head. -/
theorem inherited_commit_iff {log : Log} {workflowRunId head : String}
    {commits : Dict String String}
    (bound : candidateTaskSourceCommits log workflowRunId head = some commits)
    {task commit : String} {first between : Log} {earlier ready : ZfEvent}
    (newest :
      NewestAt log (resolveRunId log workflowRunId) head (first ++ earlier :: between) ready)
    (inherits : Inherits log (resolveRunId log workflowRunId) head task)
    (candidate : earlier.type = "candidate.ready")
    (integrated : LastMove log (resolveRunId log workflowRunId) task first commit) :
    commits.get? task = some commit ↔
      ∀ other, LastMove log (resolveRunId log workflowRunId) task between other →
        other = commit := by
  rw [bound_commit_iff bound]
  generalize resolveRunId log workflowRunId = run at *
  have settled : LastMove log run task (first ++ [earlier]) commit := by
    refine (lastMove_append_iff first [earlier]).mpr
      (.inr ⟨fun event member moves => ?_, integrated⟩)
    rw [List.mem_singleton.mp member] at moves
    exact absurd (candidate.symm.trans moves.1) (by decide)
  have split : first ++ earlier :: between = (first ++ [earlier]) ++ between := by simp
  rw [split] at newest
  have whole : (∃ before second, NewestAt log run head before second ∧
      Inherits log run head task ∧ LastMove log run task before commit) ↔
        LastMove log run task ((first ++ [earlier]) ++ between) commit := by
    constructor
    · rintro ⟨before, second, again, _, last⟩
      obtain ⟨rfl, _⟩ := newest.unique again
      exact last
    · exact fun last => ⟨_, ready, newest, inherits, last⟩
  rw [whole, lastMove_append_iff]
  constructor
  · rintro (last | ⟨none, _⟩) other again
    · exact again.unique last
    · obtain ⟨_, move, _, place, moves, _⟩ := again
      exact absurd moves (none move (place ▸ List.mem_append_right _ List.mem_cons_self))
  · intro steady
    by_cases moved : ∃ event ∈ between, Moves log run task event
    · obtain ⟨event, member, moves⟩ := moved
      obtain ⟨other, last⟩ := exists_lastMove member moves
      exact .inl (steady other last ▸ last)
    · exact .inr ⟨fun event member moves => moved ⟨event, member, moves⟩, settled⟩

theorem inherited_commit_moved :
    (Dict.ofEntries [("T-1", "commit-2")]).get? "T-1" = some "commit-1" ↔
      ∀ other, LastMove inheritingLog "run-1" "T-1" [inheritingLog[3]] other → other = "commit-1" :=
  have resolved : resolveRunId inheritingLog "run-1" = "run-1" := by decide +kernel
  have bound : candidateTaskSourceCommits inheritingLog "run-1" "head-2" =
      some (Dict.ofEntries [("T-1", "commit-2")]) := by decide +kernel
  resolved ▸ @inherited_commit_iff inheritingLog "run-1" "head-2" _ bound "T-1" "commit-1"
    (inheritingLog.take 2) [inheritingLog[3]] inheritingLog[2] inheritingLog[4]
    ⟨[], rfl, by decide +kernel, by simp⟩
    (resolved.symm ▸ ⟨"head-1", inheritingLog.take 2, inheritingLog[2],
      .single ⟨inheritingLog.take 4, inheritingLog[4], ⟨[], rfl, by decide +kernel, by simp⟩,
        by decide +kernel, by decide⟩,
      ⟨inheritingLog.drop 3, rfl, by decide +kernel, by decide +kernel⟩,
      [.str "T-1"], by decide +kernel, .str "T-1", by simp, by decide +kernel, by decide⟩)
    (by decide +kernel)
    ⟨[inheritingLog[0]], inheritingLog[1], [], rfl, by decide +kernel, by decide +kernel, by simp⟩

end ZaofuFormal.Candidates
