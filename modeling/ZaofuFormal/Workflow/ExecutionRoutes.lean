import ZaofuFormal.Foundation.Json
import ZaofuFormal.Foundation.Runs
import ZaofuFormal.Foundation.Sorting

/-!
# Task-scoped execution routes

The store keeps one record for each task: the route it was switched to last,
for which run, and how often and to which routes it was switched in that run.
A switch for another run starts the record anew.  What the cap and the list of
used routes bound are therefore the switches of a task for one run as long as
no switch of the task for another run comes in between.
-/

namespace ZaofuFormal.Workflow.ExecutionRoutes

open Foundation

structure ProviderSession where
  effort : String
  agent : String
  maxParallelAgents : Option Nat
  deriving DecidableEq

structure Route where
  id : String
  roles : List String := []
  flowKinds : List String := []
  backend : String := ""
  model : String := ""
  modelReasoningEffort : String := ""
  executionProfile : String := ""
  providerSession : Option ProviderSession := none
  automaticTriggers : List String := []
  deriving DecidableEq

/-- `execution_route_payload`. -/
def Route.payload (route : Route) : Route :=
  { route with
    roles := Sorting.sortedSet route.roles
    flowKinds := Sorting.sortedSet route.flowKinds
    automaticTriggers := Sorting.sortedSet route.automaticTriggers }

/-- The record of a task. -/
structure Record where
  taskId : String
  workflowRunId : String
  role : String
  instanceId : String
  dispatchId : String
  routeId : String
  route : Route
  triggerClass : String
  sourceEventId : String
  sourceEventType : String
  sourceEventIds : List String
  checkpointId : String
  actionId : String
  policyDigest : String
  receiptRef : String
  receiptDigest : String
  switchCount : Nat
  usedRouteIds : List String
  activatedAt : String
  deriving DecidableEq

/-- The contents of the state file; a missing file reads as the empty one. -/
structure RouteState where
  revision : Nat
  tasks : Dict String Record

def RouteState.empty : RouteState := ⟨0, Dict.empty⟩

/-- The arguments of one call of `activate`, and the time at which it writes. -/
structure Activation where
  taskId : String
  workflowRunId : String
  role : String
  instanceId : String
  dispatchId : String
  route : Route
  triggerClass : String
  sourceEventId : String
  sourceEventType : String
  sourceEventIds : List String
  checkpointId : String
  actionId : String
  policyDigest : String
  receipt : Json
  activatedAt : String
  deriving DecidableEq

/-- The record of a task when it belongs to the given run. -/
def RouteState.current (state : RouteState) (taskId workflowRunId : String) : Option Record :=
  (state.tasks.get? taskId).filter fun record => record.workflowRunId == workflowRunId

def usedRoutes (existing : Option Record) : List String :=
  ((existing.map Record.usedRouteIds).getD []).filter fun item => !PyString.isBlank item

def switchCount (existing : Option Record) : Nat := (existing.map Record.switchCount).getD 0

def Activation.record (call : Activation) (existing : Option Record) : Record where
  taskId := call.taskId
  workflowRunId := call.workflowRunId
  role := call.role
  instanceId := call.instanceId
  dispatchId := call.dispatchId
  routeId := call.route.id
  route := call.route.payload
  triggerClass := call.triggerClass
  sourceEventId := call.sourceEventId
  sourceEventType := call.sourceEventType
  sourceEventIds := call.sourceEventIds.eraseDups
  checkpointId := call.checkpointId
  actionId := call.actionId
  policyDigest := call.policyDigest
  receiptRef := call.receipt.textAt "ref"
  receiptDigest := call.receipt.textAt "sha256"
  switchCount := switchCount existing + 1
  usedRouteIds := usedRoutes existing ++ [call.route.id]
  activatedAt := call.activatedAt

structure Answer where
  applied : Bool
  record : Record
  deriving DecidableEq

/-- `activate`: the answer or the message of the error, and the state behind it. -/
def activate (maxSwitches : Int) (state : RouteState) (call : Activation) :
    Except String Answer × RouteState :=
  if call.taskId = "" ∨ call.workflowRunId = "" ∨ call.instanceId = "" then
    (.error "route activation requires run/task/instance identity", state)
  else
    let existing := state.current call.taskId call.workflowRunId
    match existing.filter fun record => record.actionId == call.actionId with
    | some record => (.ok ⟨false, record⟩, state)
    | none =>
        if maxSwitches ≤ switchCount existing then
          (.error "execution route switch cap exhausted", state)
        else if call.route.id ∈ usedRoutes existing then
          (.error ("execution route " ++ Json.reprString call.route.id ++
            " was already used by task " ++ Json.reprString call.taskId), state)
        else
          let record := call.record existing
          (.ok ⟨true, record⟩, ⟨state.revision + 1, state.tasks.insert call.taskId record⟩)

/-- The call has switched the route. -/
def applies (result : Except String Answer) : Bool :=
  match result with
  | .ok answer => answer.applied
  | .error _ => false

/-- The state of the store with the calls that have been applied. -/
structure History where
  state : RouteState
  applied : List Activation

def step (maxSwitches : Int) (history : History) (call : Activation) : History where
  state := (activate maxSwitches history.state call).2
  applied :=
    if applies (activate maxSwitches history.state call).1 then history.applied ++ [call]
    else history.applied

def history (maxSwitches : Int) (calls : List Activation) : History :=
  Runs.run (step maxSwitches) ⟨.empty, []⟩ calls

/-- All that a call can do. -/
theorem activate_cases (maxSwitches : Int) (state : RouteState) (call : Activation) :
    (applies (activate maxSwitches state call).1 = false ∧
      (activate maxSwitches state call).2 = state) ∨
    (applies (activate maxSwitches state call).1 = true ∧
      switchCount (state.current call.taskId call.workflowRunId) < maxSwitches ∧
      call.route.id ∉ usedRoutes (state.current call.taskId call.workflowRunId) ∧
      (activate maxSwitches state call).2 = ⟨state.revision + 1, state.tasks.insert call.taskId
        (call.record (state.current call.taskId call.workflowRunId))⟩) := by
  unfold activate
  dsimp only
  split
  · exact .inl ⟨rfl, rfl⟩
  · split
    · exact .inl ⟨rfl, rfl⟩
    · split
      · exact .inl ⟨rfl, rfl⟩
      · rename_i below
        split
        · exact .inl ⟨rfl, rfl⟩
        · rename_i fresh
          exact .inr ⟨rfl, Int.not_le.mp below, fresh, rfl⟩

/-- The calls of one task. -/
def ofTask (task : String) (calls : List Activation) : List Activation :=
  calls.filter fun call => call.taskId == task

/-- The routes of the calls that have a name. -/
def routeIds (calls : List Activation) : List String :=
  (calls.map fun call => call.route.id).filter fun item => !PyString.isBlank item

/-- No call switches the task for another run. -/
def OneRun (task run : String) (calls : List Activation) : Prop :=
  ∀ call ∈ calls, call.taskId = task → call.workflowRunId = run

/-- The record of the task counts the calls and lists their routes. -/
def Counted (state : RouteState) (task run : String) (own : List Activation) : Prop :=
  own = [] ∨ ∃ record, state.current task run = some record ∧
    own.length ≤ record.switchCount ∧ ∀ item ∈ routeIds own, item ∈ record.usedRouteIds

theorem ofTask_concat_of_ne {task : String} (calls : List Activation) {call : Activation}
    (other : call.taskId ≠ task) : ofTask task (calls ++ [call]) = ofTask task calls := by
  rw [ofTask, List.filter_append, List.filter_cons_of_neg (by simpa using other),
    List.filter_nil, List.append_nil, ofTask]

theorem ofTask_concat_self (calls : List Activation) (call : Activation) :
    ofTask call.taskId (calls ++ [call]) = ofTask call.taskId calls ++ [call] := by
  rw [ofTask, List.filter_append, List.filter_cons_of_pos (by simp), List.filter_nil, ofTask]

theorem mem_routeIds_concat {calls : List Activation} {call : Activation} {item : String} :
    item ∈ routeIds (calls ++ [call]) ↔
      item ∈ routeIds calls ∨ (item = call.route.id ∧ PyString.isBlank item = false) := by
  simp only [routeIds, List.map_append, List.filter_append, List.mem_append, List.mem_filter,
    List.map_cons, List.map_nil, List.mem_singleton, Bool.not_eq_true']

theorem current_insert_self (state : RouteState) (call : Activation) (existing : Option Record)
    (revision : Nat) :
    RouteState.current ⟨revision, state.tasks.insert call.taskId (call.record existing)⟩
      call.taskId call.workflowRunId = some (call.record existing) := by
  have own : ((call.record existing).workflowRunId == call.workflowRunId) = true :=
    beq_self_eq_true call.workflowRunId
  rw [RouteState.current, Dict.get?_insert_self, Option.filter_some, if_pos own]

theorem current_insert_of_ne (state : RouteState) {call : Activation} (record : Record)
    (revision : Nat) {task : String} (other : call.taskId ≠ task) (run : String) :
    RouteState.current ⟨revision, state.tasks.insert call.taskId record⟩ task run =
      state.current task run := by
  rw [RouteState.current, Dict.get?_insert_ne _ _ other.symm, RouteState.current]

/-- What the calls counted so far leave in the lists that a further call reads. -/
theorem Counted.existing {state : RouteState} {task run : String} {own : List Activation}
    (counted : Counted state task run own) :
    own.length ≤ switchCount (state.current task run) ∧
      ∀ item ∈ routeIds own, item ∈ usedRoutes (state.current task run) := by
  rcases counted with rfl | ⟨record, current, enough, listed⟩
  · exact ⟨Nat.zero_le _, nofun⟩
  · rw [current]
    refine ⟨enough, fun item member => List.mem_filter.mpr ⟨listed item member, ?_⟩⟩
    exact (List.mem_filter.mp member).2

/-- What the calls made so far keep. -/
structure Tracked (maxSwitches : Int) (history : History) : Prop where
  capped : ∀ task record, history.state.tasks.get? task = some record →
    record.switchCount ≤ maxSwitches.toNat
  counted : ∀ task run before stretch, history.applied = before ++ stretch →
    OneRun task run stretch → Counted history.state task run (ofTask task stretch)
  fresh : ∀ task run before stretch after, history.applied = before ++ stretch ++ after →
    OneRun task run stretch → (routeIds (ofTask task stretch)).Nodup
  bounded : ∀ task run before stretch after, history.applied = before ++ stretch ++ after →
    OneRun task run stretch → (ofTask task stretch).length ≤ maxSwitches.toNat

theorem tracked_start (maxSwitches : Int) : Tracked maxSwitches ⟨.empty, []⟩ := by
  have empty {before stretch after : List Activation}
      (split : [] = before ++ stretch ++ after) : stretch = [] :=
    (List.append_eq_nil_iff.mp (List.append_eq_nil_iff.mp split.symm).1).2
  refine ⟨nofun, ?_, ?_, ?_⟩
  · intro task run before stretch split _
    rw [(List.append_eq_nil_iff.mp split.symm).2]
    exact .inl rfl
  · intro task run before stretch after split _
    rw [empty split]
    exact List.nodup_nil
  · intro task run before stretch after split _
    rw [empty split]
    exact Nat.zero_le _

section Step

variable {maxSwitches : Int} {before : History} {call : Activation}

/-- The record that an applied call writes counts it, for every stretch that ends with it. -/
theorem counted_concat {stretch : List Activation} {task run : String} {revision : Nat}
    (counted : Counted before.state task run (ofTask task stretch))
    (oneRun : OneRun task run (stretch ++ [call])) :
    Counted ⟨revision, before.state.tasks.insert call.taskId
        (call.record (before.state.current call.taskId call.workflowRunId))⟩ task run
      (ofTask task (stretch ++ [call])) := by
  by_cases own : call.taskId = task
  · have sameRun : call.workflowRunId = run :=
      oneRun call (List.mem_append_right _ List.mem_cons_self) own
    subst own sameRun
    obtain ⟨enough, listed⟩ := counted.existing
    refine .inr ⟨_, current_insert_self before.state call _ revision, ?_, ?_⟩
    · rw [ofTask_concat_self, List.length_append]
      exact Nat.succ_le_succ enough
    · intro item member
      rw [ofTask_concat_self, mem_routeIds_concat] at member
      rcases member with earlier | ⟨rfl, -⟩
      · exact List.mem_append_left _ (listed item earlier)
      · exact List.mem_append_right _ List.mem_cons_self
  · rw [ofTask_concat_of_ne stretch own]
    unfold Counted
    rw [current_insert_of_ne before.state _ revision own]
    exact counted

theorem fresh_concat {stretch : List Activation} {task run : String}
    (isNew : call.route.id ∉ usedRoutes (before.state.current call.taskId call.workflowRunId))
    (counted : Counted before.state task run (ofTask task stretch))
    (fresh : (routeIds (ofTask task stretch)).Nodup)
    (oneRun : OneRun task run (stretch ++ [call])) :
    (routeIds (ofTask task (stretch ++ [call]))).Nodup := by
  by_cases own : call.taskId = task
  · have sameRun : call.workflowRunId = run :=
      oneRun call (List.mem_append_right _ List.mem_cons_self) own
    subst own sameRun
    rw [ofTask_concat_self, routeIds, List.map_append, List.filter_append]
    refine List.nodup_append.mpr ⟨fresh, ?_, ?_⟩
    · exact (List.nodup_singleton _).filter _
    · intro item member other last same
      have lastEq := List.mem_singleton.mp (List.mem_of_mem_filter last)
      rw [same, lastEq] at member
      exact isNew (counted.existing.2 _ member)
  · rw [ofTask_concat_of_ne stretch own]
    exact fresh

/-- One call keeps what the calls before it kept. -/
theorem tracked_step (tracked : Tracked maxSwitches before) :
    Tracked maxSwitches (step maxSwitches before call) := by
  rcases activate_cases maxSwitches before.state call with ⟨idle, same⟩ |
    ⟨applied, below, isNew, written⟩
  · have unchanged : step maxSwitches before call = before := by
      rw [step, same, idle]
      rfl
    rw [unchanged]
    exact tracked
  · have log : (step maxSwitches before call).applied = before.applied ++ [call] := by
      rw [step, applied]
      rfl
    have state : (step maxSwitches before call).state = _ := written
    have capped : ∀ task record, (step maxSwitches before call).state.tasks.get? task =
        some record → record.switchCount ≤ maxSwitches.toNat := by
      intro task record found
      rw [state, Dict.get?_insert] at found
      split at found
      · rw [← Option.some.inj found]
        exact (Int.le_toNat (by omega)).mpr (Int.add_one_le_of_lt below)
      · exact tracked.capped task record found
    have counted : ∀ task run earlier stretch,
        (step maxSwitches before call).applied = earlier ++ stretch → OneRun task run stretch →
          Counted (step maxSwitches before call).state task run (ofTask task stretch) := by
      intro task run earlier stretch split oneRun
      rcases stretch.eq_nil_or_concat' with rfl | ⟨initial, last, rfl⟩
      · exact .inl rfl
      · rw [log, ← List.append_assoc] at split
        obtain ⟨front, ending⟩ := List.append_inj' split rfl
        cases ending
        rw [state]
        exact counted_concat (tracked.counted task run earlier initial front fun other member =>
          oneRun other (List.mem_append_left _ member)) oneRun
    refine ⟨capped, counted, ?_, ?_⟩
    · intro task run earlier stretch after split oneRun
      rw [log] at split
      rcases after.eq_nil_or_concat' with rfl | ⟨others, last, rfl⟩
      · rcases stretch.eq_nil_or_concat' with rfl | ⟨initial, last, rfl⟩
        · exact List.nodup_nil
        · rw [List.append_nil, ← List.append_assoc] at split
          obtain ⟨front, ending⟩ := List.append_inj' split rfl
          cases ending
          have shorter : OneRun task run initial := fun other member =>
            oneRun other (List.mem_append_left _ member)
          refine fresh_concat isNew (tracked.counted task run earlier initial front shorter) ?_
            oneRun
          exact tracked.fresh task run earlier initial [] (by rw [front, List.append_nil]) shorter
      · rw [← List.append_assoc] at split
        obtain ⟨front, -⟩ := List.append_inj' split rfl
        exact tracked.fresh task run earlier stretch others front oneRun
    · intro task run earlier stretch after split oneRun
      rcases after.eq_nil_or_concat' with rfl | ⟨others, last, rfl⟩
      · rw [List.append_nil] at split
        rcases counted task run earlier stretch split oneRun with none | ⟨record, current, enough, -⟩
        · rw [none]
          exact Nat.zero_le _
        · exact enough.trans (capped task record (Option.filter_eq_some_iff.mp current).1)
      · rw [log, ← List.append_assoc] at split
        obtain ⟨front, -⟩ := List.append_inj' split rfl
        exact tracked.bounded task run earlier stretch others front oneRun

end Step

theorem tracked_history (maxSwitches : Int) (calls : List Activation) :
    Tracked maxSwitches (history maxSwitches calls) :=
  Runs.run_invariant (Tracked maxSwitches) (fun _ _ tracked => tracked_step tracked)
    (tracked_start maxSwitches) calls

/-- While no switch of a task for another run comes in between, at most `max_switches` calls for
the task and the run are applied and none of them repeats a named route.  A call that is not
applied leaves the state as it is. -/
theorem route_switches_bounded (maxSwitches : Int) (calls : List Activation) :
    (∀ task run before stretch after,
      (history maxSwitches calls).applied = before ++ stretch ++ after →
      (∀ call ∈ stretch, call.taskId = task → call.workflowRunId = run) →
        (ofTask task stretch).length ≤ maxSwitches.toNat ∧
          (routeIds (ofTask task stretch)).Nodup) ∧
    ∀ before call after, calls = before ++ call :: after →
      applies (activate maxSwitches (history maxSwitches before).state call).1 = false →
        (history maxSwitches (before ++ [call])).state = (history maxSwitches before).state := by
  refine ⟨fun task run before stretch after split oneRun => ?_, ?_⟩
  · have tracked := tracked_history maxSwitches calls
    exact ⟨tracked.bounded task run before stretch after split oneRun,
      tracked.fresh task run before stretch after split oneRun⟩
  · intro before call after _ idle
    rw [history, Runs.run_append, Runs.run_cons, Runs.run_nil]
    rcases activate_cases maxSwitches (history maxSwitches before).state call with ⟨-, same⟩ |
      ⟨applied, -⟩
    · exact same
    · rw [idle] at applied
      cases applied

def sampleCall (run route action : String) : Activation where
  taskId := "TASK-1"
  workflowRunId := run
  role := "dev"
  instanceId := "dev-lane-0"
  dispatchId := "dispatch-1"
  route := { id := route }
  triggerClass := "provider_rate_limited"
  sourceEventId := "source-1"
  sourceEventType := "provider.stop.recovery"
  sourceEventIds := ["source-1"]
  checkpointId := "checkpoint-1"
  actionId := action
  policyDigest := "digest-1"
  receipt := .obj [("ref", .str "artifacts/route-1.json")]
  activatedAt := "2026-01-01T00:00:00+00:00"

/-- A second switch for the run, and a repeated action after it. -/
def sampleCalls : List Activation :=
  [sampleCall "run-1" "fallback" "action-1", sampleCall "run-1" "slow" "action-2",
    sampleCall "run-1" "slow" "action-2"]

theorem sampleCalls_bounded :
    (ofTask "TASK-1" (history 2 sampleCalls).applied).length ≤ 2 ∧
      (history 2 sampleCalls).state = (history 2 (sampleCalls.take 2)).state := by
  obtain ⟨bounded, unchanged⟩ := route_switches_bounded 2 sampleCalls
  refine ⟨?_, ?_⟩
  · have oneRun : ∀ call ∈ (history 2 sampleCalls).applied,
        call.taskId = "TASK-1" → call.workflowRunId = "run-1" := by
      have log : (history 2 sampleCalls).applied = sampleCalls.take 2 := by
        decide +kernel
      rw [log]
      rintro call member -
      simp only [sampleCalls, List.take_succ_cons, List.take_zero, List.mem_cons,
        List.not_mem_nil, or_false] at member
      rcases member with rfl | rfl <;> rfl
    exact (bounded "TASK-1" "run-1" [] _ [] (by rw [List.nil_append, List.append_nil])
      oneRun).1
  · exact unchanged (sampleCalls.take 2) (sampleCall "run-1" "slow" "action-2") [] rfl
      (by decide +kernel)

/-- A switch for another run in between lets the first run switch to its route again, and a
route without a name is never taken for a used one. -/
theorem earlier_run_switches_again :
    (history 1 [sampleCall "run-1" "fallback" "action-1", sampleCall "run-2" "fallback" "action-2",
        sampleCall "run-1" "fallback" "action-3"]).applied.map
          (fun call => (call.taskId, call.workflowRunId, call.route.id)) =
      [("TASK-1", "run-1", "fallback"), ("TASK-1", "run-2", "fallback"),
        ("TASK-1", "run-1", "fallback")] ∧
    (history 2 [sampleCall "run-1" "" "action-1", sampleCall "run-1" "" "action-2"]).applied.map
        (fun call => (call.taskId, call.workflowRunId, call.route.id)) =
      [("TASK-1", "run-1", ""), ("TASK-1", "run-1", "")] := by
  decide +kernel

end ZaofuFormal.Workflow.ExecutionRoutes
