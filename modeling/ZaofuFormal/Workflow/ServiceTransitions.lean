import ZaofuFormal.Workflow.OperationService
import ZaofuFormal.Workflow.RedriveRuns

/-!
# Which service transitions take effect

A transition of a live operation is lost when `emitOnce` takes it for a replay:
the replay key looks over the whole history and does not see that a retry or a
redrive has brought the operation back.  The main result says exactly when a
started, failed, blocked or interrupted call reaches its status, over every run
of service calls.
-/

namespace ZaofuFormal.Workflow

open Foundation

/-- The operation that the emitted event names; the body may overwrite it. -/
def Emission.targetId (emission : Emission) : String :=
  ((emission.payload.get? "operation_id").map Json.text).getD emission.operationId

/-- The request hash that the emitted event carries. -/
def Emission.carriedHash (emission : Emission) : String :=
  ((emission.payload.get? "request_hash").map Json.text).getD emission.requestHash

/-- The event that a fresh emission appends. -/
def Emission.event (emission : Emission) (env : ServiceEnv) (type : OperationEventType)
    (existing : Option OperationRow) (log : Log) : ZfEvent :=
  (emission.draft type existing).enrich env.writer log

section Emitted

variable (emission : Emission) (env : ServiceEnv) (type : OperationEventType)
  (existing : Option OperationRow) (log : Log)

/-- Outside the parent task, the body is written over the identity fields. -/
theorem emitted_get? {key : String} (other : key ≠ "parent_task_id") :
    (emission.emitted existing).get? key =
      (emission.payload.get? key).or (Dict.find key
        [("schema_version", .str operationSchema),
          ("workflow_run_id", .str emission.workflowRunId),
          ("operation_id", .str emission.operationId),
          ("request_hash", .str emission.requestHash),
          ("task_id", .str (firstText [emission.taskId,
            (existing.map OperationRow.taskId).getD ""]))]) := by
  have distinct : ["schema_version", "workflow_run_id", "operation_id", "request_hash",
      "task_id"].Nodup := by decide
  unfold Emission.emitted
  rw [Dict.get?_update, Dict.get?_ofEntries]
  · split
    · rfl
    · rw [Dict.get?_insert_ne _ _ other]
  · exact distinct

theorem Emission.event_body :
    (emission.event env type existing log).body = .ofDict (emission.emitted existing) :=
  rfl

theorem Emission.event_operationId :
    operationIdOf (emission.event env type existing log).body =
      PyString.strip emission.targetId := by
  rw [operationIdOf, Json.textAt, Emission.event_body, Json.get_ofDict,
    emitted_get? emission existing (by decide), Emission.targetId]
  cases emission.payload.get? "operation_id" with
  | none => exact congrArg PyString.strip (Json.text_str emission.operationId)
  | some value => rfl

theorem Emission.event_requestHash :
    requestHashOf (emission.event env type existing log).body = emission.carriedHash := by
  rw [requestHashOf, Json.textAt, Emission.event_body, Json.get_ofDict,
    emitted_get? emission existing (by decide), Emission.carriedHash]
  cases emission.payload.get? "request_hash" with
  | none => exact Json.text_str emission.requestHash
  | some value => rfl

variable {type} in
theorem Emission.readable_event (calm : type ≠ .retryStarted) :
    Readable (emission.event env type existing log) :=
  readable_of_type rfl calm

end Emitted

/-- An emission leaves the log alone, or appends its event. -/
theorem emitOnce_log (env : ServiceEnv) (type : OperationEventType) (emission : Emission)
    (log : Log) :
    (emitOnce env type emission log).2 = log ∨
      ((¬ ∃ event ∈ log, Replays type emission event) ∧
        (emitOnce env type emission log).2 = log ++
          [emission.event env type (rowAt {} log emission.operationId) log]) := by
  unfold emitOnce rowAt
  cases reduceWorkflowOperations {} log with
  | error error => exact Or.inl rfl
  | ok operations =>
      dsimp only
      split
      · exact Or.inl rfl
      · rename_i fresh
        exact Or.inr ⟨fresh, rfl⟩

theorem emitOnce_replayed {env : ServiceEnv} {type : OperationEventType} {emission : Emission}
    {log : Log} (replayed : ∃ event ∈ log, Replays type emission event) :
    (emitOnce env type emission log).2 = log := by
  rcases emitOnce_log env type emission log with same | ⟨fresh, _⟩
  · exact same
  · exact absurd replayed fresh

variable {row : OperationRow}

theorem emitOnce_fresh {env : ServiceEnv} {type : OperationEventType} {emission : Emission}
    {log : Log} (found : rowAt {} log emission.operationId = some row)
    (fresh : ¬ ∃ event ∈ log, Replays type emission event) :
    (emitOnce env type emission log).2 = log ++ [emission.event env type (some row) log] := by
  obtain ⟨operations, reduced⟩ := reduce_of_rowAt found
  rw [rowAt, reduced] at found
  dsimp only at found
  unfold emitOnce
  rw [reduced]
  dsimp only
  rw [if_neg fresh, found]
  rfl

theorem text_ne_admittedType (type : OperationEventType) : type.text ≠ admittedType := by
  cases type <;> decide

/-- An event that addresses another operation leaves a row as it is. -/
theorem rowAt_elsewhere {log : Log} {event : ZfEvent} {operationId : String}
    {type : OperationEventType} (found : rowAt {} log operationId = some row)
    (isType : event.type = type.text) (readable : Readable event)
    (elsewhere : operationIdOf event.body ≠ operationId) :
    rowAt {} (log ++ [event]) operationId = some row := by
  obtain ⟨operations, reduced⟩ := reduce_of_rowAt found
  obtain ⟨next, reduces⟩ := reduce_readable reduced readable
  obtain ⟨after, present⟩ := rowAt_persists found reduces
  have moves := rowAt_step present
  rw [found] at moves
  cases moves with
  | untouched kept _ => rw [present, ← kept]
  | admitted _ isAdmitted _ => exact absurd (isType.symm.trans isAdmitted) (text_ne_admittedType type)
  | moved address _ => exact absurd (addressed_type address).2.1 elsewhere

/-- The status after an event of its own operation. -/
theorem statusAt_of_addressed {log : Log} {event : ZfEvent} {operationId : String}
    {type : OperationEventType} (found : rowAt {} log operationId = some row)
    (isType : event.type = type.text) (readable : Readable event)
    (here : operationIdOf event.body = operationId) (status : OperationStatus) :
    StatusAt {} (log ++ [event]) operationId status ↔
      nextStatus (noted row event) type event.body = status := by
  have address : addressed {} event = some (operationId, type) := by
    rw [← here]
    exact addressed_of_type isType (here ▸ (rowAt_key found).2)
  obtain ⟨moved, moves⟩ := transition_succeeds fun same _ => readable (same ▸ isType)
  rw [StatusAt, rowAt_of_transition found address moves, Option.map_some, noteLast_status,
    (transition_moves moves).1, Option.some_inj]

/-- The event, the status it leads to and the emission of a transition call. -/
structure RequestedTransition where
  type : OperationEventType
  status : OperationStatus
  emission : Emission

def ServiceCall.requested : ServiceCall → Option RequestedTransition
  | .markStarted target attempt => some ⟨.started, .running, startedEmission target attempt⟩
  | .fail target reason details => some ⟨.failed, .failed, detailedEmission target reason details⟩
  | .block target reason details =>
      some ⟨.blocked, .blocked, detailedEmission target reason details⟩
  | .interrupt target reason sourceAttemptId =>
      some ⟨.interrupted, .suspended, interruptEmission target reason sourceAttemptId⟩
  | _ => none

/-- A transition call on a live operation leads to its status. -/
def TakesEffect (env : ServiceEnv) (log : Log) (call : ServiceCall) : Prop :=
  ∀ asked ∈ call.requested, ∀ row ∈ rowAt {} log asked.emission.operationId,
    ¬ row.status.Terminal →
      StatusAt {} (serve env log call) asked.emission.operationId asked.status

instance (env : ServiceEnv) (log : Log) (call : ServiceCall) :
    Decidable (TakesEffect env log call) :=
  inferInstanceAs (Decidable (∀ asked ∈ call.requested, _))

/-- The emission carries a request hash other than the recorded one. -/
def Emission.Diverges (emission : Emission) (row : OperationRow) : Prop :=
  row.requestHash ≠ "" ∧ emission.carriedHash ≠ "" ∧ row.requestHash ≠ emission.carriedHash

instance (emission : Emission) (row : OperationRow) : Decidable (emission.Diverges row) :=
  inferInstanceAs (Decidable (_ ∧ _))

theorem Emission.diverges_event (emission : Emission) (env : ServiceEnv)
    (type : OperationEventType) (existing : Option OperationRow) (log : Log) (row : OperationRow) :
    Workflow.Diverges row (emission.event env type existing log).body ↔ emission.Diverges row := by
  rw [Workflow.Diverges, emission.event_requestHash, Emission.Diverges]

/-- A replayed transition repeats the status that the operation has; a fresh one
names its operation, and carries the recorded hash when it starts or suspends. -/
def RequestedTransition.Lands (asked : RequestedTransition) (log : Log) (row : OperationRow) :
    Prop :=
  if ∃ event ∈ log, Replays asked.type asked.emission event then row.status = asked.status
  else PyString.strip asked.emission.targetId = asked.emission.operationId ∧
    (asked.type ∈ [OperationEventType.started, .interrupted] → ¬ asked.emission.Diverges row)

instance (asked : RequestedTransition) (log : Log) (row : OperationRow) :
    Decidable (asked.Lands log row) :=
  inferInstanceAs (Decidable (ite _ _ _))

def LandsAt (log : Log) (call : ServiceCall) : Prop :=
  ∀ asked ∈ call.requested, ∀ row ∈ rowAt {} log asked.emission.operationId,
    ¬ row.status.Terminal → asked.Lands log row

instance (log : Log) (call : ServiceCall) : Decidable (LandsAt log call) :=
  inferInstanceAs (Decidable (∀ asked ∈ call.requested, _))

/-- The transitions whose calls are considered, as pairs of event and status. -/
def liveTransitions : List (OperationEventType × OperationStatus) :=
  [(.started, .running), (.failed, .failed), (.blocked, .blocked), (.interrupted, .suspended)]

theorem liveTransitions_calm : ∀ pair ∈ liveTransitions, pair.1 ≠ .retryStarted := by decide

theorem liveTransitions_terminal : ∀ pair ∈ liveTransitions,
    pair.1 ∉ [OperationEventType.started, .interrupted] → pair.2.Terminal := by
  decide

/-- From a live row, or one just blocked for divergence, each branch reaches its
status unless it spares terminal rows and the row was blocked. -/
theorem nextStatus_live {event : ZfEvent} {type : OperationEventType}
    {status : OperationStatus} (considered : (type, status) ∈ liveTransitions)
    (live : ¬ row.status.Terminal) :
    nextStatus (noted row event) type event.body = status ↔
      (type ∈ [OperationEventType.started, .interrupted] → ¬ Diverges row event.body) := by
  have blockedTerminal : OperationStatus.blocked.Terminal := by decide
  have notCancelled : row.status ≠ .cancelled := fun same => live (same ▸ by decide)
  by_cases diverges : Diverges row event.body
  · have now : (noted row event).status = .blocked := by rw [noted_status, if_pos diverges]
    simp only [liveTransitions, List.mem_cons, Prod.mk.injEq, List.not_mem_nil, or_false]
      at considered
    rcases considered with ⟨rfl, rfl⟩ | ⟨rfl, rfl⟩ | ⟨rfl, rfl⟩ | ⟨rfl, rfl⟩ <;>
      simp [nextStatus, now, blockedTerminal, diverges]
  · have now : (noted row event).status = row.status := by rw [noted_status, if_neg diverges]
    simp only [liveTransitions, List.mem_cons, Prod.mk.injEq, List.not_mem_nil, or_false]
      at considered
    rcases considered with ⟨rfl, rfl⟩ | ⟨rfl, rfl⟩ | ⟨rfl, rfl⟩ | ⟨rfl, rfl⟩ <;>
      simp [nextStatus, now, live, notCancelled, diverges]

theorem emission_lands_iff {env : ServiceEnv} {log : Log} {asked : RequestedTransition}
    (considered : (asked.type, asked.status) ∈ liveTransitions)
    (named : asked.type ∈ [OperationEventType.started, .interrupted] →
      asked.emission.targetId = asked.emission.operationId)
    (found : rowAt {} log asked.emission.operationId = some row) (live : ¬ row.status.Terminal) :
    StatusAt {} (emitOnce env asked.type asked.emission log).2 asked.emission.operationId
      asked.status ↔ asked.Lands log row := by
  have readable : Readable (asked.emission.event env asked.type (some row) log) :=
    asked.emission.readable_event env (some row) log (liveTransitions_calm _ considered)
  unfold RequestedTransition.Lands
  split
  · rename_i replayed
    rw [emitOnce_replayed replayed, StatusAt, found, Option.map_some, Option.some_inj]
  · rename_i fresh
    rw [emitOnce_fresh found fresh]
    by_cases here : PyString.strip asked.emission.targetId = asked.emission.operationId
    · have target := (asked.emission.event_operationId env asked.type (some row) log).trans here
      rw [statusAt_of_addressed found rfl readable target, nextStatus_live considered live,
        asked.emission.diverges_event]
      exact (and_iff_right here).symm
    · have elsewhere :
          operationIdOf (asked.emission.event env asked.type (some row) log).body ≠
            asked.emission.operationId := by
        rw [asked.emission.event_operationId]
        exact here
      rw [StatusAt, rowAt_elsewhere found rfl readable elsewhere, Option.map_some, Option.some_inj]
      refine iff_of_false ?_ fun lands => here lands.1
      intro same
      have unnamed : asked.type ∉ [OperationEventType.started, .interrupted] := by
        intro member
        rw [named member, (rowAt_key found).1] at here
        exact here rfl
      exact live (same ▸ liveTransitions_terminal _ considered unnamed)

theorem startedEmission_targetId (target : Target) (attempt : StartedAttempt) :
    (startedEmission target attempt).targetId = (startedEmission target attempt).operationId := by
  have absent : (startedEmission target attempt).payload.get? "operation_id" = none := by
    unfold startedEmission Target.emission
    dsimp only
    rw [Dict.get?_ofEntries]
    · rfl
    · simp only [List.map_cons, List.map_nil]
      decide
  rw [Emission.targetId, absent]
  rfl

theorem takesEffect_iff (env : ServiceEnv) (log : Log) (call : ServiceCall) :
    TakesEffect env log call ↔ LandsAt log call := by
  have considered {asked : RequestedTransition} (member : asked ∈ call.requested) :
      (asked.type, asked.status) ∈ liveTransitions ∧
        (asked.type ∈ [OperationEventType.started, .interrupted] →
          asked.emission.targetId = asked.emission.operationId) ∧
        serve env log call = (emitOnce env asked.type asked.emission log).2 := by
    cases call with
    | markStarted target attempt =>
        obtain rfl := Option.some.inj member
        exact ⟨by simp [liveTransitions], fun _ => startedEmission_targetId target attempt, rfl⟩
    | interrupt target reason sourceAttemptId =>
        obtain rfl := Option.some.inj member
        exact ⟨by simp [liveTransitions], fun _ => rfl, rfl⟩
    | fail target reason details | block target reason details =>
        obtain rfl := Option.some.inj member
        exact ⟨by simp [liveTransitions], fun early => absurd early (by simp), rfl⟩
    | _ => cases member
  unfold TakesEffect LandsAt
  refine forall_congr' fun asked => forall_congr' fun member => forall_congr' fun row =>
    forall_congr' fun found => forall_congr' fun live => ?_
  obtain ⟨kind, named, same⟩ := considered member
  rw [same]
  exact emission_lands_iff kind named found live

/-- Over every run of service calls: every transition of a live operation takes
effect exactly when every one lands. -/
theorem run_takesEffect_iff (env : ServiceEnv) (calls : List ServiceCall) :
    Runs.Along (serve env) (TakesEffect env) [] calls ↔
      Runs.Along (serve env) LandsAt [] calls := by
  constructor
  · exact Runs.Along.mono fun log call => (takesEffect_iff env log call).mp
  · exact Runs.Along.mono fun log call => (takesEffect_iff env log call).mpr

/-- The samples make one request, and tell stored envelopes apart by their source. -/
def sampleEnv : ServiceEnv where
  writer := sampleWriter
  toFloat := numberToFloat
  textDigest _ := "t1"
  requestDigest _ := "h1"
  sidecarDigest value := match value.get "source_event_ids" with
    | .arr (.str source :: _) => "s-" ++ source
    | _ => "s"
  sidecarBytes value := value.repr.utf8ByteSize + 1

def sampleEnsure : EnsureRequest where
  workflowRunId := "run-1"
  operationId := "op-1"
  operationType := "agent"
  request := .obj [("prompt", .str "build")]

def sampleTarget : Target where
  operationId := "op-1"
  requestHash := sampleEnsure.requestHash sampleEnv
  workflowRunId := "run-1"

/-- An operation that failed once and was retried. -/
def retriedCalls : List ServiceCall :=
  [.ensure (fun _ => none) sampleEnsure, .markStarted sampleTarget { activeAttemptId := "a1" },
    .fail sampleTarget "transport" Dict.empty,
    .markRetryStarted sampleTarget { retryAttempt := 1, reason := "transport" }]

/-- The second failure of a retried operation is taken for the first one. -/
theorem second_failure_lost :
    ¬ ∀ (env : ServiceEnv) (calls : List ServiceCall),
      Runs.Along (serve env) (TakesEffect env) [] calls := by
  intro always
  exact absurd (always sampleEnv (retriedCalls ++ [.fail sampleTarget "crash" Dict.empty]))
    (by decide +kernel)

end ZaofuFormal.Workflow
