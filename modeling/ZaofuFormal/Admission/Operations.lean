import ZaofuFormal.Admission.Projection

/-!
# Admitting and rejecting workflow invokes

Both operations run under the admission lock: they read the log, decide on the
projection, and append admission events.  Each event is appended at most once
for one source event, so a repeated call continues where an earlier one stopped.
-/

namespace ZaofuFormal.Admission

open Foundation Workflow

inductive AdmissionMode where
  | serial
  | concurrent
  deriving DecidableEq

def AdmissionMode.text : AdmissionMode → String
  | .serial => "serial"
  | .concurrent => "concurrent"

/-- What the operations take from the runtime.  The isolation preflight, the
usage meter and the configured limits are consulted but not modelled. -/
structure Runtime where
  writer : Writer
  mode : AdmissionMode := .serial
  limit : Int := 1
  isolationBlocker : ZfEvent → List String → Log → String
  usageMeterSnapshot : Log → Json
  runLimits : Json

def Runtime.maxActiveRuns (runtime : Runtime) : Nat :=
  match runtime.mode with
  | .serial => 1
  | .concurrent => (max 2 (min (if runtime.limit = 0 then 1 else runtime.limit) 8)).toNat

theorem Runtime.maxActiveRuns_pos (runtime : Runtime) : 0 < runtime.maxActiveRuns := by
  unfold Runtime.maxActiveRuns
  split <;> omega

theorem Runtime.maxActiveRuns_serial {runtime : Runtime} (serial : runtime.mode = .serial) :
    runtime.maxActiveRuns = 1 := by
  simp only [Runtime.maxActiveRuns, serial]

/-- An admission, or the status that keeps the run from being admitted. -/
inductive DecisionStatus where
  | admitted
  | held (status : RunStatus)
  deriving DecidableEq

structure RunAdmissionDecision where
  status : DecisionStatus
  runId : String
  requestId : String
  sourceEventId : String
  queuePosition : Nat := 0
  reason : String := ""
  replayed : Bool := false
  deriving DecidableEq

def decision (entry : RunAdmissionEntry) (projection : RunAdmissionProjection)
    (replayed : Bool) : RunAdmissionDecision :=
  { status := if entry.status = .running then .admitted else .held entry.status
    runId := entry.runId
    requestId := entry.requestId
    sourceEventId := entry.sourceEventId
    queuePosition := projection.queuePosition entry.runId
    reason := entry.blocker
    replayed := replayed }

def schemaVersion : String := "run-admission.v1"

/-- `str(payload.get("request_id") or run_id).strip()`. -/
def requestIdOf (source : ZfEvent) : String :=
  PyString.strip (firstText [source.body.textAt "request_id", eventRunId source])

def admissionPayload (source : ZfEvent) : List (String × Json) :=
  [("schema_version", .str schemaVersion),
    ("run_id", .str (eventRunId source)),
    ("workflow_run_id", .str (eventRunId source)),
    ("request_id", .str (requestIdOf source)),
    ("task_id", .str (firstText [source.taskId.getD "", source.body.textAt "task_id"])),
    ("source_event_id", .str source.id),
    ("effective_config_digest", .str (source.body.textAt "effective_config_digest")),
    ("run_contract_digest", .str (source.body.textAt "run_contract_digest"))]

/-- The admission event of one kind for one source event, as it is appended to a log. -/
def admissionEvent (runtime : Runtime) (kind : AdmissionKind) (source : ZfEvent)
    (extra : List (String × Json)) (log : Log) : ZfEvent :=
  Draft.enrich
    { type := kind.type
      actor := some "orchestrator"
      taskId := source.taskId
      payload := .obj (admissionPayload source ++ extra)
      causationId := some source.id
      correlationId := some (firstText [source.correlationId.getD "", eventRunId source]) }
    runtime.writer log

def admissionEventForSource (log : Log) (kind : AdmissionKind) (sourceEventId : String) : Bool :=
  log.any fun event =>
    decide (event.type = kind.type ∧ event.body.textAt "source_event_id" = sourceEventId)

/-- Append an admission event unless the log already holds it for this source. -/
def recordAdmission (runtime : Runtime) (kind : AdmissionKind) (source : ZfEvent)
    (extra : List (String × Json)) (log : Log) : Log :=
  if admissionEventForSource log kind source.id then log
  else log ++ [admissionEvent runtime kind source extra log]

/-- The decision on a run that needs no new admission fact. -/
def settledDecision (source : ZfEvent) (projection : RunAdmissionProjection) :
    Option RunAdmissionDecision :=
  match projection.runs.get? (eventRunId source) with
  | none => none
  | some existing =>
      if existing.terminal ∨ existing.status = .paused then
        some (decision existing projection true)
      else if existing.status = .running ∧ existing.admittedEventId ≠ "" then
        some
          { status := .admitted
            runId := eventRunId source
            requestId := firstText [existing.requestId, requestIdOf source]
            sourceEventId := firstText [existing.sourceEventId, source.id]
            replayed := true }
      else none

/-- The active runs other than the one of the source event. -/
def activeOthers (source : ZfEvent) (log : Log) : List String :=
  (buildRunAdmissionProjection log).activeRunIds.filter fun runId =>
    decide (runId ≠ eventRunId source)

def admissionBlocker (runtime : Runtime) (source : ZfEvent) (log : Log) : String :=
  let others := activeOthers source log
  if runtime.maxActiveRuns ≤ others.length then "project active Run capacity reached"
  else if runtime.mode = .concurrent ∧ others ≠ [] then
    runtime.isolationBlocker source others log
  else ""

def queuedFields (blocker : String) (others : List String) : List (String × Json) :=
  [("reason", .str blocker), ("active_run_ids", .arr (others.map .str))]

def releasedFields : List (String × Json) := [("reason", .str "Run capacity released")]

def admittedFields (runtime : Runtime) (log : Log) : List (String × Json) :=
  [("policy_mode", .str runtime.mode.text),
    ("max_active_runs", .int runtime.maxActiveRuns),
    ("budget_snapshot", runtime.usageMeterSnapshot log),
    ("run_limits", runtime.runLimits)]

/-- Leave the run in the queue. -/
def enqueue (runtime : Runtime) (source : ZfEvent) (blocker : String) (log : Log) : Log :=
  recordAdmission runtime .queued source (queuedFields blocker (activeOthers source log)) log

/-- Take the run out of the queue, if it was there, and admit it. -/
def grant (runtime : Runtime) (source : ZfEvent) (wasQueued : Bool) (log : Log) : Log :=
  let log := if wasQueued then recordAdmission runtime .released source releasedFields log else log
  recordAdmission runtime .admitted source (admittedFields runtime log) log

def wasQueued (source : ZfEvent) (log : Log) : Bool :=
  ((runsOf log).get? (eventRunId source)).any fun existing => decide (existing.status = .queued)

def admitWorkflowInvoke (runtime : Runtime) (source : ZfEvent) (log : Log) :
    RunAdmissionDecision × Log :=
  if eventRunId source = "" then
    ({ status := .held .rejected
       runId := ""
       requestId := requestIdOf source
       sourceEventId := source.id
       reason := "workflow invoke requires workflow_run_id or run_id" }, log)
  else
    match settledDecision source (buildRunAdmissionProjection log) with
    | some settled => (settled, log)
    | none =>
        let replayed := ((runsOf log).get? (eventRunId source)).isSome
        let requested := recordAdmission runtime .requested source [] log
        let blocker := admissionBlocker runtime source requested
        if blocker ≠ "" then
          let queued := enqueue runtime source blocker requested
          ({ status := .held .queued
             runId := eventRunId source
             requestId := requestIdOf source
             sourceEventId := source.id
             queuePosition :=
               (buildRunAdmissionProjection queued).queuePosition (eventRunId source)
             reason := blocker
             replayed := replayed }, queued)
        else
          ({ status := .admitted
             runId := eventRunId source
             requestId := requestIdOf source
             sourceEventId := source.id
             replayed := replayed }, grant runtime source (wasQueued source log) requested)

/-- An invoke inside a run that another source event got admitted. -/
def nestedInvoke (source : ZfEvent) (log : Log) : Bool :=
  ((runsOf log).get? (eventRunId source)).any fun existing =>
    existing.active && decide (existing.admittedEventId ≠ "") &&
      decide (existing.sourceEventId ≠ source.id)

def rejectWorkflowInvokeAdmission (runtime : Runtime) (source : ZfEvent) (reason : String)
    (log : Log) : Log :=
  if eventRunId source = "" then log
  else if nestedInvoke source log then log
  else
    recordAdmission runtime .rejected source
      [("reason", .str (firstText [reason, "workflow invoke rejected"]))]
      (recordAdmission runtime .requested source [] log)

section Appended

variable (runtime : Runtime) (kind : AdmissionKind) (source : ZfEvent)
  (extra : List (String × Json)) (log : Log)

@[simp] theorem admissionEvent_type :
    (admissionEvent runtime kind source extra log).type = kind.type := rfl

@[simp] theorem admissionEvent_id :
    (admissionEvent runtime kind source extra log).id = (runtime.writer.stamp log.length).id := rfl

theorem admissionEvent_body :
    (admissionEvent runtime kind source extra log).body =
      .obj (admissionPayload source ++ extra) := rfl

@[simp] theorem admissionEvent_source :
    (admissionEvent runtime kind source extra log).body.textAt "source_event_id" = source.id := by
  rw [admissionEvent_body]
  exact Json.text_str source.id

theorem runEventKind?_admission : runEventKind? kind.type = some (.admission kind) := by
  cases kind <;> simp [runEventKind?, runEventKinds, Dict.find, AdmissionKind.type]

variable {source} (named : eventRunId source ≠ "")
include named

theorem admissionEvent_runId :
    eventRunId (admissionEvent runtime kind source extra log) = eventRunId source := by
  have workflowRun : (admissionEvent runtime kind source extra log).body.textAt
      "workflow_run_id" = eventRunId source := Json.text_str _
  exact eventRunId_of_workflowRunId workflowRun named (strip_eventRunId source)

theorem admissionEvent_runEvent? :
    runEvent? (admissionEvent runtime kind source extra log) = some (.admission kind) := by
  rw [runEvent?, admissionEvent_runId runtime kind extra log named, if_neg named,
    admissionEvent_type, runEventKind?_admission]

end Appended

section Records

variable {runtime : Runtime} {kind : AdmissionKind} {source : ZfEvent}
  {extra : List (String × Json)} {log : Log}

theorem recordAdmission_cases (runtime : Runtime) (kind : AdmissionKind) (source : ZfEvent)
    (extra : List (String × Json)) (log : Log) :
    (recordAdmission runtime kind source extra log = log ∧
        admissionEventForSource log kind source.id = true) ∨
      recordAdmission runtime kind source extra log =
        log ++ [admissionEvent runtime kind source extra log] := by
  unfold recordAdmission
  by_cases present : admissionEventForSource log kind source.id = true
  · exact Or.inl ⟨if_pos present, present⟩
  · exact Or.inr (if_neg present)

variable (runtime kind extra) in
theorem sourced_admissionEvent (named : eventRunId source ≠ "") (sourced : Sourced log) :
    Sourced (log ++ [admissionEvent runtime kind source extra log]) := by
  refine sourced_append.mpr ⟨sourced, fun legacy read => ?_⟩
  rw [admissionEvent_runEvent? runtime kind extra log named] at read
  cases read

theorem recordAdmission_sourced (named : eventRunId source ≠ "") (sourced : Sourced log) :
    Sourced (recordAdmission runtime kind source extra log) := by
  rcases recordAdmission_cases runtime kind source extra log with ⟨same, _⟩ | appended
  · exact same.symm ▸ sourced
  · exact appended.symm ▸ sourced_admissionEvent runtime kind extra named sourced

/-- An admission record of one run leaves the entries of the others as they were. -/
theorem recordAdmission_get?_other (named : eventRunId source ≠ "") (sourced : Sourced log)
    {runId : String} (other : runId ≠ eventRunId source) :
    (runsOf (recordAdmission runtime kind source extra log)).get? runId =
      (runsOf log).get? runId := by
  rcases recordAdmission_cases runtime kind source extra log with ⟨same, _⟩ | appended
  · rw [same]
  · rw [appended, runsOf_append (sourced_admissionEvent runtime kind extra named sourced)]
    refine noteFor_other ?_ _ _
    rw [admissionEvent_runId runtime kind extra log named]
    exact Ne.symm other

end Records

section Decisions

variable {runtime : Runtime} {source : ZfEvent} {log : Log}

/-- Without a blocker the active runs beside this one leave a slot. -/
theorem activeOthers_lt (free : admissionBlocker runtime source log = "") :
    (activeOthers source log).length < runtime.maxActiveRuns := by
  by_contra full
  simp only [admissionBlocker, if_pos (Nat.not_lt.mp full)] at free
  exact absurd free (by decide)

theorem admissionBlocker_alone (alone : activeOthers source log = []) :
    admissionBlocker runtime source log = "" := by
  have positive := runtime.maxActiveRuns_pos
  simp only [admissionBlocker, alone, List.length_nil, ne_eq, not_true_eq_false, and_false,
    if_false, ite_eq_right_iff]
  omega

theorem running_of_settled {projection : RunAdmissionProjection}
    {settled : RunAdmissionDecision} (decided : settledDecision source projection = some settled)
    (admitted : settled.status = .admitted) :
    ∃ existing, projection.runs.get? (eventRunId source) = some existing ∧
      existing.status = .running := by
  unfold settledDecision at decided
  cases found : projection.runs.get? (eventRunId source) with
  | none => rw [found] at decided; cases decided
  | some existing =>
      refine ⟨existing, rfl, ?_⟩
      simp only [found] at decided
      split at decided
      · rw [← Option.some.inj decided] at admitted
        by_contra other
        simp [decision, other] at admitted
      · split at decided
        · rename_i running
          exact running.1
        · cases decided

/-- Whether a run needs an admission depends on its entry alone. -/
theorem settledDecision_none_congr {first second : Log}
    (same : (runsOf first).get? (eventRunId source) = (runsOf second).get? (eventRunId source)) :
    settledDecision source (buildRunAdmissionProjection first) = none ↔
      settledDecision source (buildRunAdmissionProjection second) = none := by
  change (buildRunAdmissionProjection first).runs.get? _ =
    (buildRunAdmissionProjection second).runs.get? _ at same
  unfold settledDecision
  rw [same]
  cases (buildRunAdmissionProjection second).runs.get? (eventRunId source) with
  | none => rfl
  | some existing =>
      simp only
      split_ifs <;> simp

end Decisions

/-- A runtime in serial mode whose events are numbered in unary. -/
def serialRuntime : Runtime where
  writer :=
    { stamp position :=
        ⟨String.ofList (List.replicate (position + 1) 'e'), "2026-07-09T09:00:00+00:00", "trace"⟩ }
  isolationBlocker _ _ _ := ""
  usageMeterSnapshot _ := .obj []
  runLimits := .obj []

/-- An event that names its run. -/
def runFact (type id runId : String) (fields : List (String × Json)) : ZfEvent where
  type := type
  id := id
  ts := "2026-07-09T09:00:00+00:00"
  payload := .obj (("workflow_run_id", .str runId) :: fields)

def invokeOf (id runId : String) : ZfEvent := runFact invokeRequested id runId []

end ZaofuFormal.Admission
