import ZaofuFormal.Admission.Operations
import ZaofuFormal.Foundation.Runs

/-!
# Reconciling the queue

A reconcile pass looks for an admitted run whose invoke has no outcome, or for
the head of the queue while a slot is free, and hands the source event to the
invoke handler again.  The handler is modelled by what it does to admission: it
refuses the invoke, or has it admitted and, if that succeeds, records an outcome.
Whatever else it appends is unread by the projection.
-/

namespace ZaofuFormal.Admission

open Foundation Workflow

def sourceHasOutcome (log : Log) (sourceEventId : String) : Bool :=
  log.any fun event =>
    decide (event.type ∈ outcomeEvents ∧ event.body.textAt "source_event_id" = sourceEventId)

/-- An admitted run that is running while its invoke has no outcome. -/
def crashGap (log : Log) (runId : String) : Bool :=
  ((runsOf log).get? runId).any fun entry =>
    decide (entry.status = .running) && decide (entry.admittedEventId ≠ "") &&
      !sourceHasOutcome log entry.sourceEventId

/-- The runs of one round, in the order in which they are tried. -/
def reconcileCandidates (runtime : Runtime) (log : Log) : List String :=
  let projection := buildRunAdmissionProjection log
  projection.activeRunIds.filter (crashGap log) ++
    (if projection.activeRunIds.length < runtime.maxActiveRuns then projection.queuedRunIds else [])

def invokeById? (log : Log) (id : String) : Option ZfEvent :=
  log.find? fun event => decide (event.id = id ∧ event.type = invokeRequested)

/-- The logged invoke of a candidate, unless it was tried before. -/
def candidateSource (attempted : List String) (log : Log) (runId : String) : Option ZfEvent :=
  match (runsOf log).get? runId with
  | none => none
  | some entry =>
      if entry.sourceEventId = "" ∨ entry.sourceEventId ∈ attempted then none
      else invokeById? log entry.sourceEventId

def reconcileSource (runtime : Runtime) (attempted : List String) (log : Log) : Option ZfEvent :=
  (reconcileCandidates runtime log).findSome? (candidateSource attempted log)

/-- An event that neither the projection nor the selection reads. -/
structure SideEvent where
  event : ZfEvent
  unread : runEventKind? event.type = none
  noOutcome : event.type ∉ outcomeEvents
  noInvoke : event.type ≠ invokeRequested

def isPresent (value : Json) : Bool := decide (value ≠ .null ∧ value ≠ .str "")

/-- The rejection event of an invoke. -/
def rejectionEvent (runtime : Runtime) (source : ZfEvent) (taskId patternId reason : String)
    (log : Log) : ZfEvent :=
  Draft.enrich
    { type := "workflow.invoke.rejected"
      actor := some "zf-cli"
      taskId := if taskId = "" then source.taskId else some taskId
      payload := .obj
        ([("task_id", .str taskId), ("pattern_id", .str patternId),
          ("source_event_id", .str source.id), ("reason", .str reason),
          ("channel_id", .str (source.body.textAt "channel_id")),
          ("thread_id", .str (source.body.textAt "thread_id"))] ++
          (["request_id", "run_id", "workflow_run_id"].filter fun key =>
            isPresent (source.body.get key)).map fun key => (key, source.body.get key))
      causationId := some source.id
      correlationId := source.correlationId }
    runtime.writer log

/-- `_emit_workflow_invoke_rejected`: the outcome first, then the admission. -/
def emitWorkflowInvokeRejected (runtime : Runtime) (source : ZfEvent)
    (taskId patternId reason : String) (log : Log) : Log :=
  rejectWorkflowInvokeAdmission runtime source reason
    (log ++ [rejectionEvent runtime source taskId patternId reason log])

/-- The acceptance event of an invoke; admission has put the run id into its payload. -/
def acceptanceEvent (runtime : Runtime) (source : ZfEvent) (taskId : String)
    (fields : List (String × Json)) (log : Log) : ZfEvent :=
  Draft.enrich
    { type := "workflow.invoke.accepted"
      actor := some "zf-cli"
      taskId := some taskId
      payload := .obj ([("source_event_id", .str source.id),
        ("workflow_run_id", .str (eventRunId source))] ++ fields)
      causationId := some source.id
      correlationId := source.correlationId }
    runtime.writer log

/-- What the handler does after an invoke was admitted. -/
inductive FollowUp where
  | note (side : SideEvent)
  | accept (taskId : String) (fields : List (String × Json))
  | refuse (taskId patternId reason : String)

def FollowUp.apply (runtime : Runtime) (source : ZfEvent) (log : Log) : FollowUp → Log
  | .note side => log ++ [side.event]
  | .accept taskId fields => log ++ [acceptanceEvent runtime source taskId fields log]
  | .refuse taskId patternId reason =>
      emitWorkflowInvokeRejected runtime source taskId patternId reason log

/-- How one handler call ends: it refuses the invoke, or asks for its admission. -/
inductive Verdict where
  | refuse (taskId patternId reason : String)
  | admits (followUps : List FollowUp)

/-- The behaviour of one handler call. -/
structure Handling where
  preface : List SideEvent
  verdict : Verdict

def handleInvoke (runtime : Runtime) (handling : Handling) (source : ZfEvent) (log : Log) : Log :=
  let begun := log ++ handling.preface.map SideEvent.event
  match handling.verdict with
  | .refuse taskId patternId reason =>
      emitWorkflowInvokeRejected runtime source taskId patternId reason begun
  | .admits followUps =>
      let admitted := admitWorkflowInvoke runtime source begun
      if admitted.1.status = .admitted then
        followUps.foldl (FollowUp.apply runtime source) admitted.2
      else admitted.2

/-- A pass, given how the successive handler calls behave: the sources that were tried, and the
log.  It ends when no source is left, and after one call in serial mode. -/
def reconcileRunAdmission (runtime : Runtime) :
    List Handling → List String → Log → List String × Log
  | [], attempted, log => (attempted, log)
  | handling :: rest, attempted, log =>
      match reconcileSource runtime attempted log with
      | none => (attempted, log)
      | some source =>
          let handled := handleInvoke runtime handling source log
          match runtime.mode with
          | .serial => (source.id :: attempted, handled)
          | .concurrent => reconcileRunAdmission runtime rest (source.id :: attempted) handled

end ZaofuFormal.Admission
