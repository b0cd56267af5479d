import ZaofuFormal.Foundation.Programs
import ZaofuFormal.State.TaskAttempts
import ZaofuFormal.Workflow.Event

/-!
# The TaskAttempt lifecycle at the transport boundary

The runtime prepares an attempt before a transport sends bytes, and afterwards
settles, renews, fails or reconciles it from what comes back.  Each of its
functions is a program over the attempt store.  The event log, the task store,
the configuration and the clock are what a call finds around it; the events
that a call appends and the task fields that it writes are left out, since no
later call reads a status from them.
-/

namespace ZaofuFormal.State.TaskAttemptRuntime

open Foundation Workflow TaskAttempts

structure Policy where
  mode : String
  maxAttempts : Int
  deriving DecidableEq

/-- `_max_attempts`. -/
def Policy.limit (policy : Policy) : Int :=
  max 1 (min (if policy.maxAttempts = 0 then 3 else policy.maxAttempts) 10)

structure Task where
  id : String
  evidenceContract : Json

structure Surroundings where
  policy : Policy
  log : Log
  taskStore : String → Option Task
  sessionRunId : String
  now : String
  leaseExpiry : String
  isExpired : String → Bool
  /-- Is the first time stamp, read as an instant, not after the second?  True
  when one of them is not a time stamp. -/
  notAfter : String → String → Bool

inductive RuntimeError where
  | store (error : StoreError)
  | deliveryClaimed (message : String)
  deriving DecidableEq

abbrev StoreProgram := Program StoreData RuntimeError

def onStore {α : Type} (operation : StoreData → Except StoreError α × StoreData) :
    StoreProgram α :=
  Program.of fun disk => ((operation disk).1.mapError RuntimeError.store, (operation disk).2)

def load (env : Env) : StoreProgram StoreData := onStore fun disk => (loadUnlocked env disk, disk)

def rows (env : Env) : StoreProgram (List TaskAttempt) := do
  let data ← load env
  return data.attempts.values

def get (env : Env) (attemptId : String) : StoreProgram (Option TaskAttempt) := do
  let data ← load env
  return data.attempts.get? attemptId

/-- The rows that the pointers lead to, without repetition, of one task. -/
def currentRows (data : StoreData) (taskId : String) : List TaskAttempt :=
  (data.current.values.eraseDups.filterMap data.attempts.get?).filter fun row =>
    decide (row.taskId = taskId)

/-- The only active row, or the only row when none is active. -/
def selectUnambiguous (found : List TaskAttempt) : Option TaskAttempt :=
  match found.filter fun row => decide row.Active with
  | [row] => some row
  | _ :: _ :: _ => none
  | [] =>
      match found with
      | [row] => some row
      | _ => none

def currentForTask (env : Env) (taskId : String) : StoreProgram (Option TaskAttempt) :=
  let taskId := PyString.strip taskId
  if taskId = "" then return none
  else do
    let data ← load env
    return selectUnambiguous (currentRows data taskId)

/-- The current row of the lane that a supplied attempt belongs to. -/
def currentForAttempt (env : Env) (taskId attemptId : String) :
    StoreProgram (Option TaskAttempt) :=
  let taskId := PyString.strip taskId
  let attemptId := PyString.strip attemptId
  if taskId = "" ∨ attemptId = "" then return none
  else do
    let data ← load env
    match data.attempts.get? attemptId with
    | none => return none
    | some supplied =>
        if supplied.taskId ≠ taskId then return none
        else
          let scope := scopeKey supplied.runId taskId supplied.attemptKey
          return data.attempts.get? ((data.current.get? scope).getD "")

def updateRow (env : Env) (attemptId : String) (settlement : Settlement) :
    StoreProgram (Option TaskAttempt) := do
  let answer ← onStore (update env attemptId settlement)
  return answer.1

def strippedAt (body : Json) (key : String) : String := PyString.strip (body.textAt key)

/-- The first of the named fields that counts as filled, as text. -/
def firstText (body : Json) (keys : List String) : String :=
  ((keys.map body.textAt).find? (· ≠ "")).getD ""

def clipped (text : String) : String := String.ofList (text.toList.take 500)

def trustedKernelEvent (event : ZfEvent) : Prop := event.origin = "kernel"

instance (event : ZfEvent) : Decidable (trustedKernelEvent event) :=
  inferInstanceAs (Decidable (event.origin = "kernel"))

/-- The fields by which an event names an attempt exactly. -/
def identityFields (row : TaskAttempt) : List (String × String) :=
  [("workflow_run_id", row.runId), ("operation_id", row.operationId),
    ("attempt_id", row.attemptId), ("lease_id", row.leaseId), ("dispatch_id", row.dispatchId)]

def namesExactly (body : Json) (row : TaskAttempt) : Prop :=
  ∀ field ∈ identityFields row, strippedAt body field.1 = field.2

instance (body : Json) (row : TaskAttempt) : Decidable (namesExactly body row) :=
  inferInstanceAs (Decidable (∀ field ∈ identityFields row, _))

def resolveEventAttempt (env : Env) (event : ZfEvent) : StoreProgram (Option TaskAttempt) :=
  let supplied := strippedAt event.body "attempt_id"
  if supplied ≠ "" then currentForAttempt env (event.taskId.getD "") supplied
  else currentForTask env (event.taskId.getD "")

def successEvents : List String :=
  ["arch.proposal.done", "design.critique.done", "dev.build.done", "fanout.synth.completed",
    "review.approved", "verify.passed", "test.passed", "judge.passed", "task.done.evidence",
    "worker.completed", "task.pipeline.verify.completed", "task.pipeline.acceptance.completed"]

def failureEvents : List String :=
  ["dev.failed", "dev.blocked", "review.rejected", "review.suspended", "verify.failed",
    "test.failed", "test.suspended", "judge.failed", "task.pipeline.verify.failed",
    "task.pipeline.acceptance.failed"]

def resultStatus (eventType : String) : String :=
  if eventType ∈ successEvents then "succeeded"
  else if eventType ∈ failureEvents then "failed"
  else ""

def endsWith (text tail : String) : Bool := tail.toList.isSuffixOf text.toList

def admittedResultStatus (eventType : String) : String :=
  if resultStatus eventType ≠ "" then resultStatus eventType
  else if endsWith eventType ".child.completed" then "succeeded"
  else if endsWith eventType ".child.failed" then "failed"
  else ""

structure DispatchContext where
  runId : Option String := none
  taskId : Option String := none
  parentTaskId : Option String := none
  roleName : Option String := none
  instanceId : Option String := none
  dispatchId : Option String := none
  operationId : Option String := none
  attemptId : Option String := none
  leaseId : Option String := none
  taskPipelineStage : Option String := none
  placementEpoch : Option Int := none
  deriving DecidableEq

structure PreparedTaskAttempt where
  context : DispatchContext
  attempt : TaskAttempt
  deriving DecidableEq

/-- The run that a task was admitted to, or else the last event of the task that names one. -/
def taskWorkflowRunId (task : Task) (events : Log) : String :=
  let declared := PyString.strip
    (firstText task.evidenceContract.objectOrEmpty ["workflow_run_id", "run_id", "request_id"])
  let taskId := PyString.strip task.id
  if declared ≠ "" then declared
  else if taskId = "" then ""
  else
    let named := events.reverse.filterMap fun event =>
      let owner := orElse (event.taskId.getD "") (event.body.textAt "task_id")
      let runId := PyString.strip (firstText event.body ["workflow_run_id", "project_run_id"])
      if owner = taskId ∧ runId ≠ "" then some runId else none
    named.head?.getD ""

/-- The role component of an operation id: the role, or else the instance. -/
def DispatchContext.worker (context : DispatchContext) : String :=
  orElse (context.roleName.getD "") (context.instanceId.getD "")

def taskOperationId (env : Env) (runId taskId roleName : String) : String :=
  "op-task-" ++ env.digest (PyString.join '|' [runId, taskId, roleName])

def attemptRunId (surroundings : Surroundings) (context : DispatchContext) (taskId : String) :
    String :=
  let requested := PyString.strip (context.runId.getD "")
  let admitted :=
    match surroundings.taskStore taskId with
    | none => ""
    | some task => taskWorkflowRunId task surroundings.log
  orElse admitted (orElse requested (orElse surroundings.sessionRunId "legacy"))

/-- The arguments with which `prepare_task_attempt` admits the dispatch. -/
def attemptDispatch (env : Env) (surroundings : Surroundings) (context : DispatchContext)
    (taskId dispatchId briefingPath : String) : Dispatch :=
  let runId := attemptRunId surroundings context taskId
  let stage := PyString.strip (context.taskPipelineStage.getD "")
  { runId
    taskId
    dispatchId
    role := context.roleName.getD ""
    instanceId := context.instanceId.getD ""
    operationId := orElse (PyString.strip (context.operationId.getD ""))
      (taskOperationId env runId taskId context.worker)
    briefingRef := briefingPath
    createdAt := surroundings.now
    leaseExpiresAt := surroundings.leaseExpiry
    maxAttempts := if surroundings.policy.mode = "enforce" then surroundings.policy.limit else 0
    parentTaskId := context.parentTaskId.getD ""
    identityVersion := if stage = "" then identityRoleV1 else identityOperationV2
    placementEpoch := context.placementEpoch.getD 0 }

def claimedMessage (attemptId status : String) : String :=
  "TaskAttempt " ++ attemptId ++ " delivery is already " ++ status

/-- The superseded row, which the report of the supersession names. -/
def supersededRow (env : Env) (attemptId : String) : StoreProgram (Option TaskAttempt) :=
  if attemptId = "" then return none else get env attemptId

/-- Persist and claim one attempt before the transport can send bytes. -/
def prepareTaskAttempt (env : Env) (surroundings : Surroundings)
    (context : Option DispatchContext) (briefingPath : String) :
    StoreProgram (Option PreparedTaskAttempt) :=
  match context with
  | none => return none
  | some context =>
      let taskId := context.taskId.getD ""
      let dispatchId := PyString.strip (context.dispatchId.getD "")
      if taskId = "" ∨ dispatchId = "" then return none
      else do
        let dispatch := attemptDispatch env surroundings context taskId dispatchId briefingPath
        let ensured ← onStore (ensureForDispatch env dispatch)
        let attempt := ensured.attempt
        let enriched := { context with
          runId := some dispatch.runId
          operationId := some dispatch.operationId
          attemptId := some attempt.attemptId
          leaseId := some attempt.leaseId }
        let _ ← supersededRow env ensured.supersededAttemptId
        let claim ← onStore (claimDelivery env attempt.attemptId surroundings.now)
        let held := claim.1.getD attempt
        if claim.2 ∨ surroundings.policy.mode = "shadow" then
          return some { context := enriched, attempt := held }
        else throw (.deliveryClaimed (claimedMessage attempt.attemptId held.status))

def markTaskAttemptSent (env : Env) (surroundings : Surroundings)
    (prepared : Option PreparedTaskAttempt) : StoreProgram Unit :=
  match prepared with
  | none => return ()
  | some prepared => do
      let _ ← onStore (markSent env prepared.attempt.attemptId surroundings.now)
      return ()

inductive ErrorKind where
  | permission
  | fileNotFound
  | other
  deriving DecidableEq

structure TransportError where
  kind : ErrorKind
  name : String
  message : String

def transportFailurePolicy (error : TransportError) : String × Bool :=
  match error.kind with
  | .permission => ("transport_permission", false)
  | .fileNotFound => ("transport_configuration", false)
  | .other => ("transport_delivery", true)

def isTaskPipelineAttempt (row : TaskAttempt) : Prop := row.identityVersion = identityOperationV2

instance (row : TaskAttempt) : Decidable (isTaskPipelineAttempt row) :=
  inferInstanceAs (Decidable (row.identityVersion = identityOperationV2))

/-- May the scheduler try again after this failure? -/
def retryable (policy : Policy) (row : TaskAttempt) : Prop :=
  row.retryable ≠ some false ∧ (row.ordinal : Int) < policy.limit

instance (policy : Policy) (row : TaskAttempt) : Decidable (retryable policy row) :=
  inferInstanceAs (Decidable (_ ∧ _))

/-- How an attempt that is not tried again is buried.  Only the scheduler's own
attempts pass to a human; a pipeline attempt keeps its recovery owner. -/
def burial (surroundings : Surroundings) (row : TaskAttempt) (reason : String) : Settlement where
  status := "deadlettered"
  updatedAt := surroundings.now
  failureReason := clipped (orElse reason "attempt budget exhausted")
  failureClass := orElse row.failureClass "task_attempt_failed"
  retryable := some false
  recoveryOwner := if isTaskPipelineAttempt row then "" else "human"

/-- Report a failed attempt; in enforce mode one without another try is buried. -/
def emitAttemptFailure (env : Env) (surroundings : Surroundings) (row : TaskAttempt)
    (reason : String) : StoreProgram Unit :=
  if surroundings.policy.mode ≠ "enforce" ∨ retryable surroundings.policy row then return ()
  else do
    let _ ← updateRow env row.attemptId (burial surroundings row reason)
    return ()

def deliveryFailure (surroundings : Surroundings) (error : TransportError) : Settlement where
  status := "failed"
  updatedAt := surroundings.now
  failureReason := "transport_failure:" ++ error.name
  failureClass := (transportFailurePolicy error).1
  retryable := some (transportFailurePolicy error).2
  recoveryOwner := if (transportFailurePolicy error).2 then "scheduler" else "human"

def failTaskAttemptDelivery (env : Env) (surroundings : Surroundings)
    (prepared : Option PreparedTaskAttempt) (error : TransportError) : StoreProgram Unit :=
  match prepared with
  | none => return ()
  | some prepared => do
      match ← updateRow env prepared.attempt.attemptId (deliveryFailure surroundings error) with
      | none => return ()
      | some row => emitAttemptFailure env surroundings row (clipped error.message)

/-- The settlement of an attempt by a result with this terminal status. -/
def resultSettlement (surroundings : Surroundings) (terminal eventId reason : String) :
    Settlement where
  status := terminal
  updatedAt := surroundings.now
  terminalEventId := eventId
  failureReason := if terminal = "failed" then clipped reason else ""
  failureClass := if terminal = "failed" then "semantic_result_failed" else ""
  retryable := if terminal = "failed" then some false else none
  recoveryOwner := if terminal = "failed" then "workflow" else ""

/-- The order in which operation settlement ranks the rows that fit. -/
def Older (first second : TaskAttempt) : Prop :=
  first.createdAt < second.createdAt ∨
    (first.createdAt = second.createdAt ∧ first.ordinal < second.ordinal)

instance (first second : TaskAttempt) : Decidable (Older first second) :=
  inferInstanceAs (Decidable (_ ∨ _))

/-- The first row that no later row of the list is newer than. -/
def newest : List TaskAttempt → Option TaskAttempt
  | [] => none
  | row :: rest =>
      some (rest.foldl (fun best next => if Older best next then next else best) row)

/-- The rows at hand, or else those of the store. -/
def knownRows (env : Env) : Option (List TaskAttempt) → StoreProgram (List TaskAttempt)
  | some attemptRows => return attemptRows
  | none => rows env

/-- In shadow mode an attempt that lapsed may still be settled by its result. -/
def repairsShadowExpiry (policy : Policy) (row : TaskAttempt) : Prop :=
  policy.mode = "shadow" ∧ row.status ∈ ["expired", "failed"] ∧ row.failureClass = "lease_expired"

instance (policy : Policy) (row : TaskAttempt) : Decidable (repairsShadowExpiry policy row) :=
  inferInstanceAs (Decidable (_ ∧ _))

/-- The ids under which a result may name the dispatch that it belongs to. -/
def dispatchCandidates (source : Json) : List String :=
  (["dispatch_id", "attempt_id", "run_id"].map (strippedAt source)).filter (· ≠ "")

/-- The rows that an operation result may settle: those of its dispatch, or
else all of its operation. -/
def admittedCandidates (attemptRows : List TaskAttempt) (taskId operationId runId : String)
    (dispatches : List String) : List TaskAttempt :=
  let candidates := attemptRows.filter fun row =>
    decide (row.taskId = taskId ∧ row.operationId = operationId ∧
      (runId = "" ∨ row.runId = runId))
  let matched := candidates.filter fun row => decide (row.dispatchId ∈ dispatches)
  if matched = [] then candidates else matched

/-- Write a settlement found from the rows, and tell the rewritten row. -/
def settleRow (env : Env) (attemptId : String) (settlement : Settlement) :
    StoreProgram (Option TaskAttempt) := do
  match ← updateRow env attemptId settlement with
  | none => return none
  | some row =>
      let _ ← rows env
      return some row

def settleAdmittedOperationAttempt (env : Env) (surroundings : Surroundings)
    (attemptRows : Option (List TaskAttempt)) (event : ZfEvent) :
    StoreProgram (Option TaskAttempt) :=
  let taskId := PyString.strip (orElse (event.taskId.getD "") (event.body.textAt "task_id"))
  let operationId := strippedAt event.body "operation_id"
  let runId := strippedAt event.body "workflow_run_id"
  let sourceEventId :=
    strippedAt (event.body.get "admitted_call_result_ref").objectOrEmpty "source_event_id"
  if taskId = "" ∨ operationId = "" ∨ sourceEventId = "" then return none
  else
    match eventById surroundings.log sourceEventId with
    | none => return none
    | some source =>
        let terminal := admittedResultStatus source.type
        if terminal = "" then return none
        else do
          let known ← knownRows env attemptRows
          match newest (admittedCandidates known taskId operationId runId
              (dispatchCandidates source.body)) with
          | none => return none
          | some current =>
              if current.status ∉ activeStatuses ∧
                  ¬repairsShadowExpiry surroundings.policy current then return none
              else
                settleRow env current.attemptId (resultSettlement surroundings terminal source.id
                  (firstText source.body ["reason", "summary", "status"]))

def nonResultTerminalEvents : List String :=
  ["workflow.operation.failed", "workflow.operation.blocked", "workflow.operation.superseded",
    "workflow.operation.interrupted", "workflow.operation.cancelled"]

def supersedingEvents : List String :=
  ["workflow.operation.superseded", "workflow.operation.interrupted",
    "workflow.operation.cancelled"]

/-- Prevent an old terminal event of the operation from settling a later redrive. -/
def attemptExistedWhenEventOccurred (surroundings : Surroundings) (row : TaskAttempt)
    (event : ZfEvent) : Bool :=
  let createdAt := PyString.strip row.createdAt
  let eventAt := PyString.strip event.ts
  createdAt == "" || eventAt == "" || surroundings.notAfter createdAt eventAt

/-- The active rows that the end of an operation concerns. -/
def endedCandidates (surroundings : Surroundings) (attemptRows : List TaskAttempt)
    (event : ZfEvent) : List TaskAttempt :=
  let operationId := strippedAt event.body "operation_id"
  let runId := strippedAt event.body "workflow_run_id"
  let taskId := PyString.strip (orElse (event.taskId.getD "") (event.body.textAt "task_id"))
  let sourceAttemptId := strippedAt event.body "source_attempt_id"
  attemptRows.filter fun row =>
    decide (row.operationId = operationId ∧ (runId = "" ∨ row.runId = runId) ∧
      (taskId = "" ∨ row.taskId = taskId)) &&
    (if sourceAttemptId ≠ "" then
        decide (sourceAttemptId = row.attemptId ∨ sourceAttemptId = row.dispatchId)
      else attemptExistedWhenEventOccurred surroundings row event) &&
    decide row.Active

def endSettlement (surroundings : Surroundings) (event : ZfEvent) : Settlement :=
  let superseded := event.type ∈ supersedingEvents
  { status := if superseded then "superseded" else "failed"
    updatedAt := surroundings.now
    terminalEventId := event.id
    failureReason :=
      if superseded then "" else clipped (orElse (event.body.textAt "reason") event.type)
    failureClass := if superseded then "" else "workflow_operation_terminal"
    retryable := some false
    recoveryOwner := "workflow" }

/-- Project every terminal Workflow Operation into its active attempt, and tell
the rewritten row. -/
def settleTerminalOperationAttempt (env : Env) (surroundings : Surroundings)
    (attemptRows : Option (List TaskAttempt)) (event : ZfEvent) :
    StoreProgram (Option TaskAttempt) :=
  if event.type = "workflow.operation.settled" then
    settleAdmittedOperationAttempt env surroundings attemptRows event
  else if event.type ∉ nonResultTerminalEvents ∨ strippedAt event.body "operation_id" = "" then
    return none
  else do
    let known ← knownRows env attemptRows
    match newest (endedCandidates surroundings known event) with
    | none => return none
    | some current => settleRow env current.attemptId (endSettlement surroundings event)

def operationTerminalEvents : List String := "workflow.operation.settled" :: nonResultTerminalEvents

def attemptTerminalEvents : List String :=
  ["task.attempt.succeeded", "task.attempt.failed", "task.attempt.superseded",
    "task.attempt.deadlettered"]

/-- Settle canonical attempt state only after ordinary lifecycle admission. -/
def settleTaskAttemptResult (env : Env) (surroundings : Surroundings) (event : ZfEvent) :
    StoreProgram Unit :=
  let terminal := resultStatus event.type
  if event.type ∈ attemptTerminalEvents then return ()
  else if event.type ∈ operationTerminalEvents ∧ trustedKernelEvent event then do
    let _ ← settleTerminalOperationAttempt env surroundings none event
    return ()
  else if trustedKernelEvent event ∨ PyString.startsWith event.type "task.attempt." then return ()
  else if terminal = "" ∨ event.taskId.getD "" = "" then return ()
  else do
    match ← resolveEventAttempt env event with
    | none => return ()
    | some current =>
        if ¬current.Active ∨ ¬namesExactly event.body current then return ()
        else do
          let _ ← settleRow env current.attemptId (resultSettlement surroundings terminal event.id
            (firstText event.body ["reason", "summary"]))
          return ()

def renewTaskAttemptLease (env : Env) (surroundings : Surroundings) (event : ZfEvent) :
    StoreProgram Unit :=
  if event.type ∉ ["worker.heartbeat", "agent.usage"] ∨ event.taskId.getD "" = "" then return ()
  else do
    match ← resolveEventAttempt env event with
    | none => return ()
    | some current =>
        let actual := strippedAt event.body "attempt_id"
        if surroundings.policy.mode = "enforce" ∧ ¬namesExactly event.body current then return ()
        else if actual ≠ "" ∧ actual ≠ current.attemptId then return ()
        else do
          let _ ← onStore (renewLease env current.attemptId surroundings.now
            surroundings.leaseExpiry)
          return ()

/-- One event of the log, settled against the rows at hand, which follow the store. -/
def settleLogged (env : Env) (surroundings : Surroundings) (attemptRows : List TaskAttempt)
    (event : ZfEvent) : StoreProgram (List TaskAttempt) :=
  if event.type ∈ operationTerminalEvents ∧ trustedKernelEvent event then do
    match ← settleTerminalOperationAttempt env surroundings (some attemptRows) event with
    | none => return attemptRows
    | some row =>
        return attemptRows.map fun other => if other.attemptId = row.attemptId then row else other
  else return attemptRows

def expiredMark (surroundings : Surroundings) : Settlement where
  status := "expired"
  updatedAt := surroundings.now
  recoveryOwner := "run_manager"

def markExpiredTaskPipelineAttempt (env : Env) (surroundings : Surroundings) (_ : Unit)
    (row : TaskAttempt) : StoreProgram Unit :=
  if isTaskPipelineAttempt row then do
    let _ ← updateRow env row.attemptId (expiredMark surroundings)
    return ()
  else return ()

def shadowFailure (surroundings : Surroundings) : Settlement where
  status := "failed"
  updatedAt := surroundings.now
  failureReason := "lease_expired_shadow_only"

/-- Report an expired attempt; outside enforce mode it then counts as failed. -/
def reconcileExpired (env : Env) (surroundings : Surroundings) (_ : Unit) (row : TaskAttempt) :
    StoreProgram Unit :=
  if row.attemptId = "" ∨ row.status ≠ "expired" then return ()
  else do
    emitAttemptFailure env surroundings row "lease_expired"
    if surroundings.policy.mode ≠ "enforce" then do
      let _ ← updateRow env row.attemptId (shadowFailure surroundings)
      return ()
    else return ()

/-- Recover missing occurrences and turn expired leases into one retry. -/
def reconcileTaskAttempts (env : Env) (surroundings : Surroundings) : StoreProgram Unit := do
  let attemptRows ← rows env
  let _ ← surroundings.log.foldlM (settleLogged env surroundings) attemptRows
  let expired ← onStore (expire env surroundings.now surroundings.isExpired)
  expired.foldlM (markExpiredTaskPipelineAttempt env surroundings) ()
  let remaining ← rows env
  remaining.foldlM (reconcileExpired env surroundings) ()

/-- The store, and the attempts handed out by `prepare_task_attempt`, oldest first. -/
structure World where
  disk : StoreData
  handed : List PreparedTaskAttempt

inductive Call where
  | prepare (surroundings : Surroundings) (context : Option DispatchContext)
      (briefingPath : String)
  | markSent (surroundings : Surroundings) (index : Nat)
  | failDelivery (surroundings : Surroundings) (index : Nat) (error : TransportError)
  | settle (surroundings : Surroundings) (event : ZfEvent)
  | renewLease (surroundings : Surroundings) (event : ZfEvent)
  | reconcile (surroundings : Surroundings)

def World.after {α : Type} (world : World) (program : StoreProgram α) : World :=
  { world with disk := (program.exec world.disk).2 }

/-- One call; what `prepare_task_attempt` returns is handed out. -/
def World.call (env : Env) (world : World) : Call → World
  | .prepare surroundings context briefingPath =>
      let outcome := (prepareTaskAttempt env surroundings context briefingPath).exec world.disk
      { disk := outcome.2
        handed := world.handed ++
          match outcome.1 with
          | .ok (some prepared) => [prepared]
          | _ => [] }
  | .markSent surroundings index =>
      world.after (markTaskAttemptSent env surroundings world.handed[index]?)
  | .failDelivery surroundings index error =>
      world.after (failTaskAttemptDelivery env surroundings world.handed[index]? error)
  | .settle surroundings event => world.after (settleTaskAttemptResult env surroundings event)
  | .renewLease surroundings event => world.after (renewTaskAttemptLease env surroundings event)
  | .reconcile surroundings => world.after (reconcileTaskAttempts env surroundings)

end ZaofuFormal.State.TaskAttemptRuntime
