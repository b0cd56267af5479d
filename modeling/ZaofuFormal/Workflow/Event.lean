import ZaofuFormal.Foundation.Json

/-!
# Runtime events and the event writer

The runtime state is rebuilt from an append-only list of events.  The writer
completes the causation and correlation of an event from the log before it
appends it.  Fresh ids and times are a function of the log position, so that a
run is determined by its calls.
-/

namespace ZaofuFormal.Workflow

open Foundation

structure ZfEvent where
  type : String
  id : String
  ts : String
  actor : Option String := none
  taskId : Option String := none
  payload : Json := .obj []
  causationId : Option String := none
  correlationId : Option String := none
  origin : String := ""
  deriving DecidableEq

abbrev Log := List ZfEvent

/-- `event.payload if isinstance(event.payload, dict) else {}`. -/
def ZfEvent.body (event : ZfEvent) : Json := event.payload.objectOrEmpty

/-- `value or None` for a text. -/
def optional (text : String) : Option String := if text = "" then none else some text

/-- The values that the default factories supply to the event at one log position. -/
structure Stamp where
  id : String
  ts : String
  traceId : String

/-- How a writer is set up: its stamps, its own correlation and its origin. -/
structure Writer where
  stamp : Nat → Stamp
  correlationId : Option String := none
  defaultOrigin : String := ""

/-- An event as a caller builds it, before id and time are assigned. -/
structure Draft where
  type : String
  actor : Option String := none
  taskId : Option String := none
  payload : Json := .obj []
  causationId : Option String := none
  correlationId : Option String := none
  origin : String := ""

def eventById (log : Log) (id : String) : Option ZfEvent :=
  log.reverse.find? fun event => decide (event.id = id)

def latestTaskEvent (log : Log) (taskId : String) : Option ZfEvent :=
  log.reverse.find? fun event => decide (event.taskId = some taskId)

/-- The event whose correlation the new one falls back on. -/
def Draft.parent (draft : Draft) (log : Log) : Option ZfEvent :=
  match draft.causationId, draft.taskId with
  | some causationId, _ => eventById log causationId
  | none, some taskId => if draft.type = "task.created" then none else latestTaskEvent log taskId
  | none, none => none

def Draft.enrich (draft : Draft) (writer : Writer) (log : Log) : ZfEvent :=
  let stamp := writer.stamp log.length
  let parent := draft.parent log
  let correlationId := draft.correlationId.or writer.correlationId
  let correlationId :=
    if draft.type = "user.message" ∧ correlationId = none then some stamp.traceId
    else correlationId
  { type := draft.type
    id := stamp.id
    ts := stamp.ts
    actor := draft.actor
    taskId := draft.taskId
    payload := draft.payload
    causationId := draft.causationId.or (parent.map ZfEvent.id)
    correlationId := correlationId.or (parent.bind ZfEvent.correlationId)
    origin := if draft.origin = "" then writer.defaultOrigin else draft.origin }

/-- Append an event and return it. -/
def Writer.append (writer : Writer) (draft : Draft) (log : Log) : ZfEvent × Log :=
  let event := draft.enrich writer log
  (event, log ++ [event])

end ZaofuFormal.Workflow
