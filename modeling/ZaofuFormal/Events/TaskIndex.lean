import ZaofuFormal.Foundation.Json
import ZaofuFormal.Foundation.Runs
import ZaofuFormal.Foundation.Sorting

/-!
# The task index of the event log

Every instance of the log keeps the identifiers of the events of a task and the
events that it has appended itself.  A flush merges the identifiers with those of
the index file, and a load takes them from the file; events are never taken from
it.  A task whose listed events are all held is answered from the index, any
other task from the log.

The log is the list of events that a read of the whole log returns, each with
the number of the instance that appended it.
-/

namespace ZaofuFormal.Events.TaskIndex

open Foundation

/-- An event; its other fields are in the body. -/
structure ZfEvent where
  id : String
  ts : String
  taskId : Option String
  body : Json
  deriving DecidableEq

abbrev TaskIds := Dict String (List String)

structure EventIndex where
  eventById : Dict String ZfEvent
  eventIdsByTask : TaskIds
  dirty : Bool

@[irreducible] def maxEntries : Nat := 50000

@[irreducible] def maxTaskEvents : Nat := 5000

/-- The last items of a list. -/
def keepLast {α : Type} (count : Nat) (items : List α) : List α :=
  items.drop (items.length - count)

/-- The task under which an event is listed. -/
def indexedTask (event : ZfEvent) : Option String := event.taskId.filter fun task => task != ""

def dropOldest (count : Nat) (events : Dict String ZfEvent) : Dict String ZfEvent :=
  ⟨keepLast count events.entries, events.nodupKeys.sublist ((List.drop_sublist _ _).map Prod.fst)⟩

def appendUnlessLast (ids : List String) (id : String) : List String :=
  if ids.getLast? = some id then ids else ids ++ [id]

def observe (index : EventIndex) (event : ZfEvent) : EventIndex :=
  if event.id = "" then index
  else {
    eventById := dropOldest maxEntries (index.eventById.insert event.id event)
    eventIdsByTask :=
      match indexedTask event with
      | none => index.eventIdsByTask
      | some task => index.eventIdsByTask.insert task (keepLast maxTaskEvents
          (appendUnlessLast ((index.eventIdsByTask.get? task).getD []) event.id))
    dirty := true }

/-- `items[-limit:]`, or all items without a limit. -/
def lastItems {α : Type} (limit : Option Nat) (items : List α) : List α :=
  match limit with
  | none | some 0 => items
  | some (count + 1) => keepLast (count + 1) items

/-- The events of a task, when its list is known and all of the selected are held. -/
def EventIndex.eventsForTask (index : EventIndex) (task : String) (limit : Option Nat) :
    Option (List ZfEvent) :=
  (index.eventIdsByTask.get? task).bind fun ids =>
    (lastItems limit ids).mapM index.eventById.get?

def mergeIds (events : Dict String ZfEvent) (base values : List String) : List String :=
  values.foldl
    (fun base id => if events.contains id = true ∧ id ∉ base then base ++ [id] else base) base

/-- The time of a held event; other events are sorted to the front. -/
def timeKey (events : Dict String ZfEvent) (id : String) : String :=
  ((events.get? id).map ZfEvent.ts).getD ""

def mergeTaskEvents (events : Dict String ZfEvent) (base values : List String) : List String :=
  keepLast maxTaskEvents (Sorting.sortedBy (timeKey events) (mergeIds events base values))

def mergeTasks (events : Dict String ZfEvent) (disk memory : TaskIds) : TaskIds :=
  disk.insertAll (memory.entries.map fun entry =>
    (entry.1, mergeTaskEvents events ((disk.get? entry.1).getD []) entry.2))

/-- The latest of the held events. -/
def capEvents (events : Dict String ZfEvent) : Dict String ZfEvent :=
  if maxEntries < events.entries.length then
    ⟨keepLast maxEntries (Sorting.sortedBy (fun entry => entry.2.ts) events.entries),
      (((Sorting.sortedBy_perm _ _).map Prod.fst).nodup_iff.mpr events.nodupKeys).sublist
        ((List.drop_sublist _ _).map Prod.fst)⟩
  else events

/-- The index and the file behind a flush. -/
def flush (index : EventIndex) (disk : Option TaskIds) : EventIndex × Option TaskIds :=
  if index.dirty then
    let events := capEvents index.eventById
    let merged := mergeTasks events (disk.getD Dict.empty) index.eventIdsByTask
    (⟨events, merged, false⟩, some merged)
  else (index, disk)

def load (disk : Option TaskIds) (index : EventIndex) : EventIndex :=
  match disk with
  | none => index
  | some ids => { index with eventIdsByTask := ids }

/-- The log, each event with the instance that appended it, the index file, and the
instances. -/
structure State where
  log : List (Nat × ZfEvent)
  disk : Option TaskIds
  instances : List EventIndex

def State.start : State := ⟨[], none, []⟩

inductive Action where
  | create
  | append (writer : Nat) (event : ZfEvent)
  | flush (writer : Nat)
  | load (writer : Nat)
  deriving DecidableEq

def emptyIndex : EventIndex := ⟨Dict.empty, Dict.empty, false⟩

/-- An instance in its place, and the index file. -/
def State.put (state : State) (writer : Nat) (written : EventIndex × Option TaskIds) : State :=
  { state with disk := written.2, instances := state.instances.set writer written.1 }

/-- `append`: the line, the observation, and a flush at every fifth event held. -/
def appendTo (state : State) (writer : Nat) (index : EventIndex) (event : ZfEvent) : State :=
  let observed := observe index event
  let count := observed.eventById.entries.length
  { state with log := state.log ++ [(writer, event)] }.put writer
    (if count = 1 ∨ count % 5 = 0 then flush observed state.disk else (observed, state.disk))

/-- A new instance loads; `close` flushes. -/
def step (state : State) : Action → State
  | .create => { state with instances := state.instances ++ [load state.disk emptyIndex] }
  | .append writer event =>
      match state.instances[writer]? with
      | none => state
      | some index => appendTo state writer index event
  | .flush writer =>
      match state.instances[writer]? with
      | none => state
      | some index => state.put writer (flush index state.disk)
  | .load writer =>
      match state.instances[writer]? with
      | none => state
      | some index => state.put writer (load state.disk index, state.disk)

def State.readAll (state : State) : List ZfEvent := state.log.map Prod.snd

/-- The events of a task in the log. -/
def taskEvents (events : List ZfEvent) (task : String) : List ZfEvent :=
  events.filter fun event => event.taskId == some task

/-- `EventLog.events_for_task`. -/
def State.eventsForTask (state : State) (index : EventIndex) (task : String)
    (limit : Option Nat) : List ZfEvent :=
  match index.eventsForTask task limit with
  | some events => events
  | none => lastItems limit (taskEvents state.readAll task)

end ZaofuFormal.Events.TaskIndex
