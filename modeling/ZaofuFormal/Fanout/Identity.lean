import ZaofuFormal.Foundation.Sorting
import ZaofuFormal.Workflow.Event

/-!
# Current and stale fanout instances

A fanout can be started again under a new id for the same logical work.  The
projection reads the events once, keeps the last started instance of every
logical key current and links each instance that lost this place to the one
that took it.
-/

namespace ZaofuFormal.Fanout

open Foundation Workflow

def childEventTypes : List String :=
  ["fanout.child.queued", "fanout.child.dispatched", "fanout.child.completed",
    "fanout.child.failed"]

def aggregateEventTypes : List String :=
  ["fanout.aggregate.started", "fanout.aggregate.completed", "fanout.timed_out",
    "fanout.cancelled"]

def fanoutIdentityEventTypes : List String :=
  "fanout.started" :: "fanout.child.stale_completion" :: (childEventTypes ++ aggregateEventTypes)

/-- A reference to an event, as the projection lists it. -/
structure EventRef where
  eventId : String
  eventType : String
  fanoutId : String
  childId : String
  taskId : String
  reason : String
  staleReason : String
  deriving DecidableEq

structure Issue where
  eventId : String
  eventType : String
  fanoutId : String
  reason : String
  deriving DecidableEq

def fanoutId (event : ZfEvent) : String := event.body.textAt "fanout_id"

def eventTaskId (event : ZfEvent) : String :=
  if event.taskId.getD "" = "" then event.body.textAt "task_id" else event.taskId.getD ""

/-- The first of the named fields that is a text and not blank, stripped. -/
def firstPayloadString (payload : Json) (keys : List String) : String :=
  (keys.findSome? fun key =>
    match payload.get key with
    | .str value => if PyString.isBlank value then none else some (PyString.strip value)
    | _ => none).getD ""

/-- The first of the named fields that is an integer or a text of digits, here ASCII ones;
`isdigit` holds of other digits of Unicode too, and `int` raises on some of them. -/
def firstPayloadInt (payload : Json) (keys : List String) : Option Int :=
  keys.findSome? fun key =>
    match payload.get key with
    | .int value => some value
    | .str value =>
        let digits := (PyString.strip value).toList
        if digits ≠ [] ∧ digits.all fun char => (PyString.digit? char).isSome then
          PyString.parseInt? value
        else none
    | _ => none

def reason (payload : Json) : String :=
  firstPayloadString payload ["reason", "error", "message", "summary"]

def eventRef (event : ZfEvent) (childId staleReason : String) : EventRef where
  eventId := event.id
  eventType := event.type
  fanoutId := fanoutId event
  childId := childId
  taskId := eventTaskId event
  reason := reason event.body
  staleReason := staleReason

def childId (event : ZfEvent) : String := event.body.textAt "child_id"

def issue (event : ZfEvent) (fanoutId reason : String) : Issue :=
  ⟨event.id, event.type, fanoutId, reason⟩

/-- The fields that make up the logical key of a started fanout. -/
structure LogicalScope where
  stageId : String
  targetRef : String
  taskId : String
  pddId : String
  featureId : String
  deriving DecidableEq

structure FanoutIdentity where
  fanoutInstanceId : String
  fanoutId : String
  logicalKey : String
  current : Bool
  scope : LogicalScope
  topology : String
  waveAlias : String
  waveIndex : Option Int
  waveTotal : Option Int
  attempt : Option Int
  startedEventId : String
  supersededBy : String := ""
  staleReason : String := ""
  childEvents : List EventRef := []
  aggregateEvents : List EventRef := []
  staleEvents : List EventRef := []
  deriving DecidableEq

def startedScope (event : ZfEvent) : LogicalScope where
  stageId := event.body.textAt "stage_id"
  targetRef := event.body.textAt "target_ref"
  taskId := eventTaskId event
  pddId := event.body.textAt "pdd_id"
  featureId := event.body.textAt "feature_id"

def logicalKey (scope : LogicalScope) : String :=
  let parts := [scope.stageId, scope.targetRef, scope.taskId, scope.pddId, scope.featureId].filter
    (· ≠ "")
  if parts = [] then "global" else PyString.join '|' parts

/-- The logical key of the fanout that an event starts. -/
def startedKey (event : ZfEvent) : String := logicalKey (startedScope event)

def identityFromStarted (event : ZfEvent) : FanoutIdentity where
  fanoutInstanceId := fanoutId event
  fanoutId := fanoutId event
  logicalKey := startedKey event
  current := true
  scope := startedScope event
  topology := event.body.textAt "topology"
  waveAlias := firstPayloadString event.body ["wave_alias", "wave_id"]
  waveIndex := firstPayloadInt event.body ["wave_index", "index"]
  waveTotal := firstPayloadInt event.body ["wave_total", "expected_total", "total"]
  attempt := firstPayloadInt event.body ["attempt", "wave_attempt", "fanout_attempt"]
  startedEventId := event.id

/-- The instance after the start of `successor` took its place. -/
def FanoutIdentity.superseded (identity : FanoutIdentity) (successor : String) : FanoutIdentity :=
  { identity with
    current := false
    supersededBy := successor
    staleReason := "superseded_by_latest_fanout" }

structure Registry where
  identities : Dict String FanoutIdentity := Dict.empty
  currentByKey : Dict String String := Dict.empty
  staleEvents : List EventRef := []
  issues : List Issue := []

def Registry.start (registry : Registry) (event : ZfEvent) : Registry :=
  let identity := identityFromStarted event
  let previous := (registry.currentByKey.get? identity.logicalKey).bind fun previousId =>
    (registry.identities.get? previousId).map fun previous => (previousId, previous)
  let marked :=
    match previous with
    | none => registry.identities
    | some (previousId, previous) =>
        registry.identities.insert previousId (previous.superseded identity.fanoutId)
  { registry with
    identities := marked.insert identity.fanoutId identity
    currentByKey := registry.currentByKey.insert identity.logicalKey identity.fanoutId }

/-- File a reference to a stale event with its instance and with the projection. -/
def Registry.noteStale (registry : Registry) (identity : FanoutIdentity) (ref : EventRef) :
    Registry :=
  { registry with
    identities := registry.identities.insert identity.fanoutId
      { identity with staleEvents := identity.staleEvents ++ [ref] }
    staleEvents := registry.staleEvents ++ [ref] }

/-- An event of a started instance that is no start. -/
def Registry.noteOf (registry : Registry) (event : ZfEvent) (identity : FanoutIdentity) :
    Registry :=
  if event.type = "fanout.child.stale_completion" then
    let explicit :=
      if reason event.body = "" then "explicit_stale_completion" else reason event.body
    registry.noteStale identity (eventRef event (childId event) explicit)
  else if identity.current = false then
    let why :=
      if identity.staleReason = "" then "fanout_instance_not_current" else identity.staleReason
    registry.noteStale identity (eventRef event (childId event) why)
  else if event.type ∈ childEventTypes then
    { registry with
      identities := registry.identities.insert identity.fanoutId
        { identity with
          childEvents := identity.childEvents ++ [eventRef event (childId event) ""] } }
  else if event.type ∈ aggregateEventTypes then
    { registry with
      identities := registry.identities.insert identity.fanoutId
        { identity with aggregateEvents := identity.aggregateEvents ++ [eventRef event "" ""] } }
  else registry

def Registry.note (registry : Registry) (event : ZfEvent) : Registry :=
  if event.type ∉ fanoutIdentityEventTypes then registry
  else if fanoutId event = "" then
    { registry with issues := registry.issues ++ [issue event "" "missing_fanout_id"] }
  else if event.type = "fanout.started" then registry.start event
  else
    match registry.identities.get? (fanoutId event) with
    | none =>
        let reason := "fanout_event_without_started"
        { registry with
          issues := registry.issues ++ [issue event (fanoutId event) reason]
          staleEvents := registry.staleEvents ++ [eventRef event "" reason] }
    | some identity => registry.noteOf event identity

structure Summary where
  totalInstances : Nat
  currentInstances : Nat
  staleInstances : Nat
  staleEventCount : Nat
  issueCount : Nat
  deriving DecidableEq

structure Projection where
  summary : Summary
  instances : List FanoutIdentity
  staleEvents : List EventRef
  issues : List Issue
  deriving DecidableEq

/-- The key by which the instances are listed. -/
def listingKey (identity : FanoutIdentity) : String ×ₗ String ×ₗ String :=
  toLex (identity.logicalKey,
    toLex (if identity.current then "0" else "1", identity.fanoutId))

def registryOf (log : Log) : Registry := log.foldl Registry.note {}

def Registry.project (registry : Registry) : Projection :=
  let instances := Sorting.sortedBy listingKey registry.identities.values
  let currentCount := (instances.filter FanoutIdentity.current).length
  { summary :=
      { totalInstances := instances.length
        currentInstances := currentCount
        staleInstances := instances.length - currentCount
        staleEventCount := registry.staleEvents.length
        issueCount := registry.issues.length }
    instances
    staleEvents := registry.staleEvents
    issues := registry.issues }

def buildFanoutIdentityProjection (log : Log) : Projection := (registryOf log).project

end ZaofuFormal.Fanout
