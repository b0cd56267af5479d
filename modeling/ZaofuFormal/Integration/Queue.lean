import ZaofuFormal.Fanout.Identity

/-!
# The integration queue

The queue is derived from the events in one pass.  An event that gets through
the filters is merged into its entry, which it may create; a move along the
table of transitions changes the status, and any other move leaves an issue.
The digest of an identity is a parameter, and the view of the arbiter is left
out.
-/

namespace ZaofuFormal.Integration

open Foundation Workflow

inductive QueueStatus where
  | queued
  | integrating
  | integrated
  | needsReview
  | discarded
  deriving DecidableEq, Repr

def QueueStatus.text : QueueStatus → String
  | queued => "queued"
  | integrating => "integrating"
  | integrated => "integrated"
  | needsReview => "needs_review"
  | discarded => "discarded"

def queueSpecificEventTypes : List String :=
  ["integration.queue.integrating", "integration.queue.integrated",
    "integration.queue.needs_review", "integration.queue.retry_requested",
    "integration.queue.discarded"]

def queueEventTypes : List String :=
  ["task.integration_enqueued", "candidate.integration.started",
    "candidate.integration.completed", "integration.failed"] ++ queueSpecificEventTypes

def validTransitions : QueueStatus → List QueueStatus
  | .queued => [.integrating, .needsReview, .discarded]
  | .integrating => [.integrated, .needsReview, .discarded]
  | .needsReview => [.queued, .integrating, .discarded]
  | .integrated => []
  | .discarded => []

structure QueueIssue where
  eventId : String
  eventType : String
  entryId : String
  reason : String
  deriving DecidableEq

/-- A reference to an event, as an entry lists it. -/
structure QueueEventRef where
  id : String
  type : String
  taskId : String
  ts : String
  deriving DecidableEq

def eventIssue (event : ZfEvent) (entryId reason : String) : QueueIssue :=
  ⟨event.id, event.type, entryId, reason⟩

def queueReason (payload : Json) : String :=
  Fanout.firstPayloadString payload ["reason", "error", "message", "summary"]

/-- The texts of a list that are not blank, or one trimmed text. -/
def coerceList : Json → List String
  | .arr items => (items.filter fun item => !PyString.isBlank item.pyStr).map Json.pyStr
  | .str text => if PyString.isBlank text then [] else [PyString.strip text]
  | _ => []

def uniqueStrings (values : List String) : List String :=
  (values.filter fun value => value ≠ "").eraseDups

def sourceRef (payload : Json) : String :=
  if (payload.get "source_ref").truthy then payload.textAt "source_ref"
  else payload.textAt "target_ref"

def artifactRefs (payload : Json) : List String :=
  coerceList (if (payload.get "artifact_refs").truthy then payload.get "artifact_refs"
    else payload.get "artifacts")

def verificationRefs (payload : Json) : List String :=
  coerceList (payload.get "verification_refs")

def explicitEntryId (payload : Json) : String :=
  Fanout.firstPayloadString payload
    ["queue_entry_id", "integration_entry_id", "entry_id", "integration_id", "id"]

def identityParts (event : ZfEvent) : List String :=
  let payload := event.body
  let pddId := if (payload.get "pdd_id").truthy then payload.textAt "pdd_id"
    else payload.textAt "feature_id"
  [Fanout.eventTaskId event, payload.textAt "fanout_instance_id", sourceRef payload,
    payload.textAt "base_ref", payload.textAt "handoff_ref", pddId].filter fun part => part ≠ ""

/-- The entry that an event belongs to; `sha1` is the digest in hexadecimal. -/
def entryIdForEvent (sha1 : String → String) (event : ZfEvent) : String :=
  if explicitEntryId event.body ≠ "" then explicitEntryId event.body
  else if identityParts event = [] then ""
  else "iq-" ++ String.ofList ((sha1 (PyString.join '|' (identityParts event))).toList.take 12)

def queueRelevant (event : ZfEvent) : Prop :=
  event.type ∈ queueSpecificEventTypes ∨ event.type = "task.integration_enqueued" ∨
    explicitEntryId event.body ≠ "" ∨ identityParts event ≠ []

instance (event : ZfEvent) : Decidable (queueRelevant event) :=
  inferInstanceAs (Decidable (_ ∨ _))

inductive QueueAction where
  | enqueue
  | retry
  | move (status : QueueStatus)
  deriving DecidableEq

def actionForEvent (event : ZfEvent) : Option QueueAction :=
  if event.type = "task.integration_enqueued" then some .enqueue
  else if event.type ∈ ["integration.queue.integrating", "candidate.integration.started"] then
    some (.move .integrating)
  else if event.type ∈ ["integration.queue.integrated", "candidate.integration.completed"] then
    some (.move .integrated)
  else if event.type ∈ ["integration.queue.needs_review", "integration.failed"] then
    some (.move .needsReview)
  else if event.type = "integration.queue.retry_requested" then some .retry
  else if event.type = "integration.queue.discarded" then some (.move .discarded)
  else none

/-- Where an action moves its entry; an enqueue moves none. -/
def targetStatusForAction (action : QueueAction) (payload : Json) : QueueStatus :=
  match action with
  | .move status => status
  | .retry =>
      if PyString.strip (payload.textAt "target_status") = "integrating" then .integrating
      else .queued
  | .enqueue => .queued

abbrev OperationKey := String × QueueAction × String

def operationKey (event : ZfEvent) (entryId : String) (action : QueueAction) : OperationKey :=
  let payload := event.body
  (entryId, action,
    if (payload.get "idempotency_key").truthy then payload.textAt "idempotency_key"
    else if (payload.get "operation_id").truthy then payload.textAt "operation_id"
    else event.id)

structure FanoutStatus where
  current : Bool
  staleReason : String
  supersededBy : String
  deriving DecidableEq

/-- The map is empty where the projection raises, on a count written in superscript digits, which
`firstPayloadInt` passes over. -/
def fanoutStatusById (log : Log) : Dict String FanoutStatus :=
  Dict.ofEntries ((Fanout.buildFanoutIdentityProjection log).instances.map fun identity =>
    (identity.fanoutId, ⟨identity.current, identity.staleReason, identity.supersededBy⟩))

def isStale (payload : Json) : Bool :=
  payload.get "stale" = .bool true || payload.get "is_stale" = .bool true ||
    payload.get "stale_fanout_instance" = .bool true || payload.get "current" = .bool false

/-- Why an event is rejected as stale; the empty text for an event that is not. -/
def staleReason (statuses : Dict String FanoutStatus) (payload : Json) : String :=
  if isStale payload then "stale fanout instance"
  else if payload.textAt "fanout_instance_id" = "" then ""
  else
    match statuses.get? (payload.textAt "fanout_instance_id") with
    | none => ""
    | some status =>
        if status.current then ""
        else if status.staleReason = "" then "fanout_instance_not_current"
        else status.staleReason

def supersededBy (statuses : Dict String FanoutStatus) (payload : Json) : String :=
  ((statuses.get? (payload.textAt "fanout_instance_id")).map FanoutStatus.supersededBy).getD ""

structure StaleEntry where
  id : String
  eventId : String
  eventType : String
  taskId : String
  fanoutInstanceId : String
  sourceRef : String
  handoffRef : String
  artifactRefs : List String
  verificationRefs : List String
  ts : String
  status : String := "stale_rejected"
  reason : String
  staleReason : String
  supersededBy : String
  deriving DecidableEq

def staleEntry (statuses : Dict String FanoutStatus) (event : ZfEvent) (entryId why : String) :
    StaleEntry where
  id := entryId
  eventId := event.id
  eventType := event.type
  taskId := Fanout.eventTaskId event
  fanoutInstanceId := event.body.textAt "fanout_instance_id"
  sourceRef := sourceRef event.body
  handoffRef := event.body.textAt "handoff_ref"
  artifactRefs := artifactRefs event.body
  verificationRefs := verificationRefs event.body
  ts := event.ts
  reason := if queueReason event.body = "" then why else queueReason event.body
  staleReason := why
  supersededBy := supersededBy statuses event.body

structure IntegrationQueueEntry where
  id : String
  status : QueueStatus := .queued
  taskId : String
  fanoutInstanceId : String
  sourceRef : String
  baseRef : String
  handoffRef : String
  artifactRefs : List String
  verificationRefs : List String
  reason : String
  retryCount : Nat := 0
  createdEventId : String
  updatedEventId : String
  updatedAt : String
  eventRefs : List QueueEventRef := []
  issues : List QueueIssue := []
  deriving DecidableEq

def newEntry (event : ZfEvent) (entryId : String) : IntegrationQueueEntry :=
  let payload := event.body
  { id := entryId
    taskId := Fanout.eventTaskId event
    fanoutInstanceId := payload.textAt "fanout_instance_id"
    sourceRef := sourceRef payload
    baseRef := payload.textAt "base_ref"
    handoffRef := payload.textAt "handoff_ref"
    artifactRefs := artifactRefs payload
    verificationRefs := verificationRefs payload
    reason := queueReason payload
    createdEventId := event.id
    updatedEventId := event.id
    updatedAt := event.ts }

/-- The first text, or the second one when it is empty. -/
def orText (first second : String) : String := if first = "" then second else first

def mergePayload (entry : IntegrationQueueEntry) (event : ZfEvent) : IntegrationQueueEntry :=
  let payload := event.body
  { entry with
    taskId := orText entry.taskId (Fanout.eventTaskId event)
    fanoutInstanceId := orText entry.fanoutInstanceId (payload.textAt "fanout_instance_id")
    sourceRef := orText entry.sourceRef (sourceRef payload)
    baseRef := orText entry.baseRef (payload.textAt "base_ref")
    handoffRef := orText entry.handoffRef (payload.textAt "handoff_ref")
    artifactRefs := uniqueStrings (entry.artifactRefs ++ artifactRefs payload)
    verificationRefs := uniqueStrings (entry.verificationRefs ++ verificationRefs payload)
    reason := orText (queueReason payload) entry.reason
    updatedEventId := event.id
    updatedAt := event.ts }

def recordEvent (entry : IntegrationQueueEntry) (event : ZfEvent) : IntegrationQueueEntry :=
  { entry with
    eventRefs := entry.eventRefs ++ [⟨event.id, event.type, event.taskId.getD "", event.ts⟩] }

def countRetry (entry : IntegrationQueueEntry) (target : QueueStatus) : IntegrationQueueEntry :=
  if target = .queued ∧ entry.status = .needsReview then
    { entry with retryCount := entry.retryCount + 1 }
  else entry

def applyTransition (entry : IntegrationQueueEntry) (target : QueueStatus) (event : ZfEvent) :
    Option IntegrationQueueEntry :=
  if target = entry.status ∨ target ∈ validTransitions entry.status then
    some { entry with status := target, updatedEventId := event.id, updatedAt := event.ts }
  else none

def illegalTransition (entry : IntegrationQueueEntry) (target : QueueStatus) (event : ZfEvent) :
    QueueIssue :=
  eventIssue event entry.id ("illegal_transition:" ++ entry.status.text ++ "->" ++ target.text)

/-- Merge an event into its entry and move the entry, or leave an issue with it. -/
def moveEntry (entry : IntegrationQueueEntry) (target : QueueStatus) (event : ZfEvent) :
    IntegrationQueueEntry × List QueueIssue :=
  let merged := countRetry (mergePayload entry event) target
  match applyTransition merged target event with
  | some moved => (recordEvent moved event, [])
  | none =>
      let issue := illegalTransition merged target event
      (recordEvent { merged with issues := merged.issues ++ [issue] } event, [issue])

structure QueueState where
  entries : Dict String IntegrationQueueEntry := Dict.empty
  issues : List QueueIssue := []
  staleEntries : List StaleEntry := []
  seenEventIds : List String := []
  seenOperationKeys : List OperationKey := []

/-- How far an event gets through the filters. -/
inductive Reading where
  | skipped
  | passed
  | unidentified
  | stale (entryId why : String)
  | applies (entryId : String) (action : QueueAction)

def readEvent (sha1 : String → String) (statuses : Dict String FanoutStatus) (state : QueueState)
    (event : ZfEvent) : Reading :=
  let entryId := entryIdForEvent sha1 event
  if event.type ∉ queueEventTypes ∨ event.id ∈ state.seenEventIds then .skipped
  else if ¬queueRelevant event then .passed
  else if entryId = "" then .unidentified
  else if staleReason statuses event.body ≠ "" then .stale entryId (staleReason statuses event.body)
  else
    match actionForEvent event with
    | none => .passed
    | some action =>
        if operationKey event entryId action ∈ state.seenOperationKeys then .passed
        else .applies entryId action

/-- The entry after an event that applies to it, and the issues that this raises. -/
def nextEntry (found : Option IntegrationQueueEntry) (entryId : String) (action : QueueAction)
    (event : ZfEvent) : Option IntegrationQueueEntry × List QueueIssue :=
  match action, found with
  | .enqueue, none => (some (recordEvent (newEntry event entryId) event), [])
  | .enqueue, some entry => (some (recordEvent (mergePayload entry event) event), [])
  | .move .needsReview, none =>
      let moved := moveEntry (newEntry event entryId) .needsReview event
      (some moved.1, moved.2)
  | _, none => (none, [eventIssue event entryId "missing_queued_entry"])
  | _, some entry =>
      let moved := moveEntry entry (targetStatusForAction action event.body) event
      (some moved.1, moved.2)

def applyEvent (state : QueueState) (event : ZfEvent) (entryId : String) (action : QueueAction) :
    QueueState :=
  let next := nextEntry (state.entries.get? entryId) entryId action event
  { state with
    entries :=
      match next.1 with
      | none => state.entries
      | some entry => state.entries.insert entryId entry
    issues := state.issues ++ next.2
    seenOperationKeys := state.seenOperationKeys ++ [operationKey event entryId action] }

def QueueState.see (state : QueueState) (event : ZfEvent) : QueueState :=
  { state with seenEventIds := state.seenEventIds ++ [event.id] }

def note (sha1 : String → String) (statuses : Dict String FanoutStatus) (state : QueueState)
    (event : ZfEvent) : QueueState :=
  match readEvent sha1 statuses state event with
  | .skipped => state
  | .passed => state.see event
  | .unidentified =>
      { state.see event with
        issues := state.issues ++ [eventIssue event "" "missing_queue_identity"] }
  | .stale entryId why =>
      { state.see event with
        staleEntries := state.staleEntries ++ [staleEntry statuses event entryId why]
        issues := state.issues ++ [eventIssue event entryId "stale_queue_event_rejected"] }
  | .applies entryId action => applyEvent (state.see event) event entryId action

structure QueueSummary where
  total : Nat
  counts : QueueStatus → Nat
  staleRejected : Nat
  issueCount : Nat

structure IntegrationQueue where
  summary : QueueSummary
  entries : List IntegrationQueueEntry
  staleEntries : List StaleEntry
  issues : List QueueIssue

def QueueState.project (state : QueueState) : IntegrationQueue :=
  let entries := Sorting.sortedBy (fun entry : IntegrationQueueEntry =>
    toLex (entry.updatedAt, entry.id)) state.entries.values
  { summary :=
      { total := entries.length
        counts := fun status => entries.countP fun entry => decide (entry.status = status)
        staleRejected := state.staleEntries.length
        issueCount := state.issues.length }
    entries
    staleEntries := state.staleEntries
    issues := state.issues }

/-- The states of the pass over a log, with the staleness of the whole list of events. -/
def queueStates (sha1 : String → String) (log : Log) : QueueState → Log → QueueState :=
  List.foldl (note sha1 (fanoutStatusById log))

def buildIntegrationQueue (sha1 : String → String) (log : Log) : IntegrationQueue :=
  (queueStates sha1 log {} log).project

end ZaofuFormal.Integration
