import ZaofuFormal.Candidates.ResultBinding
import ZaofuFormal.Foundation.Replays
import ZaofuFormal.Foundation.Sorting

/-!
# Rework handoffs

A rework request opens a handoff for its findings.  A dispatch acknowledges it, the result of
the worker claims its resolution, and an independent verification of the claimed commit closes
it or leaves it as a residual.  The reducer replays the events and keeps a row for every
handoff and for every finding.
-/

namespace ZaofuFormal.Rework

open Foundation Workflow
open Candidates (boundTaskId candidateTaskIntegratedCommits commitsOf)

inductive Status where
  | published
  | acknowledged
  | resolutionClaimed
  | residual
  | superseded
  | verifiedClosed
  | rerouted
  deriving DecidableEq

/-- `_HANDOFF_OPEN`. -/
def Status.isOpen : Status → Bool
  | published | acknowledged | resolutionClaimed | residual => true
  | superseded | verifiedClosed | rerouted => false

structure Handoff where
  requestEventId : String
  taskId : String
  attempt : Int
  dispatchId : String
  deliveryMode : String
  workflowRunId : String
  contractRevision : String
  taskMapGeneration : String
  failureFingerprint : String
  feedbackId : String
  feedbackRef : String
  feedbackDigest : String
  findingIds : List String
  status : Status := .published
  targetCommit : String := ""
  evidenceRefs : List String := []
  lastEventId : String
  deriving DecidableEq

structure Finding where
  findingId : String
  feedbackId : String
  taskId : String
  requestEventId : String
  status : Status
  targetCommit : String
  lastEventId : String

inductive AttemptStatus where
  | active
  | reported
  | accepted

structure Attempt where
  taskId : String
  dispatchId : String
  holder : String
  status : AttemptStatus
  sourceEventId : String
  resultEventId : String := ""
  targetCommit : String := ""
  acceptedEventId : String := ""

structure AcceptedResult where
  taskId : String
  dispatchId : String
  eventType : String
  resultEventId : String
  recordEventId : String

structure StaleClaim where
  eventId : String
  eventType : String
  taskId : String
  requestEventId : String
  reason : String

/-- The handoffs by their request and the findings by their id. -/
structure Feedback where
  handoffs : Dict String Handoff := Dict.empty
  findings : Dict String Finding := Dict.empty

structure Reduction where
  feedback : Feedback := {}
  attempts : Dict String Attempt := Dict.empty
  acceptedResults : Dict String AcceptedResult := Dict.empty
  generations : Dict String String := Dict.empty
  staleClaims : List StaleClaim := []

/-- `_strings`. -/
def strings : Json → List String
  | .arr items => (items.map fun item => PyString.strip item.pyStr).filter fun text => text ≠ ""
  | _ => []

/-- `str(payload.get(key) or default)`. -/
def textOr (payload : Json) (key default : String) : String :=
  firstText [payload.textAt key, default]

def targetCommit (payload : Json) : String :=
  PyString.strip (firstText [payload.textAt "target_commit", payload.textAt "source_commit",
    payload.textAt "candidate_head_commit",
    (payload.get "verification_result").objectOrEmpty.textAt "target_commit",
    (payload.get "target_snapshot").objectOrEmpty.textAt "target_commit"])

/-- The finding ids of a request, or one made from a digest. -/
def findingIds (sha256 : String → String) (payload : Json) (taskId : String) : List String :=
  let ids := strings (payload.get "finding_ids")
  if ids ≠ [] then ids
  else
    let seed := (String.singleton (Char.ofNat 0)).intercalate [taskId,
      textOr payload "failure_fingerprint" "legacy",
      firstText [payload.textAt "feedback_id", payload.textAt "rework_feedback_ref"]]
    ["finding-legacy-" ++ String.ofList ((sha256 seed).toList.take 16)]

/-- The handoff that a request opens. -/
def requestedHandoff (sha256 : String → String) (event : ZfEvent) (attempt : Int) : Handoff where
  requestEventId := event.id
  taskId := boundTaskId event
  attempt := attempt
  dispatchId := event.body.textAt "dispatch_id"
  deliveryMode := textOr event.body "delivery_mode" "fresh_session"
  workflowRunId := firstText [event.body.textAt "workflow_run_id", event.correlationId.getD ""]
  contractRevision := event.body.textAt "contract_revision"
  taskMapGeneration := strippedAt event.body "task_map_generation"
  failureFingerprint := strippedAt event.body "failure_fingerprint"
  feedbackId := event.body.textAt "feedback_id"
  feedbackRef := event.body.textAt "rework_feedback_ref"
  feedbackDigest := event.body.textAt "rework_feedback_digest"
  findingIds := findingIds sha256 event.body (boundTaskId event)
  lastEventId := event.id

/-- `_new_rework_supersedes`. -/
def newReworkSupersedes (prior request : Handoff) : Bool :=
  let priorFingerprint := PyString.strip prior.failureFingerprint
  prior.findingIds.any request.findingIds.contains ||
    (request.failureFingerprint ≠ "" && priorFingerprint ≠ "" &&
      request.failureFingerprint == priorFingerprint) ||
    (request.taskMapGeneration ≠ "" && PyString.isBlank prior.taskMapGeneration &&
      [prior.contractRevision, prior.failureFingerprint, prior.feedbackId, prior.feedbackRef,
        prior.feedbackDigest].all PyString.isBlank) ||
    (request.contractRevision == "legacy" && prior.contractRevision == "legacy" &&
      prior.attempt < request.attempt)

/-- The ids by which an event can name a request, in order. -/
def mentions (event : ZfEvent) : List String :=
  ["rework_request_event_id", "task_rework_request_event_id", "request_event_id"].map
    (strippedAt event.body) ++ [PyString.strip (event.causationId.getD "")]

/-- `_request_id`. -/
def requestId (event : ZfEvent) (handoffs : Dict String Handoff) : String :=
  ((mentions event).find? handoffs.contains).getD ""

/-- `_identity_matches`; the revision "legacy" says nothing. -/
def identityMatches (handoff : Handoff) (payload : Json) (requireDispatch : Bool) : Bool :=
  let agrees (expected actual : String) : Bool :=
    expected == "" || actual == "" || expected == actual
  let same (expected key : String) : Bool :=
    agrees (PyString.strip expected) (strippedAt payload key)
  same handoff.workflowRunId "workflow_run_id" &&
    (PyString.strip handoff.contractRevision == "legacy" ||
      same handoff.contractRevision "contract_revision") &&
    same handoff.taskMapGeneration "task_map_generation" &&
    (!requireDispatch || same handoff.dispatchId "dispatch_id")

def dispatchMatches (attempt : Attempt) (payload : Json) : Bool :=
  let actual := payload.textAt "dispatch_id"
  attempt.dispatchId == "" || actual == "" || attempt.dispatchId == actual

def deliveryTypes : List String := ["task.dispatched", "task.rework.continuation_injected"]

def implSuccess : List String :=
  ["dev.build.done", "impl.child.completed", "fix.child.completed", "task.attempt.succeeded"]

def verifySuccess : List String :=
  ["verify.passed", "test.passed", "review.approved", "lane.stage.completed",
    "module.parity.closed"]

def verifyFailure : List String :=
  ["verify.failed", "test.failed", "review.rejected", "lane.stage.failed"]

def verificationPassed (payload : Json) : Bool :=
  match payload.get "verification_result" with
  | .obj fields =>
      textOr (.obj fields) "execution_status" "completed" == "completed" &&
        textOr (.obj fields) "verdict" "passed" == "passed"
  | _ => textOr payload "failure_class" "none" ∈ ["", "none"]

def verificationRejected (payload : Json) : Bool :=
  match payload.get "verification_result" with
  | .obj fields => (Json.obj fields).textAt "verdict" == "rejected"
  | _ => textOr payload "failure_class" "product_rejection" == "product_rejection"

/-- `marker in owner`; lower case of other letters makes none of the markers. -/
def ownerMarkers : List String := ["verify", "test", "review", "judge"]

def isIndependentVerification (event : ZfEvent) : Bool :=
  if event.type = "module.parity.closed" then true
  else if ["verify.", "test.", "review."].any (PyString.startsWith event.type) then true
  else if PyString.startsWith event.type "lane.stage." = false then false
  else
    let body := event.body
    let owner := PyString.lowerAscii (" ".intercalate [body.textAt "verification_owner",
      body.textAt "verification_tier",
      firstText [body.textAt "stage_slot", body.textAt "stage_id"],
      firstText [body.textAt "role", body.textAt "role_name", event.actor.getD ""]])
    ownerMarkers.any fun marker => decide (marker.toList <:+: owner.toList)

def explicitStatuses : List (String × Status) :=
  [("rework.feedback.published", .published), ("rework.feedback.acknowledged", .acknowledged),
    ("rework.feedback.resolution_claimed", .resolutionClaimed),
    ("rework.feedback.verified_closed", .verifiedClosed),
    ("rework.feedback.residual", .residual), ("rework.feedback.rerouted", .rerouted)]

def explicitFeedbackStatus (eventType : String) : Option Status :=
  Dict.find eventType explicitStatuses

/-- The log, the run under which it is reduced and the digest of legacy findings. -/
structure Scope where
  ledger : Log
  runId : String
  sha256 : String → String

/-- `_candidate_head_for_verification`. -/
def candidateHeadForVerification (events : Log) (event : ZfEvent) : String :=
  let targetRef := PyString.strip
    (firstText [event.body.textAt "target_ref", event.body.textAt "candidate_ref"])
  let generation := strippedAt event.body "task_map_generation"
  let runOf (other : ZfEvent) : String := PyString.strip (firstText
    [other.body.textAt "workflow_run_id", other.body.textAt "run_id",
      other.correlationId.getD ""])
  let differs (first second : String) : Bool := first ≠ "" && second ≠ "" && first ≠ second
  let heads := events.reverse.filterMap fun candidate =>
    if candidate.type ≠ "candidate.ready" then none
    else if differs (runOf event) (runOf candidate) then none
    else if differs generation (strippedAt candidate.body "task_map_generation") then none
    else if differs targetRef (strippedAt candidate.body "candidate_ref") then none
    else some (strippedAt candidate.body "candidate_head_commit")
  firstText heads

/-- The events up to the given one in the whole log; the last event of an id counts. -/
def bindingPrefix (ledger before : Log) (event : ZfEvent) : Log :=
  match (ledger.zipIdx.reverse.find? fun entry => entry.1.id == event.id && event.id != "") with
  | some (_, index) => ledger.take (index + 1)
  | none => before ++ [event]

/-- What a verification covers. -/
structure Verification where
  target : String
  integrated : Dict String (List String)
  taskIds : List String

/-- The commits of a task that the verification stands for. -/
def Verification.targets (verification : Verification) (taskId : String) : List String :=
  commitsOf verification.integrated taskId ++
    if verification.target = "" then [] else [verification.target]

def verificationTaskIds (event : ZfEvent) : List String :=
  (strings (event.body.get "task_ids") ++ [boundTaskId event,
    strippedAt (event.body.get "verification_result").objectOrEmpty "task_id"]).filter
      fun text => text ≠ ""

/-- The verification of an event; nothing when reading the candidates raises. -/
def verificationOf (scope : Scope) (before : Log) (event : ZfEvent) : Option Verification :=
  let payload := event.body
  let target := firstText
    [targetCommit payload, candidateHeadForVerification (before ++ [event]) event]
  let workflowId := PyString.strip (firstText [payload.textAt "workflow_run_id",
    payload.textAt "run_id", event.correlationId.getD "", scope.runId])
  let integrated := if target = "" ∨ workflowId = "" then some Dict.empty
    else candidateTaskIntegratedCommits (bindingPrefix scope.ledger before event) workflowId target
  integrated.map fun integrated =>
    { target := target
      integrated := integrated
      taskIds := Sorting.sortedSet (verificationTaskIds event ++ integrated.keys) }

def Finding.settle (finding : Finding) (status : Status) (event : ZfEvent) (commit : String) :
    Finding :=
  { finding with
    status := status
    lastEventId := event.id
    targetCommit := if commit = "" then finding.targetCommit else commit }

def setFindingStatus (handoff : Handoff) (status : Status) (event : ZfEvent) (commit : String)
    (findings : Dict String Finding) : Dict String Finding :=
  handoff.findingIds.foldl (fun findings findingId =>
    match findings.get? findingId with
    | none => findings
    | some finding =>
        if finding.requestEventId ≠ handoff.requestEventId then findings
        else findings.insert findingId (finding.settle status event commit)) findings

namespace Feedback

/-- Write a handoff back, and the status of its findings. -/
def put (feedback : Feedback) (key : String) (handoff : Handoff) (status : Status)
    (event : ZfEvent) (commit : String) : Feedback where
  handoffs := feedback.handoffs.insert key handoff
  findings := setFindingStatus handoff status event commit feedback.findings

def reviseEntry (event : ZfEvent) (commit : String) (revise : Handoff → Option Handoff)
    (current : Feedback) (entry : String × Handoff) : Feedback :=
  match revise entry.2 with
  | none => current
  | some handoff => current.put entry.1 handoff handoff.status event commit

/-- Go through the handoffs and write back those that are revised. -/
def reviseAll (feedback : Feedback) (event : ZfEvent) (commit : String)
    (revise : Handoff → Option Handoff) : Feedback :=
  feedback.handoffs.entries.foldl (reviseEntry event commit revise) feedback

def addFindings (feedback : Feedback) (handoff : Handoff) : Feedback where
  handoffs := feedback.handoffs.insert handoff.requestEventId handoff
  findings := feedback.findings.insertAll (handoff.findingIds.map fun findingId =>
    (findingId,
      { findingId := findingId
        feedbackId := handoff.feedbackId
        taskId := handoff.taskId
        requestEventId := handoff.requestEventId
        status := .published
        targetCommit := ""
        lastEventId := handoff.lastEventId }))

/-- A request closes what it supersedes and opens its own handoff. -/
def publish (feedback : Feedback) (event : ZfEvent) (request : Handoff) : Feedback :=
  (feedback.reviseAll event "" fun prior =>
    if prior.taskId = request.taskId ∧ prior.status.isOpen ∧ newReworkSupersedes prior request then
      some { prior with status := .superseded, lastEventId := event.id }
    else none).addFindings request

/-- `_latest_handoff`, with its key. -/
def latestHandoff (feedback : Feedback) (taskId : String) (status : Status) :
    Option (String × Handoff) :=
  feedback.handoffs.entries.reverse.find? fun entry =>
    decide (entry.2.taskId = taskId) && decide (entry.2.status = status)

end Feedback

/-- The handoff after a dispatch or a continuation. -/
def Handoff.deliver (handoff : Handoff) (event : ZfEvent) : Handoff :=
  { handoff with
    status := if handoff.status = .published then .acknowledged else handoff.status
    dispatchId := textOr event.body "dispatch_id" handoff.dispatchId
    deliveryMode := textOr event.body "delivery_mode" handoff.deliveryMode
    lastEventId := event.id }

namespace Reduction

def put (state : Reduction) (key : String) (handoff : Handoff) (status : Status)
    (event : ZfEvent) (commit : String) : Reduction :=
  { state with feedback := state.feedback.put key handoff status event commit }

def recordStale (state : Reduction) (event : ZfEvent) (handoff : Handoff) (reason : String) :
    Reduction :=
  { state with staleClaims := state.staleClaims ++
      [⟨event.id, event.type, handoff.taskId, handoff.requestEventId, reason⟩] }

def changeAttempt (state : Reduction) (taskId : String) (payload : Json)
    (change : Attempt → Attempt) : Reduction :=
  match state.attempts.get? taskId with
  | none => state
  | some attempt =>
      if dispatchMatches attempt payload then
        { state with attempts := state.attempts.insert taskId (change attempt) }
      else state

/-- A dispatch or a continuation acknowledges the handoff it names. -/
def deliver (state : Reduction) (event : ZfEvent) (request : String) : Reduction :=
  if event.type ∉ deliveryTypes ∨ request = "" then state
  else
    match state.feedback.handoffs.get? request with
    | none => state
    | some handoff => state.put request (handoff.deliver event) .acknowledged event ""

def startAttempt (state : Reduction) (event : ZfEvent) : Reduction :=
  let taskId := boundTaskId event
  if event.type ≠ "task.dispatched" ∨ taskId = "" then state
  else
    let attempt : Attempt :=
      { taskId := taskId
        dispatchId := textOr event.body "dispatch_id" event.id
        holder := textOr event.body "assignee" (event.body.textAt "role_instance")
        status := .active
        sourceEventId := event.id }
    { state with attempts := state.attempts.insert taskId attempt }

/-- A result claims the resolution of the latest acknowledged handoff of its task. -/
def claim (state : Reduction) (event : ZfEvent) : Reduction :=
  let taskId := boundTaskId event
  let commit := targetCommit event.body
  if event.type ∉ implSuccess ∨ taskId = "" then state
  else
    let claimed :=
      match state.feedback.latestHandoff taskId .acknowledged with
      | none => state
      | some (key, handoff) =>
          if commit = "" then state.recordStale event handoff "missing_target_commit"
          else if identityMatches handoff event.body true = false then
            state.recordStale event handoff "identity_mismatch"
          else
            state.put key { handoff with
              status := .resolutionClaimed
              targetCommit := commit
              evidenceRefs := strings (event.body.get "evidence_refs")
              lastEventId := event.id } .resolutionClaimed event commit
    claimed.changeAttempt taskId event.body fun attempt =>
      { attempt with status := .reported, resultEventId := event.id, targetCommit := commit }

def accept (state : Reduction) (event : ZfEvent) : Reduction :=
  let taskId := boundTaskId event
  if event.type ≠ "dispatch.terminal.recorded" ∨ taskId = "" then state
  else
    let result : AcceptedResult :=
      { taskId := taskId
        dispatchId := event.body.textAt "dispatch_id"
        eventType := event.body.textAt "event_type"
        resultEventId := textOr event.body "event_id" (event.causationId.getD "")
        recordEventId := event.id }
    let accepted := { state with acceptedResults := state.acceptedResults.insert taskId result }
    accepted.changeAttempt taskId event.body fun attempt =>
      { attempt with status := .accepted, acceptedEventId := event.id }

/-- An explicit feedback event writes the status it names. -/
def setExplicit (state : Reduction) (event : ZfEvent) (request : String) : Reduction :=
  match explicitFeedbackStatus event.type, state.feedback.handoffs.get? request with
  | some status, some handoff =>
      let commit := targetCommit event.body
      if request = "" then state
      else if status ∈ [.resolutionClaimed, .verifiedClosed] ∧
          (commit = "" ∨ identityMatches handoff event.body true = false) then
        state.recordStale event handoff "explicit_identity_mismatch"
      else
        let kept := firstText [commit, handoff.targetCommit]
        state.put request
          { handoff with status := status, targetCommit := kept, lastEventId := event.id }
          status event kept
  | _, _ => state

/-- Why a verification leaves a claimed handoff as it is. -/
def mismatch (verification : Verification) (handoff : Handoff) (payload : Json) : Option String :=
  if handoff.targetCommit ∉ verification.targets handoff.taskId then
    some "verification_target_mismatch"
  else if identityMatches handoff payload false = false then
    some "verification_identity_mismatch"
  else none

/-- The claimed handoffs of one task are closed, or stand in a list with the reason. -/
def claims (taskId : String) (handoff : Handoff) : Bool :=
  decide (handoff.taskId = taskId) && decide (handoff.status = .resolutionClaimed)

def closes (verification : Verification) (event : ZfEvent) (taskId : String)
    (handoff : Handoff) : Option Handoff :=
  if claims taskId handoff ∧ mismatch verification handoff event.body = none then
    some { handoff with status := .verifiedClosed, lastEventId := event.id }
  else none

def verifyTask (verification : Verification) (event : ZfEvent) (state : Reduction)
    (taskId : String) : Reduction :=
  { state with
    feedback := state.feedback.reviseAll event verification.target
      (closes verification event taskId)
    staleClaims := state.staleClaims ++
      (state.feedback.handoffs.values.filter (claims taskId)).filterMap fun handoff =>
        (mismatch verification handoff event.body).map fun reason =>
          ⟨event.id, event.type, handoff.taskId, handoff.requestEventId, reason⟩ }

/-- An independent verification that passed closes the handoffs whose claims it covers. -/
def verify (scope : Scope) (before : Log) (state : Reduction) (event : ZfEvent) :
    Option Reduction :=
  if event.type ∉ verifySuccess ∨ isIndependentVerification event = false ∨
      verificationPassed event.body = false then some state
  else
    (verificationOf scope before event).map fun verification =>
      verification.taskIds.foldl (verifyTask verification event) state

/-- An independent rejection of the claimed commit leaves a residual. -/
def reject (state : Reduction) (event : ZfEvent) : Reduction :=
  let commit := targetCommit event.body
  if event.type ∉ verifyFailure ∨ boundTaskId event = "" ∨
      isIndependentVerification event = false ∨ verificationRejected event.body = false then state
  else
    match state.feedback.latestHandoff (boundTaskId event) .resolutionClaimed with
    | none => state
    | some (key, handoff) =>
        if commit = "" ∨ commit ≠ handoff.targetCommit then state
        else state.put key { handoff with status := .residual, lastEventId := event.id }
          .residual event commit

/-- What every event notes first: the generation of its task. -/
def note (state : Reduction) (event : ZfEvent) : Reduction :=
  let taskId := boundTaskId event
  let generation := strippedAt event.body "task_map_generation"
  { state with
    generations :=
      if taskId = "" ∨ generation = "" then state.generations
      else state.generations.insert taskId generation }

end Reduction

/-- The event requests rework of a task. -/
def Requests (event : ZfEvent) : Prop :=
  event.type = "task.rework.requested" ∧ boundTaskId event ≠ ""

instance (event : ZfEvent) : Decidable (Requests event) := inferInstanceAs (Decidable (_ ∧ _))

/-- An event with this id was read before. -/
def Seen (before : Log) (event : ZfEvent) : Prop :=
  event.id ≠ "" ∧ event.id ∈ before.map ZfEvent.id

instance (before : Log) (event : ZfEvent) : Decidable (Seen before event) :=
  inferInstanceAs (Decidable (_ ∧ _))

/-- One turn of the loop; nothing when it raises. -/
def step (scope : Scope) (before : Log) (state : Reduction) (event : ZfEvent) :
    Option Reduction :=
  if Seen before event then some state
  else
    let noted := state.note event
    if Requests event then
      (event.body.get "attempt").intOrZero?.map fun attempt =>
        { noted with feedback :=
            noted.feedback.publish event (requestedHandoff scope.sha256 event attempt) }
    else
      let request := requestId event noted.feedback.handoffs
      let delivered := (noted.deliver event request).startAttempt event
      let reported := ((delivered.claim event).accept event).setExplicit event request
      (reported.verify scope before event).map fun verified => verified.reject event

def deliveryPhase (events : Log) (state : Reduction) : String :=
  let openStatuses := (state.feedback.findings.values.map Finding.status).filter Status.isOpen
  let pending := state.feedback.handoffs.values.filter fun handoff => handoff.status.isOpen
  let holds (types : List String) : Bool := events.any fun event => event.type ∈ types
  if holds ["ship.completed", "ship.done"] then "ship_delivered"
  else if holds ["run.goal.completed"] then "goal_completed"
  else if .residual ∈ openStatuses then "feedback_residual"
  else if .resolutionClaimed ∈ openStatuses then "feedback_resolution_claimed"
  else if .acknowledged ∈ openStatuses then "feedback_acknowledged"
  else if openStatuses ≠ [] then "feedback_published"
  else if pending ≠ [] then "handoff_pending"
  else if state.acceptedResults.values ≠ [] then "result_accepted"
  else if holds implSuccess then "result_reported"
  else if holds ["task.dispatched"] then "provider_running"
  else "not_started"

structure Snapshot where
  deliveryPhase : String
  openFeedback : List Finding
  pendingHandoffs : List Handoff
  handoffs : List Handoff
  activeAttempts : List Attempt
  acceptedResults : List AcceptedResult
  authoritativeGenerations : Dict String String
  staleClaims : List StaleClaim

/-- The events that are reduced. -/
def Scope.events (scope : Scope) : Log :=
  if scope.runId = "" then scope.ledger else eventsForRun scope.ledger scope.runId

/-- The state after some of the events. -/
def Scope.reduce (scope : Scope) (events : Log) : Option Reduction :=
  Replays.replay (step scope) {} events

def reduceAttemptHandoffs (scope : Scope) : Option Snapshot :=
  (scope.reduce scope.events).map fun state =>
    { deliveryPhase := deliveryPhase scope.events state
      openFeedback := state.feedback.findings.values.filter fun finding => finding.status.isOpen
      pendingHandoffs := state.feedback.handoffs.values.filter fun handoff => handoff.status.isOpen
      handoffs := state.feedback.handoffs.values
      activeAttempts := state.attempts.values
      acceptedResults := state.acceptedResults.values
      authoritativeGenerations := state.generations
      staleClaims := state.staleClaims }

end ZaofuFormal.Rework
