import ZaofuFormal.Tasks.AuthorityRuns
import ZaofuFormal.Workflow.RunScope

/-!
# Contract change requests

A role asks for another contract with a `task.contract.change.requested` event.
The authority answers it with a list of durable writes: the events of a replace
around its compare-and-update, or one rejection.  A crash keeps the first writes
of that list, and the same request event is then processed again.
-/

namespace ZaofuFormal.Tasks

open Foundation Foundation.Runs Workflow

/-- Where a sidecar was written, and its digest. -/
structure Descriptor where
  ref : String
  sha256 : String

/-- What the service works with: the hash of revisions, the event writer, the
digest-addressed sidecars and the actors that may ask for a change. -/
structure AuthorityService where
  hash : RevisionHash
  writer : Writer
  sidecar : Json → Descriptor
  allowedActors : List String

def mutationReceipt (request : ReplaceRequest) (update : ContractUpdate) : Json :=
  .obj [("schema_version", .str "task-contract-mutation.v1"), ("task_id", .str request.taskId),
    ("source", .str request.source), ("actor", .str request.actor),
    ("previous_authority_revision", .str request.expectedRevision),
    ("authority_revision", .str update.contractAuthorityRevision),
    ("authority_sequence", .int update.contractAuthoritySequence),
    ("contract", Json.ofDict update.contract),
    ("execution_binding", Json.ofDict update.executionBinding),
    ("task_updates", Json.ofDict update.taskUpdates),
    ("audit_payload", Json.ofDict request.auditPayload)]

def receiptPayload (request : ReplaceRequest) (update : ContractUpdate) (descriptor : Descriptor) :
    Record :=
  Dict.ofEntries [("source", .str request.source),
    ("previous_authority_revision", .str request.expectedRevision),
    ("contract_authority_revision", .str update.contractAuthorityRevision),
    ("contract_authority_sequence", .int update.contractAuthoritySequence),
    ("contract_mutation_ref", .str descriptor.ref),
    ("contract_mutation_digest", .str descriptor.sha256)]

def emit (type taskId : String) (payload : Record) (actor causationId correlationId : String) :
    Draft where
  type := type
  actor := some actor
  taskId := some taskId
  payload := Json.ofDict payload
  causationId := optional causationId
  correlationId := optional correlationId

/-- The event before the compare-and-update and the one after it. -/
def receiptDraft (type status : String) (request : ReplaceRequest) (update : ContractUpdate)
    (descriptor : Descriptor) (causationId : String) : Draft :=
  emit type request.taskId
    (((receiptPayload request update descriptor).update request.auditPayload).insert "status"
      (.str status))
    request.actor causationId request.correlationId

/-- The receipt for older queries. -/
def updateDraft (request : ReplaceRequest) (update : ContractUpdate) (descriptor : Descriptor)
    (causationId : String) : Draft :=
  emit "task.contract.update" request.taskId
    (Dict.update (Dict.ofEntries [("source", .str request.source),
      ("authority_receipt", .bool true), ("contract", Json.ofDict update.contract),
      ("contract_authority_revision", .str update.contractAuthorityRevision),
      ("contract_authority_sequence", .int update.contractAuthoritySequence),
      ("contract_mutation_ref", .str descriptor.ref),
      ("contract_mutation_digest", .str descriptor.sha256)]) request.auditPayload)
    request.actor causationId request.correlationId

/-- A refused replace does not name the request it was made for. -/
def rejectedDraft (request : ReplaceRequest) (actual causationId attempted : String)
    (descriptor : Option Descriptor) : Draft :=
  emit "task.contract.change.rejected" request.taskId
    (Dict.ofEntries [("source", .str request.source), ("reason", .str "stale_contract_authority"),
      ("expected_authority_revision", .str request.expectedRevision),
      ("current_authority_revision", .str actual),
      ("contract_authority_revision", .str attempted),
      ("contract_mutation_ref", .str ((descriptor.map Descriptor.ref).getD "")),
      ("contract_mutation_digest", .str ((descriptor.map Descriptor.sha256).getD ""))])
    request.actor causationId request.correlationId

/-- One durable write: an event, or an update of the task store. -/
inductive Write where
  | event (draft : Draft)
  | contract (update : ContractUpdate)
  | fields (taskId expected : String) (updates : Record)

def revisionOf (task : Option Record) : String := (task.map currentAuthorityRevision).getD ""

/-- What a replace writes, in order. -/
def replaceWrites (service : AuthorityService) (clock : Clock) (request : ReplaceRequest)
    (disk : Disk) (log : Log) : List Write :=
  match prepare service.hash clock request disk with
  | .error _ => []
  | .ok (.conflict actual) =>
      [.event (rejectedDraft request actual request.causationId "" none)]
  | .ok (.unchanged _ _) => []
  | .ok (.fields updates) =>
      .fields request.taskId request.expectedRevision updates ::
        match (compareAndUpdateFields clock request.taskId request.expectedRevision updates
          disk).1 with
        | .ok (some _, true) => []
        | .ok (task, _) =>
            [.event (rejectedDraft request (revisionOf task) request.causationId "" none)]
        | .error _ => []
  | .ok (.contract update) =>
      let descriptor := service.sidecar (mutationReceipt request update)
      -- the ids that the writer gives to the next two events
      let preparedId := (service.writer.stamp log.length).id
      let appliedId := (service.writer.stamp (log.length + 1)).id
      .event (receiptDraft "task.contract.mutation.prepared" "prepared" request update descriptor
        request.causationId) ::
      .contract update ::
        match (compareAndUpdateContract clock update disk).1 with
        | .ok (some _, true) =>
            [.event (receiptDraft "task.contract.revision.applied" "applied" request update
              descriptor preparedId),
              .event (updateDraft request update descriptor appliedId)]
        | .ok (task, _) =>
            [.event (rejectedDraft request (revisionOf task) preparedId
              update.contractAuthorityRevision (some descriptor))]
        | .error _ => []

inductive Outcome where
  | applied
  | rejected
  deriving DecidableEq

/-- The outcome that an event records for the request. -/
def outcomeOf (requestId : String) (event : ZfEvent) : Option Outcome :=
  if event.body.textAt "change_request_event_id" ≠ requestId then none
  else if event.type = "task.contract.revision.applied" then some .applied
  else if event.type = "task.contract.change.rejected" then some .rejected
  else none

/-- The latest outcome in the log. -/
def changeRequestOutcome (requestId : String) (log : Log) : Option Outcome :=
  if requestId = "" then none else log.reverse.findSome? (outcomeOf requestId)

def changeTaskId (event : ZfEvent) : String :=
  PyString.strip (firstText [event.taskId.getD "", event.body.textAt "task_id"])

def changeActor (event : ZfEvent) : String := PyString.strip (event.actor.getD "")

def changeSource (event : ZfEvent) : String :=
  PyString.strip (firstText [event.body.textAt "source", "agent_change_request"])

/-- Why a request is not even tried. -/
def changeRefusal (service : AuthorityService) (event : ZfEvent) (task : Option Record) :
    Option String :=
  let expected := strippedAt event.body "expected_authority_revision"
  match task with
  | none => some "task_not_found"
  | some task =>
      if changeActor event ∉ service.allowedActors then some "actor_not_authorized"
      else if ¬(event.body.get "contract").isObject then some "canonical_contract_required"
      else if currentAuthorityRevision task ≠ "" ∧ expected = "" then
        some "expected_authority_revision_required"
      else if expected ≠ currentAuthorityRevision task then some "stale_contract_authority"
      else none

def requestRejectedDraft (event : ZfEvent) (reason actual : String) : Draft :=
  emit "task.contract.change.rejected" (changeTaskId event)
    (Dict.ofEntries [("source", .str (changeSource event)), ("reason", .str reason),
      ("change_request_event_id", .str event.id),
      ("expected_authority_revision",
        .str (strippedAt event.body "expected_authority_revision")),
      ("current_authority_revision", .str actual)])
    "zf-cli" event.id (event.correlationId.getD "")

/-- The replace that a request asks for. -/
def changeReplace (event : ZfEvent) : ReplaceRequest where
  taskId := changeTaskId event
  expectedRevision := strippedAt event.body "expected_authority_revision"
  contract := .mapping (event.body.get "contract")
  executionBinding :=
    if (event.body.get "execution_binding").isObject then
      .mapping (event.body.get "execution_binding")
    else .absent
  source := changeSource event
  actor := changeActor event
  causationId := event.id
  correlationId := event.correlationId.getD ""
  auditPayload := Dict.ofEntries [("change_request_event_id", .str event.id),
    ("request_reason", .str (event.body.textAt "reason"))]
  mechanical := mechanical_empty

/-- What the processing of a request writes, in order. -/
def changeWrites (service : AuthorityService) (clock : Clock) (event : ZfEvent) (disk : Disk)
    (log : Log) : List Write :=
  match if changeTaskId event = "" then .ok none else get clock (changeTaskId event) disk with
  | .error _ => []
  | .ok task =>
      match changeRequestOutcome event.id log, task with
      | some .rejected, _ => []
      | some .applied, some _ => []
      | _, task =>
          match changeRefusal service event task with
          | some reason => [.event (requestRejectedDraft event reason (revisionOf task))]
          | none => replaceWrites service clock (changeReplace event) disk log

end ZaofuFormal.Tasks
