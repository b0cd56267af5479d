import ZaofuFormal.Foundation.JsonText
import ZaofuFormal.Workflow.RunScope

/-!
# Dependency barriers

A stage with several dependencies starts when its barrier is satisfied.  The
verdicts are derived from the whole log: the dependency events are grouped by
run and generation, and a verdict is returned unless the log already records
one like it.  A barrier event whose `source_event_ids` is no list is read as
one without sources.
-/

namespace ZaofuFormal.Workflow

open Foundation

/-- The escape of one UTF-16 code unit. -/
def escapeUnit (unit : Nat) : List Char :=
  [Json.backslash, 'u', Json.hexDigit (unit / 4096), Json.hexDigit (unit / 256 % 16),
    Json.hexDigit (unit / 16 % 16), Json.hexDigit (unit % 16)]

/-- Printable ASCII as it is, every other code point by its code units. -/
def escapeAscii (char : Char) : List Char :=
  if 32 ≤ char.toNat ∧ char.toNat < 127 then [char]
  else if char.toNat < 65536 then escapeUnit char.toNat
  else escapeUnit (55296 + (char.toNat - 65536) / 1024) ++
    escapeUnit (56320 + (char.toNat - 65536) % 1024)

/-- `json.dumps(value, ensure_ascii=True, sort_keys=True, separators=(",", ":"))`. -/
def stableJson (value : Json) : String :=
  String.ofList ((JsonText.dumps value).flatMap escapeAscii)

/-- `hashlib.sha256(text).hexdigest()`: hexadecimal digits, at least one of them. -/
structure Sha256 where
  hexdigest : String → String
  filled : ∀ text, hexdigest text ≠ ""
  trimmed : ∀ text, PyString.strip (hexdigest text) = hexdigest text

def stableDigest (sha256 : Sha256) (value : Json) : String := sha256.hexdigest (stableJson value)

def generationFields : List String :=
  ["workflow_generation", "task_map_generation", "request_revision", "run_contract_digest",
    "generic_workflow_contract_digest"]

def propagatedFields : List String :=
  ["workflow_run_id", "run_id", "request_id", "flow_kind", "request_kind", "workflow_generation",
    "task_map_generation", "request_revision", "workflow_template", "completion_profile",
    "generic_workflow_contract_digest", "goal_id", "workflow_intent",
    "required_delivery_artifacts", "goal_claim_set_ref", "goal_claim_set_digest",
    "run_contract_ref", "run_contract_digest", "workflow_proposal_ref",
    "workflow_proposal_digest", "effective_config_ref", "effective_config_digest",
    "requirement_spec_ref", "requirement_spec_digest"]

def propagatedRefFields : List String :=
  ["artifact_refs", "evidence_refs", "input_refs", "input_result_refs"]

/-- `value in (None, "", [], {})`. -/
def isVacant (value : Json) : Bool :=
  decide (value ∈ [Json.null, .str "", .arr [], .obj []])

def generationKey (sha256 : Sha256) (payload : Json) : String :=
  let identity := (generationFields.map fun key => (key, strippedAt payload key)).filter
    fun field => decide (field.2 ≠ "")
  let identity := if identity = [] then [("generation", "legacy")] else identity
  stableDigest sha256 (.obj (identity.map fun field => (field.1, .str field.2)))

def identityPayload (event : ZfEvent) : List (String × Json) :=
  (propagatedFields.map fun key => (key, event.body.get key)).filter fun field =>
    !isVacant field.2

def normalizedRef : Json → Option Json
  | .obj fields =>
      let value := Json.obj fields
      if PyString.strip (firstText [value.textAt "path", value.textAt "ref"]) = "" then none
      else some (.obj (fields.filter fun field => !isVacant field.2))
  | value =>
      let ref := PyString.strip value.text
      if ref = "" then none else some (.str ref)

/-- The references that one event lists under a field. -/
def listedRefs (field : String) (event : ZfEvent) : List Json :=
  match event.body.get field with
  | .arr items => items.filterMap normalizedRef
  | _ => []

/-- The items whose stable text no earlier item has. -/
def distinctRefs (refs : List Json) : List Json :=
  refs.foldl (fun kept ref =>
    if stableJson ref ∈ kept.map stableJson then kept else kept ++ [ref]) []

abbrev PropagatedRefs := List (String × List Json)

def propagatedRefs (events : List ZfEvent) : PropagatedRefs :=
  (propagatedRefFields.map fun field =>
    (field, distinctRefs (events.flatMap (listedRefs field)))).filter fun entry =>
      decide (entry.2 ≠ [])

def PropagatedRefs.fields (refs : PropagatedRefs) : List (String × Json) :=
  refs.map fun entry => (entry.1, .arr entry.2)

def PropagatedRefs.isSubset (candidate existing : PropagatedRefs) : Bool :=
  candidate.all fun entry => entry.2.all fun ref =>
    decide (stableJson ref ∈ ((Dict.find entry.1 existing).getD []).map stableJson)

def satisfiedEvent : String := "workflow.dependency_barrier.satisfied"

def blockedEvent : String := "workflow.dependency_barrier.blocked"

structure WorkflowStageConfig where
  id : String := ""
  dependencies : List String := []
  dependencyEvents : List String := []
  dependencyFailureEvents : List String := []
  dependencyBarrierId : String := ""
  dependencyBarrierDigest : String := ""

/-- The barrier of a stage that has one. -/
structure Barrier where
  stageId : String
  barrierId : String
  barrierDigest : String
  dependencies : List String
  requiredEvents : List String
  failureEvents : List String
  named : barrierId ≠ "" ∧ barrierDigest ≠ ""
  joins : 2 ≤ requiredEvents.length
  aligned : requiredEvents.length = failureEvents.length

def filledTexts (texts : List String) : List String :=
  texts.filter fun text => !PyString.isBlank text

def WorkflowStageConfig.barrier? (stage : WorkflowStageConfig) : Option Barrier :=
  let barrierId := PyString.strip stage.dependencyBarrierId
  let barrierDigest := PyString.strip stage.dependencyBarrierDigest
  let requiredEvents := filledTexts stage.dependencyEvents
  let failureEvents := filledTexts stage.dependencyFailureEvents
  if complete : (barrierId ≠ "" ∧ barrierDigest ≠ "") ∧ 2 ≤ requiredEvents.length ∧
      requiredEvents.length = failureEvents.length then
    some {
      stageId := stage.id
      barrierId
      barrierDigest
      dependencies := stage.dependencies
      requiredEvents
      failureEvents
      named := complete.1
      joins := complete.2.1
      aligned := complete.2.2 }
  else none

def IsBarrierEvent (event : ZfEvent) : Prop := event.type ∈ [satisfiedEvent, blockedEvent]

instance (event : ZfEvent) : Decidable (IsBarrierEvent event) :=
  inferInstanceAs (Decidable (_ ∈ _))

/-- The run and the generation that a dependency event belongs to. -/
abbrev Group := String × String

/-- The group of a barrier event that is about this barrier. -/
def Barrier.recordedGroup (barrier : Barrier) (event : ZfEvent) : Option Group :=
  let payload := event.body
  if payload.textAt "barrier_id" ≠ barrier.barrierId ∨
      payload.textAt "barrier_digest" ≠ barrier.barrierDigest then none
  else
    let run := strippedAt payload "workflow_run_id"
    let generation := strippedAt payload "generation_key"
    if run = "" ∨ generation = "" then none else some (run, generation)

/-- What a recorded satisfaction settles. -/
structure Settlement where
  group : Group
  sourceFingerprint : String
  propagationDigest : String
  refs : PropagatedRefs

/-- A number for `source_event_ids`, for which the code raises, counts as no ids. -/
def Barrier.settlement? (sha256 : Sha256) (barrier : Barrier) (event : ZfEvent) :
    Option Settlement :=
  if event.type ≠ satisfiedEvent then none
  else
    (barrier.recordedGroup event).map fun group =>
      let payload := event.body
      let refs := propagatedRefs [event]
      let sources := ((payload.get "source_event_ids").list?).getD []
      { group
        sourceFingerprint :=
          firstText [strippedAt payload "source_fingerprint", stableDigest sha256 (.arr sources)]
        propagationDigest := firstText [strippedAt payload "propagation_digest",
          stableDigest sha256 (.obj refs.fields)]
        refs }

/-- The group and the fingerprint of a recorded block. -/
def Barrier.block? (barrier : Barrier) (event : ZfEvent) : Option (Group × String) :=
  if event.type ≠ blockedEvent then none
  else (barrier.recordedGroup event).map fun group =>
    (group, event.body.textAt "source_fingerprint")

/-- The event is one that the barrier waits for. -/
def Barrier.Concerns (barrier : Barrier) (event : ZfEvent) : Prop :=
  ¬IsBarrierEvent event ∧
    (event.type ∈ barrier.requiredEvents ∨ event.type ∈ barrier.failureEvents) ∧
    PyString.lowerWord (strippedAt event.body "flow_kind") ∈ ["", "workflow"]

instance (barrier : Barrier) (event : ZfEvent) : Decidable (barrier.Concerns event) :=
  inferInstanceAs (Decidable (_ ∧ _ ∧ _))

/-- What the grouping of the events depends on. -/
structure RunView where
  aliases : Dict String String
  singletonRun : String

def runViewOf (log : Log) : RunView :=
  let aliases := runAliases log
  { aliases
    singletonRun :=
      match aliases.values.eraseDups with
      | [run] => run
      | _ => "" }

/-- The group of a dependency event, when its run is known. -/
def RunView.group? (view : RunView) (sha256 : Sha256) (event : ZfEvent) : Option Group :=
  let run := firstText [eventRunId view.aliases event, view.singletonRun]
  if run = "" then none else some (run, generationKey sha256 event.body)

/-- The dependency events of one group, in log order. -/
def Barrier.scopedEvents (barrier : Barrier) (sha256 : Sha256) (view : RunView) (log : Log)
    (group : Group) : Log :=
  log.filter fun event =>
    decide (barrier.Concerns event ∧ view.group? sha256 event = some group)

/-- The groups of a log in the order of their names. -/
def Barrier.groups (barrier : Barrier) (sha256 : Sha256) (view : RunView) (log : Log) :
    List Group :=
  (Sorting.sortedSet (((log.filter fun event => decide (barrier.Concerns event)).filterMap
    (view.group? sha256)).map toLex)).map ofLex

/-- The last event of either type, which decides a dependency. -/
def latestOf (success failure : String) (grouped : Log) : Option ZfEvent :=
  (grouped.filter fun event => decide (event.type = success ∨ event.type = failure)).getLast?

/-- What the scoped events say about one dependency. -/
inductive Standing where
  | pending
  | succeeded (event : ZfEvent)
  | failed (event : ZfEvent)

def standing (grouped : Log) (success failure : String) : Standing :=
  match latestOf success failure grouped with
  | none => .pending
  | some event => if event.type = success then .succeeded event else .failed event

def Standing.success? : Standing → Option ZfEvent
  | .succeeded event => some event
  | _ => none

def Standing.failure? : Standing → Option ZfEvent
  | .failed event => some event
  | _ => none

def Barrier.standings (barrier : Barrier) (grouped : Log) : List Standing :=
  (barrier.requiredEvents.zip barrier.failureEvents).map fun dependency =>
    standing grouped dependency.1 dependency.2

def Barrier.selected (barrier : Barrier) (grouped : Log) : List ZfEvent :=
  (barrier.standings grouped).filterMap Standing.success?

def Barrier.failed (barrier : Barrier) (grouped : Log) : List ZfEvent :=
  (barrier.standings grouped).filterMap Standing.failure?

structure DependencyBarrierDecision where
  eventType : String
  payload : Dict String Json
  causationId : String
  correlationId : String

def DependencyBarrierDecision.toEvent (decision : DependencyBarrierDecision) : Draft where
  type := decision.eventType
  actor := some "orchestrator"
  payload := Json.ofDict decision.payload
  causationId := optional decision.causationId
  correlationId := optional decision.correlationId

def idsJson (events : List ZfEvent) : Json := .arr (events.map fun event => .str event.id)

def textsJson (texts : List String) : Json := .arr (texts.map Json.str)

/-- The fields that both verdicts write over the identity of their source. -/
def Barrier.verdictFields (barrier : Barrier) (group : Group) : List (String × Json) :=
  [("flow_kind", .str "workflow"), ("workflow_run_id", .str group.1),
    ("stage_id", .str barrier.stageId), ("barrier_id", .str barrier.barrierId),
    ("barrier_digest", .str barrier.barrierDigest), ("generation_key", .str group.2),
    ("dependencies", textsJson barrier.dependencies),
    ("required_events", textsJson barrier.requiredEvents)]

def Barrier.dependencySources (barrier : Barrier) (selected : List ZfEvent) : List Json :=
  selected.mapIdx fun index event =>
    let required := (barrier.requiredEvents[index]?).getD ""
    .obj ([("dependency", .str ((barrier.dependencies[index]?).getD required)),
      ("event_type", .str required), ("event_id", .str event.id)] ++
        (propagatedRefs [event]).fields)

def Barrier.blockedFields (barrier : Barrier) (sha256 : Sha256) (group : Group)
    (failed : List ZfEvent) : List (String × Json) :=
  barrier.verdictFields group ++
    [("failure_events", textsJson barrier.failureEvents), ("failed_event_ids", idsJson failed),
      ("source_fingerprint", .str (stableDigest sha256 (idsJson failed))),
      ("reason", .str "dependency_failed")]

/-- The verdict that some dependencies failed; `source` is the last failure. -/
def Barrier.blocked (barrier : Barrier) (sha256 : Sha256) (group : Group)
    (failed : List ZfEvent) (source : ZfEvent) : DependencyBarrierDecision where
  eventType := blockedEvent
  payload := (Dict.ofEntries (identityPayload source)).insertAll
    (barrier.blockedFields sha256 group failed)
  causationId := source.id
  correlationId := group.1

def Barrier.satisfiedFields (barrier : Barrier) (sha256 : Sha256) (group : Group)
    (selected : List ZfEvent) : List (String × Json) :=
  barrier.verdictFields group ++
    [("source_event_ids", idsJson selected),
      ("source_fingerprint", .str (stableDigest sha256 (idsJson selected))),
      ("propagation_digest",
        .str (stableDigest sha256 (.obj (propagatedRefs selected).fields))),
      ("dependency_sources", .arr (barrier.dependencySources selected))]

/-- The verdict that every dependency succeeded; `source` is the success of the last one. -/
def Barrier.satisfied (barrier : Barrier) (sha256 : Sha256) (group : Group)
    (selected : List ZfEvent) (source : ZfEvent) : DependencyBarrierDecision where
  eventType := satisfiedEvent
  payload := ((Dict.ofEntries (identityPayload source)).insertAll
    (propagatedRefs selected).fields).insertAll (barrier.satisfiedFields sha256 group selected)
  causationId := source.id
  correlationId := group.1

/-- The log records a block of the group for these failures. -/
def Barrier.BlockRecorded (barrier : Barrier) (sha256 : Sha256) (log : Log) (group : Group)
    (failed : List ZfEvent) : Prop :=
  (group, stableDigest sha256 (idsJson failed)) ∈ log.filterMap barrier.block?

instance (barrier : Barrier) (sha256 : Sha256) (log : Log) (group : Group)
    (failed : List ZfEvent) : Decidable (barrier.BlockRecorded sha256 log group failed) :=
  inferInstanceAs (Decidable (_ ∈ _))

/-- An earlier satisfaction of the group propagates the references of these successes. -/
def Barrier.Settled (barrier : Barrier) (sha256 : Sha256) (log : Log) (group : Group)
    (selected : List ZfEvent) : Prop :=
  ∃ settlement ∈ log.filterMap (barrier.settlement? sha256), settlement.group = group ∧
    (settlement.propagationDigest = stableDigest sha256 (.obj (propagatedRefs selected).fields) ∨
      (propagatedRefs selected).isSubset settlement.refs = true)

instance (barrier : Barrier) (sha256 : Sha256) (log : Log) (group : Group)
    (selected : List ZfEvent) : Decidable (barrier.Settled sha256 log group selected) :=
  inferInstanceAs (Decidable (∃ _ ∈ _, _))

/-- The verdict on one group, unless it is pending or recorded. -/
def Barrier.verdict? (barrier : Barrier) (sha256 : Sha256) (log : Log) (view : RunView)
    (group : Group) : Option DependencyBarrierDecision :=
  let grouped := barrier.scopedEvents sha256 view log group
  let failed := barrier.failed grouped
  let selected := barrier.selected grouped
  match failed.getLast? with
  | some source =>
      if barrier.BlockRecorded sha256 log group failed then none
      else some (barrier.blocked sha256 group failed source)
  | none =>
      if selected.length ≠ barrier.requiredEvents.length ∨
          barrier.Settled sha256 log group selected then none
      else selected.getLast?.map (barrier.satisfied sha256 group selected)

def reconcileStage (sha256 : Sha256) (log : Log) (view : RunView) (barrier : Barrier) :
    List DependencyBarrierDecision :=
  (barrier.groups sha256 view log).filterMap (barrier.verdict? sha256 log view)

/-- Derive the new verdicts of every barrier from the log. -/
def reconcileDependencyBarriers (sha256 : Sha256) (stages : List WorkflowStageConfig)
    (log : Log) : List DependencyBarrierDecision :=
  (stages.filterMap WorkflowStageConfig.barrier?).flatMap
    (reconcileStage sha256 log (runViewOf log))

/-- Append the events of the decisions in order. -/
def appendDecisions (writer : Writer) (decisions : List DependencyBarrierDecision) (log : Log) :
    Log :=
  decisions.foldl (fun log decision => (writer.append decision.toEvent log).2) log

end ZaofuFormal.Workflow
