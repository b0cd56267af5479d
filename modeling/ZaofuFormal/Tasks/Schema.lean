import ZaofuFormal.Foundation.Json

/-!
# Task records

A stored task is a JSON object.  The dataclasses of the schema appear here as
tables of field names with their defaults, because the code that normalizes a
contract, fills a new task or rejects an unknown field walks over these tables.
-/

namespace ZaofuFormal.Tasks

open Foundation

abbrev Record := Dict String Json

/-- `record.get(key)`; a missing field reads as `null`. -/
def Record.get (record : Record) (key : String) : Json := (record.get? key).getD .null

inductive StoreError where
  | value (message : String)
  | type (message : String)
  | key (name : String)
  deriving DecidableEq

/-- The name that a pair of `dict` gets once it is written as a JSON key. -/
def jsonKey? : Json → Option String
  | .null => some "null"
  | .bool value => some (if value then "true" else "false")
  | .int value => some (toString value)
  | .float _ text => some text
  | .str value => some value
  | _ => none

/-- One element of a sequence of key-value pairs. -/
def pair? : Json → Option (String × Json)
  | .arr [key, value] => (jsonKey? key).map fun name => (name, value)
  | .str text =>
      match text.toList with
      | [key, value] => some (String.ofList [key], .str (String.ofList [value]))
      | _ => none
  | _ => none

/-- `dict(value or {})` for a decoded value. -/
def dictOf (value : Json) : Except StoreError Record :=
  if !value.truthy then .ok Dict.empty
  else
    match value with
    | .obj fields => .ok (Dict.ofEntries fields)
    | .arr items =>
        match items.mapM pair? with
        | some pairs => .ok (Dict.ofEntries pairs)
        | none => .error (.value "dictionary update sequence element is not a pair")
    | .str _ => .error (.value "dictionary update sequence element is not a pair")
    | _ => .error (.type "object is not iterable")

/-- Every field of `TaskContract` with its default. -/
def contractFields : List (String × Json) :=
  [("schema_version", .str ""), ("locale", .str ""), ("feature_id", .str ""),
    ("parent_task_id", .str ""), ("campaign", .str ""), ("phase", .str ""),
    ("source_backlog_task_id", .str ""), ("behavior", .str ""), ("verification", .str ""),
    ("verification_tiers", .arr []), ("validation", .obj []), ("spec_ref", .str ""),
    ("plan_ref", .str ""), ("tdd_ref", .str ""), ("critic_gate_ref", .str ""),
    ("critic_event_id", .str ""), ("critic_dispatch_id", .str ""),
    ("reviewed_arch_event_id", .str ""), ("source_arch_dispatch_id", .str ""),
    ("dispatch_id", .str ""), ("dispatch_id_requirement", .str ""),
    ("canonical_case_id", .str ""), ("case_alias", .str ""), ("canonical_behavior_test", .str ""),
    ("package_namespace", .str ""), ("scope", .arr []), ("affected_files", .arr []),
    ("exclusions", .arr []), ("explicit_non_goals", .arr []), ("acceptance", .str "exit_code=0"),
    ("evidence_contract", .obj []), ("complexity", .str ""), ("review_route", .obj []),
    ("owner_role", .str ""), ("owner_instance", .str ""), ("wave", .int 0),
    ("shared_files", .arr []), ("exclusive_files", .arr []), ("handoff_artifacts", .arr []),
    ("task_doc_ref", .str ""), ("source_doc_ref", .str ""), ("progress_doc_ref", .str ""),
    ("evidence_doc_ref", .str ""), ("source_revision", .str ""), ("contract_revision", .str ""),
    ("capsule_revision", .str ""), ("source_key", .str ""), ("source_ref", .str ""),
    ("source_task_id", .str ""), ("source_index_ref", .str ""), ("source_mode", .str ""),
    ("source_title", .str ""), ("source_excerpt", .str ""), ("product_contract_ref", .str ""),
    ("spec_skip_reason", .str ""), ("unknowns", .arr []), ("review_profile", .str ""),
    ("execution_profile_id", .str ""), ("execution_profile_digest", .str ""),
    ("risk_class", .str ""), ("integration_admission_profile", .str ""), ("rework_to", .str ""),
    ("fanout_force", .bool false), ("fix_of", .str ""), ("acceptance_criteria", .arr []),
    ("acceptance_evidence", .obj []), ("goal_claim_ids", .arr []),
    ("quality_gates_override", .obj [])]

def trimmedItems (items : List String) : List Json :=
  ((items.map PyString.strip).filter (· ≠ "")).map .str

/-- The normal form of one contract field; the default decides its kind. -/
def normalizeContractField (name : String) (default raw : Json) : Json :=
  match default with
  | .arr _ =>
      if name = "acceptance_criteria" then
        match raw with
        | .arr items => .arr (items.filter fun item => item ≠ .null ∧ item ≠ .str "")
        | _ => .arr []
      else
        match raw with
        | .arr items => .arr (trimmedItems (items.map Json.pyStr))
        | .str text => .arr (trimmedItems (PyString.splitOn ',' text))
        | _ => .arr []
  | .obj _ =>
      match raw with
      | .obj fields => .obj fields
      | _ => .obj []
  | .bool _ =>
      match raw with
      | .str text =>
          .bool (decide (PyString.lowerAscii (PyString.strip text) ∈ ["1", "true", "yes", "on"]))
      | value => .bool value.truthy
  | .int fallback => .int (raw.int?.getD fallback)
  | fallback => .str (if raw.truthy then raw.pyStr else fallback.pyStr)

/-- Materialize every known contract field; unknown ones are dropped. -/
def taskContractFromMapping (value : Json) : Record :=
  Dict.ofEntries <| contractFields.map fun field =>
    match Dict.find field.1 value.fields with
    | none => field
    | some raw => (field.1, normalizeContractField field.1 field.2 raw)

def contractMetadataFields : List String :=
  ["task_doc_ref", "source_doc_ref", "progress_doc_ref", "evidence_doc_ref", "source_revision",
    "contract_revision", "capsule_revision", "acceptance_evidence"]

def bindingFields : List (String × Json) :=
  [("owner", .str ""), ("request_id", .str ""), ("request_revision", .int 0),
    ("workflow_run_id", .str ""), ("origin_binding_digest", .str ""),
    ("origin_task_digest", .str "")]

def evidenceFields : List (String × Json) :=
  [("commit", .str ""), ("output_summary", .str ""), ("verified_at", .str ""),
    ("commits", .arr []), ("files_touched", .arr [])]

/-- Call a dataclass constructor with keyword arguments: unknown names are
rejected and missing ones take their defaults. -/
def construct (className : String) (defaults : List (String × Json))
    (arguments : List (String × Json)) : Except StoreError Record :=
  match arguments.find? fun argument => !decide (argument.1 ∈ defaults.map Prod.fst) with
  | some argument => .error (.type (className ++
      ".__init__() got an unexpected keyword argument " ++ Json.reprString argument.1))
  | none => .ok ((Dict.ofEntries defaults).insertAll arguments)

/-- Values that the default factories and the calendar supply to one call. -/
structure Clock where
  today : String
  now : String
  newTaskId : String

def taskDefaults (clock : Clock) : List (String × Json) :=
  [("title", .str ""), ("id", .str clock.newTaskId), ("key", .str ""),
    ("status", .str "backlog"), ("priority", .int 3), ("assigned_to", .null),
    ("skills_required", .arr []), ("blocked_by", .arr []),
    ("contract", .obj contractFields), ("execution_binding", .obj bindingFields),
    ("contract_authority_revision", .str ""), ("contract_authority_sequence", .int 0),
    ("evidence", .null), ("created_at", .str clock.now), ("dispatched_at", .null),
    ("started_at", .null), ("completed_at", .null), ("cancelled_at", .null),
    ("active_dispatch_id", .str ""), ("retry_count", .int 0), ("blocked_reason", .str "")]

/-- A task that a caller hands over; `asdict` is its record. -/
structure Task where
  title : String := ""
  id : String
  key : String := ""
  status : String := "backlog"
  priority : Int := 3
  assignedTo : Option String := none
  skillsRequired : List String := []
  blockedBy : List String := []
  contract : Record := Dict.ofEntries contractFields
  executionBinding : Record := Dict.ofEntries bindingFields
  contractAuthorityRevision : String := ""
  contractAuthoritySequence : Int := 0
  evidence : Option Record := none
  createdAt : String := ""
  dispatchedAt : Option String := none
  startedAt : Option String := none
  completedAt : Option String := none
  cancelledAt : Option String := none
  activeDispatchId : String := ""
  retryCount : Int := 0
  blockedReason : String := ""

def optionalText : Option String → Json
  | none => .null
  | some text => .str text

def taskEntries (task : Task) : List (String × Json) :=
  [("title", .str task.title), ("id", .str task.id), ("key", .str task.key),
    ("status", .str task.status), ("priority", .int task.priority),
    ("assigned_to", optionalText task.assignedTo),
    ("skills_required", .arr (task.skillsRequired.map .str)),
    ("blocked_by", .arr (task.blockedBy.map .str)),
    ("contract", Json.ofDict task.contract),
    ("execution_binding", Json.ofDict task.executionBinding),
    ("contract_authority_revision", .str task.contractAuthorityRevision),
    ("contract_authority_sequence", .int task.contractAuthoritySequence),
    ("evidence", (task.evidence.map Json.ofDict).getD .null),
    ("created_at", .str task.createdAt), ("dispatched_at", optionalText task.dispatchedAt),
    ("started_at", optionalText task.startedAt),
    ("completed_at", optionalText task.completedAt),
    ("cancelled_at", optionalText task.cancelledAt),
    ("active_dispatch_id", .str task.activeDispatchId), ("retry_count", .int task.retryCount),
    ("blocked_reason", .str task.blockedReason)]

def asdict (task : Task) : Record := Dict.ofEntries (taskEntries task)

/-- Rebuild a task from its record: the contract is normalized, and fields that
the dataclasses do not know are rejected. -/
def toTask (clock : Clock) (data : Record) : Except StoreError Record := do
  let contract := taskContractFromMapping (data.get "contract")
  let binding ←
    match data.get "execution_binding" with
    | .obj fields => construct "TaskExecutionBinding" bindingFields fields
    | _ => .ok (Dict.ofEntries bindingFields)
  let evidence ←
    match data.get "evidence" with
    | .obj fields =>
        if fields = [] then .ok Json.null
        else (construct "TaskEvidence" evidenceFields fields).map Json.ofDict
    | value =>
        if value.truthy then .error (.type "argument after ** must be a mapping")
        else .ok Json.null
  let plain := ((data.erase "contract").erase "execution_binding").erase "evidence"
  construct "Task" (taskDefaults clock) (plain.entries ++
    [("contract", Json.ofDict contract), ("execution_binding", Json.ofDict binding),
      ("evidence", evidence)])

end ZaofuFormal.Tasks
