import ZaofuFormal.Tasks.Store

/-!
# The contract authority

Models of `zf/core/task/authority.py` and of the replace operation of
`zf/runtime/task_contract_authority.py`.  A replace reads the task, prepares the
whole contract from what it read, and writes it through the compare-and-update
operation of the store.  The two halves are `prepare` and `finish`; other clients
may act on the store between them.

The revision of a contract is a truncated hash of its semantic content and its
sequence number.  The hash is a parameter that tells sequence numbers apart.
-/

namespace ZaofuFormal.Tasks

open Foundation

/-- The mirrors of the execution binding in `evidence_contract`. -/
def executionBindingEvidenceFields : List String :=
  ["execution_owner", "workflow_request_id", "workflow_request_revision", "workflow_run_id",
    "workflow_origin_binding_digest", "workflow_origin_task_digest"]

def withoutExecutionBindingEvidence (evidence : Json) : Json :=
  .obj (evidence.fields.filter fun entry =>
    !decide (entry.1 ∈ executionBindingEvidenceFields))

/-- The contract without its metadata fields and binding mirrors. -/
def contractAuthorityPayload (contract : Record) : Record :=
  let payload : Record := contractMetadataFields.foldl Dict.erase contract
  payload.insert "evidence_contract"
    (withoutExecutionBindingEvidence (payload.get "evidence_contract"))

/-- A hash of authority payloads that is injective at least in the sequence. -/
structure RevisionHash where
  digest : Json → String
  separates : ∀ {first second : Json} {sequence later : Int},
    first.get "sequence" = .int sequence → second.get "sequence" = .int later →
    digest first = digest second → sequence = later

def authorityPayload (taskId : String) (contract executionBinding : Record) (sequence : Int) :
    Json :=
  .obj [("task_id", .str taskId), ("sequence", .int sequence),
    ("contract", Json.ofDict (contractAuthorityPayload contract)),
    ("execution_binding", Json.ofDict executionBinding)]

def authorityRevisionFor (hash : RevisionHash) (taskId : String)
    (contract executionBinding : Record) (sequence : Int) : String :=
  "authority-r" ++ hash.digest (authorityPayload taskId contract executionBinding sequence)

theorem authorityRevisionFor_ne_empty (hash : RevisionHash) (taskId : String)
    (contract executionBinding : Record) (sequence : Int) :
    authorityRevisionFor hash taskId contract executionBinding sequence ≠ "" := by
  intro empty
  have chars := congrArg String.toList empty
  rw [authorityRevisionFor, String.toList_append] at chars
  simp at chars

/-- A revision determines the sequence number it was made with. -/
theorem authorityRevisionFor_sequence {hash : RevisionHash} {taskId other : String}
    {contract binding otherContract otherBinding : Record} {sequence later : Int}
    (same : authorityRevisionFor hash taskId contract binding sequence =
      authorityRevisionFor hash other otherContract otherBinding later) : sequence = later := by
  have chars := congrArg String.toList same
  simp only [authorityRevisionFor, String.toList_append, List.append_cancel_left_eq] at chars
  exact hash.separates rfl rfl (String.toList_injective chars)

def recordOf (value : Json) : Record := Dict.ofEntries value.fields

/-- The first-class binding, or the one that an old task mirrors in its evidence. -/
def taskExecutionBinding (task : Record) : Record :=
  let binding := task.get "execution_binding"
  let evidence := ((task.get "contract").get "evidence_contract").objectOrEmpty
  let mirrored (key : String) : Json := .str (PyString.strip (evidence.textAt key))
  if (bindingFields.map Prod.fst).any fun key => (binding.get key).truthy then recordOf binding
  else Dict.ofEntries
    [("owner", mirrored "execution_owner"), ("request_id", mirrored "workflow_request_id"),
      ("request_revision", .int ((evidence.get "workflow_request_revision").intOrZero?.getD 0)),
      ("workflow_run_id", mirrored "workflow_run_id"),
      ("origin_binding_digest", mirrored "workflow_origin_binding_digest"),
      ("origin_task_digest", mirrored "workflow_origin_task_digest")]

/-- The binding that a caller passes: none, a binding, or a mapping. -/
inductive BindingArgument where
  | absent
  | binding (value : Record)
  | mapping (value : Json)

def BindingArgument.resolve (argument : BindingArgument) (current : Record) : Record :=
  match argument with
  | .absent => taskExecutionBinding current
  | .binding value => value
  | .mapping value => (Dict.ofEntries bindingFields).insertAll
      (value.fields.filter fun entry => decide (entry.1 ∈ bindingFields.map Prod.fst))

/-- Rewrite the mirrors in `evidence_contract` from the binding. -/
def mirrorLegacyBinding (contract binding : Record) : Record :=
  let evidence := recordOf (contract.get "evidence_contract")
  let cleared : Record := executionBindingEvidenceFields.foldl Dict.erase evidence
  let mirror (key field : String) (evidence : Record) : Record :=
    if (binding.get field).truthy then evidence.insert key (binding.get field) else evidence
  let requested : Record :=
    if (binding.get "request_id").truthy then
      ((mirror "execution_owner" "owner" cleared).insert "workflow_request_id"
        (binding.get "request_id")).insert "workflow_request_revision"
        (binding.get "request_revision")
    else mirror "execution_owner" "owner" cleared
  let mirrored := mirror "workflow_origin_task_digest" "origin_task_digest"
    (mirror "workflow_origin_binding_digest" "origin_binding_digest"
      (mirror "workflow_run_id" "workflow_run_id" requested))
  taskContractFromMapping
    (Json.ofDict (contract.insert "evidence_contract" (Json.ofDict mirrored)))

/-- The contract that a caller passes: a contract or a mapping. -/
inductive ContractArgument where
  | contract (value : Record)
  | mapping (value : Json)

def ContractArgument.materialize : ContractArgument → Record
  | .contract value => value
  | .mapping value => taskContractFromMapping value

/-- One call of `replace`.  Of the task that the caller passes only its id and
its authority revision are read.  The further updates of a call are mechanical:
no caller changes the id or an authority field through them. -/
structure ReplaceRequest where
  taskId : String
  expectedRevision : String
  contract : ContractArgument
  executionBinding : BindingArgument := .absent
  source : String := ""
  actor : String := "zf-cli"
  causationId : String := ""
  correlationId : String := ""
  taskUpdates : Record := Dict.empty
  auditPayload : Record := Dict.empty
  reopenTerminal : Bool := false
  mechanical : ∀ key ∈ "id" :: authorityFields, taskUpdates.get? key = none

/-- A call without further updates. -/
theorem mechanical_empty (key : String) (_ : key ∈ "id" :: authorityFields) :
    (Dict.empty : Record).get? key = none := rfl

/-- `current_authority_revision(task)`. -/
def currentAuthorityRevision (task : Record) : String :=
  (task.get "contract_authority_revision").text

/-- Metadata is taken from the current contract, whatever the caller passes. -/
def preserveCurrentMetadata (replacement current : Record) : Record :=
  taskContractFromMapping (Json.ofDict
    (contractMetadataFields.foldl (fun data key => data.insert key (current.get key)) replacement))

/-- The further updates that would change the task. -/
def effectiveTaskUpdates (current updates : Record) : Record :=
  ⟨updates.entries.filter fun entry => !(current.get entry.1).equal entry.2,
    updates.nodupKeys.sublist (List.filter_sublist.map Prod.fst)⟩

inductive AuthorityError where
  | notFound (message : String)
  | conflict (message : String)
  | store (error : StoreError)

/-- What a call has decided to do when it leaves its read phase. -/
inductive Plan where
  | conflict (actual : String)
  | unchanged (task : Record) (sequence : Int)
  | fields (updates : Record)
  | contract (update : ContractUpdate)

def orLegacy (revision : String) : String := if revision = "" then "<legacy>" else revision

/-- The read phase: fetch the task, refuse a stale caller and build the contract. -/
def prepare (hash : RevisionHash) (clock : Clock) (request : ReplaceRequest) (disk : Disk) :
    Except AuthorityError Plan :=
  match get clock request.taskId disk with
  | .error error => .error (.store error)
  | .ok none => .error (.notFound ("task not found: " ++ request.taskId))
  | .ok (some current) =>
      let expected := request.expectedRevision
      if currentAuthorityRevision current ≠ expected then
        .ok (.conflict (currentAuthorityRevision current))
      else
        let currentContract := recordOf (current.get "contract")
        let binding := request.executionBinding.resolve current
        let materialized := mirrorLegacyBinding
          (preserveCurrentMetadata request.contract.materialize currentContract) binding
        let updates := effectiveTaskUpdates current request.taskUpdates
        match (current.get "contract_authority_sequence").intOrZero? with
        | none => .error (.store (.type "int() argument must be a number"))
        | some previous =>
            let revision :=
              authorityRevisionFor hash request.taskId materialized binding (previous + 1)
            if expected ≠ "" ∧
                Json.equal (Json.ofDict currentContract) (Json.ofDict materialized) ∧
                Json.equal (Json.ofDict (taskExecutionBinding current)) (Json.ofDict binding) then
              .ok (if updates.entries = [] then .unchanged current previous else .fields updates)
            else
              .ok (.contract {
                taskId := request.taskId
                expectedAuthorityRevision := expected
                expectedLegacyContract := if expected = "" then some currentContract else none
                expectedLegacyBinding :=
                  if expected = "" then some (recordOf (current.get "execution_binding")) else none
                contract := materialized
                executionBinding := binding
                contractAuthorityRevision := revision
                contractAuthoritySequence := previous + 1
                taskUpdates := updates
                reopenTerminal := request.reopenTerminal })

structure TaskContractMutation where
  task : Record
  previousRevision : String
  authorityRevision : String
  authoritySequence : Int
  changed : Bool := true

def casRejected (request : ReplaceRequest) (kind : String) (updated : Option Record) :
    AuthorityError :=
  .conflict ("task " ++ request.taskId ++ " " ++ kind ++ " CAS rejected: expected " ++
    orLegacy request.expectedRevision ++ ", got " ++
    orLegacy ((updated.map currentAuthorityRevision).getD ""))

/-- The write phase: compare and update, or return what is there. -/
def finish (clock : Clock) (request : ReplaceRequest) (plan : Plan) (disk : Disk) :
    Except AuthorityError TaskContractMutation × Disk :=
  let expected := request.expectedRevision
  match plan with
  | .conflict actual =>
      (.error (.conflict ("task " ++ request.taskId ++ " authority changed: expected " ++
        orLegacy expected ++ ", got " ++ orLegacy actual)), disk)
  | .unchanged task sequence => (.ok ⟨task, expected, expected, sequence, false⟩, disk)
  | .fields updates =>
      match compareAndUpdateFields clock request.taskId expected updates disk with
      | (.error error, after) => (.error (.store error), after)
      | (.ok (some updated, true), after) =>
          match (updated.get "contract_authority_sequence").intOrZero? with
          | none => (.error (.store (.type "int() argument must be a number")), after)
          | some sequence => (.ok ⟨updated, expected, expected, sequence, false⟩, after)
      | (.ok (updated, _), after) => (.error (casRejected request "field" updated), after)
  | .contract update =>
      match compareAndUpdateContract clock update disk with
      | (.error error, after) => (.error (.store error), after)
      | (.ok (some updated, true), after) =>
          (.ok ⟨updated, expected, update.contractAuthorityRevision,
            update.contractAuthoritySequence, true⟩, after)
      | (.ok (updated, _), after) => (.error (casRejected request "contract" updated), after)

/-- A call that brings another execution binding always leaves its read phase with
a contract to write. -/
theorem prepare_of_rebound {hash : RevisionHash} {clock : Clock} {request : ReplaceRequest}
    {disk : Disk} {current : Record} {previous : Int}
    (found : get clock request.taskId disk = .ok (some current))
    (fresh : currentAuthorityRevision current = request.expectedRevision)
    (counted : (current.get "contract_authority_sequence").intOrZero? = some previous)
    (rebound : Json.equal (Json.ofDict (taskExecutionBinding current))
      (Json.ofDict (request.executionBinding.resolve current)) = false) :
    ∃ update, prepare hash clock request disk = .ok (.contract update) ∧
      update.taskId = request.taskId ∧
      update.expectedAuthorityRevision = request.expectedRevision ∧
      update.taskUpdates = effectiveTaskUpdates current request.taskUpdates ∧
      (request.expectedRevision ≠ "" → update.expectedLegacyContract = none) := by
  simp only [prepare, found, counted, fresh, rebound]
  rw [if_neg (by simp), if_neg (by simp)]
  exact ⟨_, rfl, rfl, rfl, rfl, fun stamped => if_neg stamped⟩

end ZaofuFormal.Tasks
