import ZaofuFormal.Tasks.AuthorityChain

/-!
# Metadata under a contract replace

Projection and evidence fields of a contract are patched without a new revision.
A replace takes them from the task it has read, and the compare-and-update of a
stamped task looks at the revision only.  A patch that falls between the read and
the write of a replace is therefore lost; every other patched value stays until
it is patched again.
-/

namespace ZaofuFormal.Tasks

open Foundation Foundation.Runs

/-- A field of a stored contract as the task shows it. -/
def contractMetadata (contract : Json) (field : String) : Json :=
  (taskContractFromMapping contract).get field

def metadataDefault (field : String) : Json :=
  if field = "acceptance_evidence" then .obj [] else .str ""

theorem find_metadata_default : ∀ field ∈ contractMetadataFields,
    Dict.find field contractFields = some (metadataDefault field) := by
  decide +kernel

theorem contractFields_distinct : (contractFields.map Prod.fst).Nodup := by
  simp [contractFields]

/-- One field of a contract that is materialized from a mapping. -/
def materializeField (contract : Json) (name : String) (default : Json) : Json :=
  match Dict.find name contract.fields with
  | none => default
  | some raw => normalizeContractField name default raw

theorem taskContractFromMapping_eq (contract : Json) :
    taskContractFromMapping contract = Dict.ofEntries
      (contractFields.map fun entry => (entry.1, materializeField contract entry.1 entry.2)) := by
  unfold taskContractFromMapping
  congr 1
  refine List.map_congr_left fun entry _ => ?_
  unfold materializeField
  cases Dict.find entry.1 contract.fields <;> rfl

/-- The normal form of a metadata field that may be missing. -/
def normalMetadata (field : String) : Option Json → Json
  | none => metadataDefault field
  | some raw => normalizeContractField field (metadataDefault field) raw

variable {field : String} {contract patched : Record} {disk : Disk} {value : Json}

theorem get?_taskContractFromMapping (contract : Json) (metadata : field ∈ contractMetadataFields) :
    (taskContractFromMapping contract).get? field =
      some (normalMetadata field (Dict.find field contract.fields)) := by
  have distinct : ((contractFields.map fun entry =>
      (entry.1, materializeField contract entry.1 entry.2)).map Prod.fst).Nodup := by
    rw [List.map_map]
    exact contractFields_distinct
  rw [taskContractFromMapping_eq, Dict.get?_ofEntries distinct,
    Dict.find_map (materializeField contract), find_metadata_default field metadata]
  unfold materializeField normalMetadata
  cases Dict.find field contract.fields <;> rfl

theorem contractMetadata_eq (contract : Json) (metadata : field ∈ contractMetadataFields) :
    contractMetadata contract field = normalMetadata field (Dict.find field contract.fields) := by
  rw [contractMetadata, Record.get, get?_taskContractFromMapping contract metadata]
  rfl

/-- A normal form is its own normal form, and a missing field reads as `null`. -/
theorem normalMetadata_normal (field : String) (raw : Option Json) :
    normalMetadata field (some (normalMetadata field raw)) = normalMetadata field raw ∧
      normalMetadata field (some (raw.getD .null)) = normalMetadata field raw := by
  by_cases evidence : field = "acceptance_evidence"
  · cases raw with
    | none => simp [normalMetadata, metadataDefault, evidence, normalizeContractField]
    | some raw =>
        cases raw <;> simp [normalMetadata, metadataDefault, evidence, normalizeContractField]
  · cases raw with
    | none =>
        simp [normalMetadata, metadataDefault, evidence, normalizeContractField, Json.truthy,
          Json.pyStr]
    | some raw =>
        simp [normalMetadata, metadataDefault, evidence, normalizeContractField, Json.truthy,
          Json.pyStr]

theorem find_ofDict (dict : Record) (field : String) :
    Dict.find field (Json.ofDict dict).fields = dict.get? field := rfl

/-- The metadata of a contract depends on the values of its fields alone. -/
theorem contractMetadata_congr {other : Record}
    (metadata : field ∈ contractMetadataFields) (same : contract.get field = other.get field) :
    contractMetadata (Json.ofDict contract) field = contractMetadata (Json.ofDict other) field := by
  rw [contractMetadata_eq _ metadata, contractMetadata_eq _ metadata,
    ← (normalMetadata_normal field _).2, ← (normalMetadata_normal field (Dict.find field _)).2]
  exact congrArg (fun value => normalMetadata field (some value)) same

/-- Materializing a contract again keeps its metadata. -/
theorem contractMetadata_materialized (contract : Json)
    (metadata : field ∈ contractMetadataFields) :
    contractMetadata (Json.ofDict (taskContractFromMapping contract)) field =
      contractMetadata contract field := by
  rw [contractMetadata_eq _ metadata, contractMetadata_eq _ metadata, find_ofDict,
    get?_taskContractFromMapping contract metadata]
  exact (normalMetadata_normal field _).1

theorem get_insertFields (current : Record) (fields : List String)
    (data : Record) (given : field ∈ fields ∨ data.get field = current.get field) :
    Record.get (fields.foldl (fun data key => data.insert key (current.get key)) data) field =
      current.get field := by
  induction fields generalizing data with
  | nil => exact given.resolve_left List.not_mem_nil
  | cons head rest ih =>
      refine ih _ ?_
      by_cases here : field = head
      · right
        rw [here, Record.get, Dict.get?_insert_self]
        rfl
      · rw [get_insert_ne _ _ here]
        rcases given with member | known
        · exact .inl ((List.mem_cons.mp member).resolve_left here)
        · exact .inr known

theorem contractMetadata_preserved (replacement current : Record)
    (metadata : field ∈ contractMetadataFields) :
    contractMetadata (Json.ofDict (preserveCurrentMetadata replacement current)) field =
      contractMetadata (Json.ofDict current) field := by
  rw [preserveCurrentMetadata, contractMetadata_materialized _ metadata]
  exact contractMetadata_congr metadata (get_insertFields current _ replacement (.inl metadata))

theorem contractMetadata_mirrored (contract binding : Record)
    (metadata : field ∈ contractMetadataFields) :
    contractMetadata (Json.ofDict (mirrorLegacyBinding contract binding)) field =
      contractMetadata (Json.ofDict contract) field := by
  have different : field ≠ "evidence_contract" := by
    rintro rfl
    exact absurd metadata (by decide)
  rw [mirrorLegacyBinding, contractMetadata_materialized _ metadata]
  exact contractMetadata_congr metadata (get_insert_ne contract _ different)

/-- The prepared contract has the metadata of the task that was read. -/
theorem prepare_metadata {hash : RevisionHash} {clock : Clock} {request : ReplaceRequest}
    {update : ContractUpdate}
    (prepared : prepare hash clock request disk = .ok (.contract update)) :
    ∃ task, get clock request.taskId disk = .ok (some task) ∧
      ∀ field ∈ contractMetadataFields, contractMetadata (Json.ofDict update.contract) field =
        contractMetadata (task.get "contract") field := by
  unfold prepare at prepared
  split at prepared
  case h_1 => cases prepared
  case h_2 => cases prepared
  case h_3 task found =>
    refine ⟨task, found, fun field metadata => ?_⟩
    obtain ⟨record, _, _, rebuilt⟩ := get_source found
    have shown := toTask_contract rebuilt
    simp only at prepared
    split at prepared
    case isTrue => cases prepared
    case isFalse =>
      split at prepared
      case h_1 => cases prepared
      case h_2 =>
        split at prepared
        case isTrue =>
          split at prepared <;> cases prepared
        case isFalse =>
          cases prepared
          rw [contractMetadata_mirrored _ _ metadata, contractMetadata_preserved _ _ metadata, shown]
          refine contractMetadata_congr metadata ?_
          exact get_ofEntries (taskContractFromMapping (record.get "contract")).nodupKeys field

theorem dictOf_ofDict (contract : Record) {loaded : Record}
    (read : dictOf (Json.ofDict contract) = .ok loaded) (field : String) :
    loaded.get field = contract.get field := by
  unfold dictOf at read
  split at read
  case isTrue empty =>
    cases read
    have none : contract.entries = [] := by simpa [Json.ofDict, Json.truthy] using empty
    simp [Record.get, Dict.get?, none, Dict.find, Dict.empty]
  case isFalse =>
    cases read
    exact get_ofEntries contract.nodupKeys field

theorem patchField_other {entry : String × Json} (applied : patchField contract entry = .ok patched)
    (different : field ≠ entry.1) : patched.get field = contract.get field := by
  unfold patchField at applied
  split at applied
  case isTrue =>
    obtain ⟨merged, _, applied⟩ := Fallible.bind_eq_ok applied
    obtain ⟨value, _, applied⟩ := Fallible.bind_eq_ok applied
    cases applied
    exact get_insert_ne contract _ different
  case isFalse =>
    cases applied
    exact get_insert_ne contract _ different

theorem foldlM_patchField_other {entries : List (String × Json)}
    (absent : field ∉ entries.map Prod.fst)
    (applied : entries.foldlM patchField contract = .ok patched) :
    patched.get field = contract.get field := by
  induction entries generalizing contract with
  | nil =>
      cases applied
      rfl
  | cons entry rest ih =>
      rw [List.map_cons, List.mem_cons, not_or] at absent
      rw [List.foldlM_cons] at applied
      obtain ⟨next, first, later⟩ := Fallible.bind_eq_ok applied
      exact (ih absent.2 later).trans (patchField_other first absent.1)

/-- What a patch of one field makes of its value: evidence is merged into the
field, any other value replaces it. -/
def Written (field : String) (value shown : Json) : Prop :=
  if field = "acceptance_evidence" then
    ∀ evidence, dictOf value = .ok evidence → ∀ key, evidence.contains key = true →
      shown.get key = evidence.get key
  else shown = normalMetadata field (some value)

theorem patchField_written (applied : patchField contract (field, value) = .ok patched) :
    Written field value (normalMetadata field (patched.get? field)) := by
  unfold patchField at applied
  unfold Written
  by_cases evidence : field = "acceptance_evidence"
  · rw [if_pos evidence]
    simp only [evidence, if_true] at applied ⊢
    obtain ⟨merged, _, applied⟩ := Fallible.bind_eq_ok applied
    obtain ⟨given, read, applied⟩ := Fallible.bind_eq_ok applied
    cases applied
    intro other same key present
    rw [read] at same
    cases same
    rw [Dict.get?_insert_self]
    change Record.get (merged.update given) key = _
    obtain ⟨stored, found⟩ := Option.isSome_iff_exists.mp present
    rw [get_update, found, Option.getD_some, Record.get, found, Option.getD_some]
  · rw [if_neg evidence]
    simp only [evidence, if_false] at applied
    cases applied
    rw [Dict.get?_insert_self]

theorem foldlM_patchField_written {entries : List (String × Json)}
    (distinct : (entries.map Prod.fst).Nodup) (member : (field, value) ∈ entries)
    (applied : entries.foldlM patchField contract = .ok patched) :
    Written field value (normalMetadata field (some (patched.get field))) := by
  induction entries generalizing contract with
  | nil => cases member
  | cons entry rest ih =>
      rw [List.map_cons, List.nodup_cons] at distinct
      rw [List.foldlM_cons] at applied
      obtain ⟨next, first, later⟩ := Fallible.bind_eq_ok applied
      rcases List.mem_cons.mp member with rfl | inside
      · rw [foldlM_patchField_other distinct.1 later, Record.get, (normalMetadata_normal field _).2]
        exact patchField_written first
      · exact ih distinct.2 inside later

/-- A patched contract is an object that shows what the patch wrote, and the
other fields as they were. -/
theorem patchContract_contract {record updates changed : Record}
    (patched : patchContract record updates = .ok changed) :
    ∃ contract : Record, changed.get "contract" = Json.ofDict contract ∧
      (∀ field value, updates.get? field = some value →
        Written field value (normalMetadata field (some (contract.get field)))) ∧
      ∀ (before : Record) field, record.get "contract" = Json.ofDict before →
        field ∉ updates.keys → contract.get field = before.get field := by
  unfold patchContract at patched
  obtain ⟨loaded, read, patched⟩ := Fallible.bind_eq_ok patched
  obtain ⟨contract, applied, patched⟩ := Fallible.bind_eq_ok patched
  cases patched
  refine ⟨contract, ?_, fun field value given => ?_, fun before field stored absent => ?_⟩
  · rw [Record.get, Dict.get?_insert_self]
    rfl
  · have member := (Dict.get?_eq_some_iff updates field value).mp given
    exact foldlM_patchField_written updates.nodupKeys member applied
  · rw [stored] at read
    exact (foldlM_patchField_other absent applied).trans (dictOf_ofDict before read field)

variable {ι : Type} [DecidableEq ι] {hash : RevisionHash} {taskId : String}

/-- A metadata field of the task's contract. -/
def metadata (disk : Disk) (taskId field : String) : Option Json :=
  (currentRecord disk taskId).map fun record => contractMetadata (record.get "contract") field

/-- A replace that is about to be applied has read the metadata that is stored. -/
def Fresh (taskId : String) (state : Clients ι) : Action ι → Prop
  | .write client _ =>
      ∀ request update, state.pending client = some (request, .contract update) →
        contractApplies update state.disk = true →
        ∀ task record, state.seen client = some task →
          currentRecord state.disk taskId = some record →
          ∀ field ∈ contractMetadataFields, contractMetadata (task.get "contract") field =
            contractMetadata (record.get "contract") field
  | _ => True

/-- A patch that writes a value to the field. -/
def Patches (taskId field : String) (value : Json) (state : Clients ι) : Action ι → Prop
  | .patch _ updates =>
      patchWrites taskId updates state.disk = true ∧ updates.get? field = some value
  | _ => False

/-- Pending contracts have the metadata of the task that their client has read. -/
def Merged (state : Clients ι) : Prop :=
  ∀ client request update, state.pending client = some (request, .contract update) →
    ∃ task, state.seen client = some task ∧
      ∀ field ∈ contractMetadataFields, contractMetadata (Json.ofDict update.contract) field =
        contractMetadata (task.get "contract") field

theorem Merged.step {state : Clients ι} (merged : Merged state) (action : Action ι) :
    Merged (state.step hash taskId action) := by
  cases action with
  | read client clock request =>
      intro other asked update pending
      by_cases same : other = client
      · subst same
        simp only [Clients.step, Function.update_self] at pending ⊢
        obtain ⟨plan, prepared, pair⟩ := Option.map_eq_some_iff.mp pending
        cases pair
        have prepared : prepare hash clock request state.disk = .ok (.contract update) := by
          cases outcome : prepare hash clock request state.disk with
          | error error => rw [outcome] at prepared; cases prepared
          | ok value => rw [outcome] at prepared; cases prepared; rfl
        obtain ⟨task, found, same⟩ := prepare_metadata prepared
        exact ⟨task, by rw [found]; rfl, same⟩
      · simp only [Clients.step, Function.update_of_ne same] at pending ⊢
        exact merged other asked update pending
  | write client clock =>
      intro other asked update pending
      cases found : state.pending client with
      | none =>
          simp only [Clients.step, found] at pending ⊢
          exact merged other asked update pending
      | some call =>
          simp only [Clients.step, found] at pending ⊢
          by_cases same : other = client
          · rw [same, Function.update_self] at pending
            cases pending
          · rw [Function.update_of_ne same] at pending
            exact merged other asked update pending
  | patch clock updates => exact merged

/-- The contract is stored as an object whose field reads as given. -/
def Holds (taskId field : String) (value : Json) (disk : Disk) : Prop :=
  ∃ record contract, currentRecord disk taskId = some record ∧
    record.get "contract" = Json.ofDict contract ∧
    contractMetadata (Json.ofDict contract) field = value

theorem Holds.metadata_eq
    (holds : Holds taskId field value disk) : metadata disk taskId field = some value := by
  obtain ⟨record, contract, current, stored, shown⟩ := holds
  rw [metadata, current, Option.map_some, stored, shown]

theorem holds_of_patched (metadata : field ∈ contractMetadataFields)
    (clock : Clock) {updates : Record}
    (writes : patchWrites taskId updates disk = true) (given : updates.get? field = some value) :
    ∃ shown, Written field value shown ∧
      Holds taskId field shown (patchContractFields clock taskId updates disk).2 := by
  rcases patchContractFields_cases clock taskId updates disk with
    ⟨refused, _⟩ | ⟨_, record, changed, patched, _, replaced⟩
  · rw [writes] at refused
    cases refused
  · obtain ⟨contract, stored, written, _⟩ := patchContract_contract patched
    refine ⟨_, written field value given, changed, contract, replaced.now, stored, ?_⟩
    rw [contractMetadata_eq _ metadata, find_ofDict, ← (normalMetadata_normal field _).2]
    rfl

theorem Holds.step {initial : Version} {state : Clients ι} {field : String} {value : Json}
    (metadata : field ∈ contractMetadataFields) (linked : Linked hash taskId initial state)
    (merged : Merged state) (holds : Holds taskId field value state.disk) {action : Action ι}
    (admissible : action.Admissible taskId) (fresh : Fresh taskId state action)
    (unpatched : ∀ other, ¬ Patches taskId field other state action) :
    Holds taskId field value (state.step hash taskId action).disk := by
  obtain ⟨record, contract, current, stored, shown⟩ := holds
  cases action with
  | read client clock request => exact ⟨record, contract, current, stored, shown⟩
  | patch clock updates =>
      rcases patchContractFields_cases clock taskId updates state.disk with
        ⟨_, same⟩ | ⟨writes, old, changed, patched, _, replaced⟩
      · simp only [Clients.step, same]
        exact ⟨record, contract, current, stored, shown⟩
      · obtain rfl : record = old := Option.some.inj (current.symm.trans replaced.before)
        obtain ⟨after, storedNow, _, kept⟩ := patchContract_contract patched
        have absent : field ∉ updates.keys := by
          intro member
          obtain ⟨entry, present, named⟩ := List.mem_map.mp member
          have given := (Dict.get?_eq_some_iff updates field entry.2).mpr (named ▸ present)
          exact unpatched entry.2 ⟨writes, given⟩
        refine ⟨changed, after, replaced.now, storedNow, ?_⟩
        rw [← shown]
        exact contractMetadata_congr metadata (kept contract field stored absent)
  | write client clock =>
      cases found : state.pending client with
      | none =>
          simp only [Clients.step, found]
          exact ⟨record, contract, current, stored, shown⟩
      | some call =>
          obtain ⟨request, plan⟩ := call
          obtain ⟨named, sound⟩ := linked.plans client request plan found
          simp only [Clients.step, found]
          rcases finish_cases admissible linked.tracked named sound with
            ⟨_, same⟩ | ⟨_, old, changed, replaced, _, kept⟩ |
            ⟨version, old, changed, update, added, rfl, storedNow, replaced, _⟩
          · rw [same]
            exact ⟨record, contract, current, stored, shown⟩
          · obtain rfl : record = old := Option.some.inj (current.symm.trans replaced.before)
            exact ⟨changed, contract, replaced.now, kept.contract.trans stored, shown⟩
          · have applies : contractApplies update state.disk = true := by
              by_contra refused
              simp [Plan.version?, refused] at added
            obtain ⟨task, seen, same⟩ := merged client request update found
            have current' := fresh request update found applies task record seen current
            refine ⟨changed, update.contract, replaced.now, storedNow, ?_⟩
            rw [same field metadata, current' field metadata, stored, shown]

theorem metadata_of_known {updates : Record}
    (known : unknownMetadata updates = []) (given : updates.get? field = some value) :
    field ∈ contractMetadataFields := by
  by_contra unlisted
  have member : field ∈ updates.keys :=
    List.mem_map.mpr ⟨(field, value), (Dict.get?_eq_some_iff updates field value).mp given, rfl⟩
  have sorted : field ∈ updates.sortKeys.keys :=
    (updates.sortKeys_perm.map Prod.fst).mem_iff.mpr member
  have listed : field ∈ unknownMetadata updates :=
    List.mem_filter.mpr ⟨sorted, by simpa using unlisted⟩
  rw [known] at listed
  exact absurd listed List.not_mem_nil

/-- What is known of every state of a run. -/
structure Settled (hash : RevisionHash) (taskId : String) (initial : Version)
    (state : Clients ι) : Prop where
  linked : Linked hash taskId initial state
  merged : Merged state

theorem Settled.step {initial : Version} {state : Clients ι}
    (settled : Settled hash taskId initial state) {action : Action ι}
    (admissible : action.Admissible taskId) :
    Settled hash taskId initial (state.step hash taskId action) :=
  ⟨settled.linked.step admissible, settled.merged.step action⟩

/-- In every run whose applied replaces have read the stored metadata, a value
that a patch wrote stays in the contract until the field is patched again. -/
theorem metadata_kept {disk : Disk} {record : Record} (tracked : Tracked hash taskId disk)
    (found : currentRecord disk taskId = some record) (before later : List (Action ι))
    (clock : Clock) (updates : Record) (field : String) (value : Json)
    (admissible : ∀ action ∈ before ++ .patch clock updates :: later, action.Admissible taskId)
    (fresh : Along (Clients.step hash taskId) (Fresh taskId) (Clients.start disk)
      (before ++ .patch clock updates :: later))
    (writes : Patches taskId field value
      (run (Clients.step hash taskId) (Clients.start disk) before) (.patch clock updates))
    (unpatched : Along (Clients.step hash taskId)
      (fun state action => ∀ other, ¬ Patches taskId field other state action)
      (run (Clients.step hash taskId) (Clients.start disk) (before ++ [.patch clock updates]))
      later) :
    ∃ shown, Written field value shown ∧
      metadata (run (Clients.step hash taskId) (Clients.start disk)
        (before ++ .patch clock updates :: later)).disk taskId field = some shown := by
  rw [List.append_cons] at fresh admissible ⊢
  have started : Settled hash taskId (versionOf record) (Clients.start disk : Clients ι) :=
    ⟨linked_start tracked found, fun client request update pending => by cases pending⟩
  have reached : ∀ actions : List (Action ι), (∀ action ∈ actions, action.Admissible taskId) →
      Settled hash taskId (versionOf record)
        (run (Clients.step hash taskId) (Clients.start disk) actions) := fun actions allowed =>
    (along_of_forall_mem allowed _).invariant _ (fun _ _ settled => settled.step) started
  have known : field ∈ contractMetadataFields := by
    rcases patchContractFields_cases clock taskId updates
      (run (Clients.step hash taskId) (Clients.start disk) before).disk with
      ⟨refused, _⟩ | ⟨_, _, _, _, known, _⟩
    · rw [writes.1] at refused
      cases refused
    · exact metadata_of_known known writes.2
  obtain ⟨shown, written, holds⟩ := holds_of_patched known clock writes.1 writes.2
  refine ⟨shown, written, ?_⟩
  rw [run_append]
  -- from the patch on, the run keeps what the field shows
  have kept := ((along_of_forall_mem (fun action member =>
    admissible action (List.mem_append_right _ member)) _).and
      (((along_append _ _ _).mp fresh).2.and unpatched)).invariant
    (fun state => Settled hash taskId (versionOf record) state ∧
      Holds taskId field shown state.disk)
    (fun state action known' allowed => ⟨known'.1.step allowed.1,
      known'.2.step known known'.1.linked known'.1.merged allowed.1 allowed.2.1 allowed.2.2⟩)
    ⟨reached _ fun action member => admissible action (List.mem_append_left _ member), ?_⟩
  · exact kept.2.metadata_eq
  · rw [run_append]
    exact holds

/-- The task that a read returns shows the metadata of the active record. -/
theorem get_metadata {clock : Clock} {task record : Record}
    (read : get clock taskId disk = .ok (some task))
    (active : disk.active.find? (hasId taskId) = some record)
    (metadata : field ∈ contractMetadataFields) :
    contractMetadata (task.get "contract") field =
      contractMetadata (record.get "contract") field := by
  simp only [get, active] at read
  cases rebuilt : toTask clock record with
  | error error =>
      rw [rebuilt] at read
      cases read
  | ok value =>
      rw [rebuilt] at read
      cases read
      rw [toTask_contract rebuilt, contractMetadata_materialized _ metadata]

def docPatch : Record := Dict.ofEntries [("task_doc_ref", .str "docs/TASK-CAS.md")]

theorem docPatch_written {shown : Json}
    (written : Written "task_doc_ref" (.str "docs/TASK-CAS.md") shown) :
    shown = .str "docs/TASK-CAS.md" := by
  rw [Written, if_neg (by decide)] at written
  rw [written]
  decide +kernel

/-- A read that finds the task active has seen the metadata that is stored. -/
theorem seen_metadata {clock : Clock} {task record : Record}
    (active : (disk.active.find? (hasId taskId)).isSome = true)
    (seen : (get clock taskId disk).toOption.join = some task)
    (current : currentRecord disk taskId = some record)
    (metadata : field ∈ contractMetadataFields) :
    contractMetadata (task.get "contract") field =
      contractMetadata (record.get "contract") field := by
  obtain ⟨first, found⟩ := Option.isSome_iff_exists.mp active
  rw [currentRecord, found, Option.some_or, Option.some_inj] at current
  subst current
  cases read : get clock taskId disk with
  | error error =>
      rw [read] at seen
      cases seen
  | ok answer =>
      rw [read] at seen
      have answered : answer = some task := seen
      exact get_metadata (read.trans (congrArg Except.ok answered)) found metadata

/-- The documents of a task are patched before its contract is replaced. -/
theorem metadata_kept_by_replace :
    metadata (run (Clients.step sampleHash "TASK-CAS") (Clients.start sampleDisk)
      [.patch sampleClock docPatch, .read false sampleClock (replaceBehavior "" "R2"),
        .write false sampleClock]).disk "TASK-CAS" "task_doc_ref" =
      some (.str "docs/TASK-CAS.md") := by
  have active : ((patchContractFields sampleClock "TASK-CAS" docPatch sampleDisk).2.active.find?
      (hasId "TASK-CAS")).isSome = true := by
    decide +kernel
  obtain ⟨shown, written, kept⟩ := metadata_kept tracked_sampleDisk currentRecord_sampleDisk []
    [.read false sampleClock (replaceBehavior "" "R2"), .write false sampleClock] sampleClock
    docPatch "task_doc_ref" (.str "docs/TASK-CAS.md")
    (by
      intro action member
      simp only [List.nil_append, List.mem_cons, List.not_mem_nil, or_false] at member
      rcases member with rfl | rfl | rfl
      · exact True.intro
      · rfl
      · exact (by decide : sampleClock.today ≠ ""))
    ⟨True.intro, True.intro, fun _ _ _ _ _ _ seen current _ listed =>
      seen_metadata active seen current listed, True.intro⟩
    ⟨by decide +kernel, by decide +kernel⟩
    ⟨fun _ patches => patches, fun _ patches => patches, True.intro⟩
  rw [← docPatch_written written]
  exact kept

/-- Hand the task over to a workflow. -/
def rebind : ReplaceRequest where
  taskId := "TASK-CAS"
  expectedRevision := "authority-r4594e377a87e2c7d154533a0"
  contract := .mapping (.obj [("behavior", .str "R2")])
  executionBinding := .mapping (.obj [("owner", .str "workflow")])
  mechanical := mechanical_empty

/-- The patch falls between the read and the write of the replace, and what it
wrote is gone. -/
theorem patch_lost :
    let clients : Clients Bool := Clients.start stampedDisk
    let before := run (Clients.step sampleHash "TASK-CAS") clients [.read false sampleClock rebind]
    let patched := before.step sampleHash "TASK-CAS" (.patch sampleClock docPatch)
    let reached := patched.step sampleHash "TASK-CAS" (.write false sampleClock)
    Patches "TASK-CAS" "task_doc_ref" (.str "docs/TASK-CAS.md") before
        (.patch sampleClock docPatch) ∧
      metadata patched.disk "TASK-CAS" "task_doc_ref" = some (.str "docs/TASK-CAS.md") ∧
      metadata reached.disk "TASK-CAS" "task_doc_ref" = some (.str "") := by
  intro clients before patched reached
  have listed : "task_doc_ref" ∈ contractMetadataFields := by decide
  have writes : Patches "TASK-CAS" "task_doc_ref" (.str "docs/TASK-CAS.md") before
      (.patch sampleClock docPatch) := ⟨by decide +kernel, by decide +kernel⟩
  refine ⟨writes, ?_, ?_⟩
  · obtain ⟨shown, written, holds⟩ := holds_of_patched listed sampleClock writes.1 writes.2
    rw [← docPatch_written written]
    exact holds.metadata_eq
  · obtain ⟨update, prepared, target, expected, further, unchecked⟩ :=
      @prepare_of_rebound sampleHash sampleClock rebind stampedDisk stampedTask 1 get_stampedDisk
        (by decide +kernel) (by decide +kernel) (by decide +kernel)
    have mechanical : ∀ key ∈ "id" :: authorityFields, update.taskUpdates.get? key = none := by
      intro key member
      rw [further]
      exact effectiveTaskUpdates_get? (rebind.mechanical key member)
    have pending : patched.pending false = some (rebind, .contract update) := by
      simp only [patched, before, clients, run_cons, run_nil, Clients.step, Clients.start,
        Function.update_self, prepared]
      rfl
    obtain ⟨record, active, revision⟩ : ∃ record,
        patched.disk.active.find? (hasId "TASK-CAS") = some record ∧
          authorityRevision record = rebind.expectedRevision := by
      have kept : (patched.disk.active.find? (hasId "TASK-CAS")).map authorityRevision =
          some rebind.expectedRevision := by decide +kernel
      exact Option.map_eq_some_iff.mp kept
    have applies : contractApplies update patched.disk = true :=
      contractApplies_of_stamped (target ▸ active) (revision.trans expected.symm)
        (unchecked (by decide))
    obtain ⟨old, _, replaced, _⟩ :=
      compareAndUpdateContract_applied sampleClock (mechanical "id" (by decide)) applies
    have stored : currentRecord reached.disk "TASK-CAS" = some (applyContract update old) := by
      have disk : reached.disk = (finish sampleClock rebind (.contract update) patched.disk).2 := by
        simp only [reached, Clients.step, pending]
      rw [target] at replaced
      rw [disk, finish_disk]
      exact replaced.now
    -- the contract was merged with the metadata of the task that was read
    obtain ⟨task, found, same⟩ := prepare_metadata prepared
    obtain rfl : stampedTask = task :=
      Option.some.inj (Except.ok.inj (get_stampedDisk.symm.trans found))
    have read := get_metadata get_stampedDisk (by decide : _ = some stampedRecord) listed
    rw [metadata, stored, Option.map_some, applyContract_contract mechanical, same _ listed, read,
      contractMetadata_eq _ listed]
    decide +kernel

end ZaofuFormal.Tasks
