import ZaofuFormal.Tasks.ContractAuthority
import ZaofuFormal.Tasks.CurrentRecord

/-!
# Clients of the contract authority

Any number of clients replace the contract of one task and patch its metadata.
A replace reads and prepares in one step and writes in another; a client may also
abandon a call and start the next one.  The writes that the store applied are
kept in order, so that one can ask whether they form a chain.
-/

namespace ZaofuFormal.Tasks

open Foundation Foundation.Runs

/-- A record whose revision, if it has one, was made for its sequence number. -/
def Stamped (hash : RevisionHash) (taskId : String) (revision : String) (sequence : Int) : Prop :=
  (revision = "" ∧ sequence = 0) ∨
    ∃ contract binding, revision = authorityRevisionFor hash taskId contract binding sequence

theorem Stamped.sequence_eq {hash : RevisionHash} {taskId revision : String} {first second : Int}
    (one : Stamped hash taskId revision first) (other : Stamped hash taskId revision second) :
    first = second := by
  rcases one with ⟨empty, rfl⟩ | ⟨contract, binding, made⟩
  · rcases other with ⟨_, rfl⟩ | ⟨contract, binding, made⟩
    · rfl
    · exact absurd (made.symm.trans empty) (authorityRevisionFor_ne_empty _ _ _ _ _)
  · rcases other with ⟨empty, _⟩ | ⟨otherContract, otherBinding, otherMade⟩
    · exact absurd (made.symm.trans empty) (authorityRevisionFor_ne_empty _ _ _ _ _)
    · exact authorityRevisionFor_sequence (made.symm.trans otherMade)

/-- `int(record.get("contract_authority_sequence") or 0)`. -/
def authoritySequence (record : Record) : Option Int :=
  (record.get "contract_authority_sequence").intOrZero?

/-- The record carries this revision and this sequence number, and they belong
together. -/
structure Carries (hash : RevisionHash) (taskId : String) (record : Record) (revision : String)
    (sequence : Int) : Prop where
  revision_eq : authorityRevision record = revision
  sequence_eq : authoritySequence record = some sequence
  stamped : Stamped hash taskId revision sequence

/-- The task has one active record at most, and all its records are stamped. -/
structure Tracked (hash : RevisionHash) (taskId : String) (disk : Disk) : Prop where
  sole : Sole taskId disk
  carries : ∀ record, OnDisk disk record → hasId taskId record = true →
    ∃ revision sequence, Carries hash taskId record revision sequence

theorem Tracked.replaced {hash : RevisionHash} {taskId : String} {disk after : Disk}
    {record changed : Record} (tracked : Tracked hash taskId disk)
    (replaced : Replaced taskId disk after record changed)
    (carries : ∃ revision sequence, Carries hash taskId changed revision sequence) :
    Tracked hash taskId after := by
  refine ⟨replaced.sole tracked.sole, fun other stored identified => ?_⟩
  rcases replaced.stored other stored with rfl | old
  · exact carries
  · exact tracked.carries other old identified

/-- A write that leaves both authority fields alone keeps what a record carries. -/
theorem Carries.congr {hash : RevisionHash} {taskId : String} {record changed : Record}
    {revision : String} {sequence : Int} (carries : Carries hash taskId record revision sequence)
    (sameRevision : changed.get "contract_authority_revision" =
      record.get "contract_authority_revision")
    (sameSequence : changed.get "contract_authority_sequence" =
      record.get "contract_authority_sequence") :
    Carries hash taskId changed revision sequence := by
  refine ⟨?_, ?_, carries.stamped⟩
  · rw [authorityRevision, sameRevision]
    exact carries.revision_eq
  · rw [authoritySequence, sameSequence]
    exact carries.sequence_eq

theorem carries_of_toTask {hash : RevisionHash} {taskId : String} {clock : Clock}
    {record task : Record} {revision : String} {sequence : Int}
    (carries : Carries hash taskId record revision sequence)
    (rebuilt : toTask clock record = .ok task) :
    currentAuthorityRevision task = revision ∧
      (task.get "contract_authority_sequence").intOrZero? = some sequence := by
  have revisionRead := toTask_get rebuilt (by decide : "contract_authority_revision" ∉ _)
  have sequenceRead := toTask_get rebuilt (by decide : "contract_authority_sequence" ∉ _)
  rw [get_ofEntries (taskDefaults_distinct clock)] at revisionRead sequenceRead
  have revisionKept := carries.revision_eq
  have sequenceKept := carries.sequence_eq
  rw [authorityRevision, Record.get] at revisionKept
  rw [authoritySequence, Record.get] at sequenceKept
  constructor
  · rw [currentAuthorityRevision, revisionRead]
    cases stored : record.get? "contract_authority_revision" with
    | none => rw [stored] at revisionKept; exact revisionKept
    | some value => rw [stored] at revisionKept; exact revisionKept
  · rw [sequenceRead]
    cases stored : record.get? "contract_authority_sequence" with
    | none => rw [stored] at sequenceKept; exact sequenceKept
    | some value => rw [stored] at sequenceKept; exact sequenceKept

/-- A plan made from a stamped record. -/
def PlanSound (hash : RevisionHash) (taskId : String) (request : ReplaceRequest) : Plan → Prop
  | .conflict _ => True
  | .unchanged _ _ => True
  | .fields updates => ∀ key ∈ "id" :: authorityFields, updates.get? key = none
  | .contract update =>
      update.taskId = taskId ∧ update.expectedAuthorityRevision = request.expectedRevision ∧
        (∀ key ∈ "id" :: authorityFields, update.taskUpdates.get? key = none) ∧
        Stamped hash taskId request.expectedRevision (update.contractAuthoritySequence - 1) ∧
        ∃ contract binding, update.contractAuthorityRevision =
          authorityRevisionFor hash taskId contract binding update.contractAuthoritySequence

theorem effectiveTaskUpdates_get? {current updates : Record} {key : String}
    (absent : updates.get? key = none) :
    (effectiveTaskUpdates current updates).get? key = none := by
  rw [Option.eq_none_iff_forall_ne_some]
  intro value found
  have member := (Dict.get?_eq_some_iff _ _ _).mp found
  have kept := (Dict.get?_eq_some_iff updates key value).mpr (List.mem_of_mem_filter member)
  rw [absent] at kept
  cases kept

theorem prepare_sound {hash : RevisionHash} {clock : Clock} {request : ReplaceRequest}
    {disk : Disk} {plan : Plan} (tracked : Tracked hash request.taskId disk)
    (prepared : prepare hash clock request disk = .ok plan) :
    PlanSound hash request.taskId request plan := by
  have mechanical : ∀ current : Record, ∀ key ∈ "id" :: authorityFields,
      (effectiveTaskUpdates current request.taskUpdates).get? key = none :=
    fun _ key member => effectiveTaskUpdates_get? (request.mechanical key member)
  unfold prepare at prepared
  split at prepared
  case h_1 => cases prepared
  case h_2 => cases prepared
  case h_3 current found =>
    obtain ⟨record, stored, identified, rebuilt⟩ := get_source found
    obtain ⟨revision, sequence, carries⟩ := tracked.carries record stored identified
    obtain ⟨revisionRead, sequenceRead⟩ := carries_of_toTask carries rebuilt
    simp only [sequenceRead, revisionRead] at prepared
    split at prepared
    case isTrue =>
      cases prepared
      exact True.intro
    case isFalse fresh =>
      have expected : revision = request.expectedRevision := not_not.mp fresh
      split at prepared
      case isTrue =>
        cases prepared
        split
        · exact True.intro
        · exact mechanical current
      case isFalse =>
        cases prepared
        refine ⟨rfl, rfl, mechanical current, ?_, _, _, rfl⟩
        rw [← expected, add_sub_cancel_right]
        exact carries.stamped

/-- A version of the contract: what it replaced, its revision and its sequence. -/
structure Version where
  previousRevision : String
  revision : String
  sequence : Int

/-- The store, the calls between their two phases with the tasks they have read,
and the applied writes. -/
structure Clients (ι : Type) where
  disk : Disk
  pending : ι → Option (ReplaceRequest × Plan)
  seen : ι → Option Record
  applied : List Version

inductive Action (ι : Type) where
  | read (client : ι) (clock : Clock) (request : ReplaceRequest)
  | write (client : ι) (clock : Clock)
  | patch (clock : Clock) (updates : Record)

variable {ι : Type} [DecidableEq ι]

/-- The version that the write of a plan adds. -/
def Plan.version? (request : ReplaceRequest) (disk : Disk) : Plan → Option Version
  | .contract update =>
      if contractApplies update disk then
        some ⟨request.expectedRevision, update.contractAuthorityRevision,
          update.contractAuthoritySequence⟩
      else none
  | _ => none

def Clients.step (hash : RevisionHash) (taskId : String) (state : Clients ι) :
    Action ι → Clients ι
  | .read client clock request =>
      let prepared :=
        (prepare hash clock request state.disk).toOption.map fun plan => (request, plan)
      let task := (get clock request.taskId state.disk).toOption.join
      { state with
        pending := Function.update state.pending client prepared
        seen := Function.update state.seen client task }
  | .write client clock =>
      match state.pending client with
      | none => state
      | some (request, plan) =>
          { state with
            disk := (finish clock request plan state.disk).2
            pending := Function.update state.pending client none
            applied := state.applied ++ (plan.version? request state.disk).toList }
  | .patch clock updates =>
      { state with disk := (patchContractFields clock taskId updates state.disk).2 }

def Clients.start (disk : Disk) : Clients ι := ⟨disk, fun _ => none, fun _ => none, []⟩

/-- All calls are about the task, and the calendar gives a day. -/
def Action.Admissible (taskId : String) : Action ι → Prop
  | .read _ _ request => request.taskId = taskId
  | .write _ clock => clock.today ≠ ""
  | .patch _ _ => True

/-- The contract and both of its authority fields read the same. -/
structure SameContract (record changed : Record) : Prop where
  contract : changed.get "contract" = record.get "contract"
  revision : changed.get "contract_authority_revision" = record.get "contract_authority_revision"
  sequence : changed.get "contract_authority_sequence" = record.get "contract_authority_sequence"

/-- The files after a write are those of the store operation of the plan. -/
theorem finish_disk (clock : Clock) (request : ReplaceRequest) (plan : Plan) (disk : Disk) :
    (finish clock request plan disk).2 =
      match plan with
      | .conflict _ => disk
      | .unchanged _ _ => disk
      | .fields updates =>
          (compareAndUpdateFields clock request.taskId request.expectedRevision updates disk).2
      | .contract update => (compareAndUpdateContract clock update disk).2 := by
  cases plan with
  | conflict | unchanged => rfl
  | fields updates =>
      simp only [finish]
      generalize compareAndUpdateFields clock request.taskId request.expectedRevision updates disk =
        outcome
      obtain ⟨result, after⟩ := outcome
      rcases result with error | ⟨updated, applied⟩
      · rfl
      · cases updated with
        | none => rfl
        | some updated =>
            cases applied with
            | false => rfl
            | true => simp only; split <;> rfl
  | contract update =>
      simp only [finish]
      generalize compareAndUpdateContract clock update disk = outcome
      obtain ⟨result, after⟩ := outcome
      rcases result with error | ⟨updated, applied⟩
      · rfl
      · cases updated with
        | none => rfl
        | some updated => cases applied <;> rfl

section Writes

variable {hash : RevisionHash} {taskId : String} {clock : Clock} {request : ReplaceRequest}
  {plan : Plan} {disk : Disk}

theorem applyContract_revision {update : ContractUpdate}
    (mechanical : ∀ key ∈ "id" :: authorityFields, update.taskUpdates.get? key = none)
    (record : Record) :
    authorityRevision (applyContract update record) = update.contractAuthorityRevision ∧
      authoritySequence (applyContract update record) = some update.contractAuthoritySequence := by
  have revisionKept := mechanical "contract_authority_revision" (by decide)
  have sequenceKept := mechanical "contract_authority_sequence" (by decide)
  constructor
  · rw [authorityRevision, applyContract, get_update, revisionKept, Option.getD_none,
      get_insert_ne _ _ (by decide), Record.get, Dict.get?_insert_self]
    exact Json.text_str _
  · rw [authoritySequence, applyContract, get_update, sequenceKept, Option.getD_none, Record.get,
      Dict.get?_insert_self]
    by_cases zero : update.contractAuthoritySequence = 0
    · simp [Json.intOrZero?, Json.truthy, zero]
    · simp [Json.intOrZero?, Json.truthy, Json.int?, zero]

theorem contractMatches_revision {update : ContractUpdate} {record : Record}
    (matched : contractMatches update record = .ok true) :
    authorityRevision record = update.expectedAuthorityRevision := by
  unfold contractMatches at matched
  split at matched
  case isTrue => cases matched
  case isFalse same => exact not_not.mp same

theorem applyContract_contract {update : ContractUpdate}
    (mechanical : ∀ key ∈ "id" :: authorityFields, update.taskUpdates.get? key = none)
    (record : Record) :
    (applyContract update record).get "contract" = Json.ofDict update.contract := by
  rw [applyContract, get_update, mechanical "contract" (by decide), Option.getD_none,
    get_insert_ne _ _ (by decide), get_insert_ne _ _ (by decide), get_insert_ne _ _ (by decide),
    Record.get, Dict.get?_insert_self]
  rfl

/-- A write leaves the files alone, or replaces the current record by one with
the same contract, or adds a version on top of the current record. -/
theorem finish_cases (dated : clock.today ≠ "") (tracked : Tracked hash taskId disk)
    (named : request.taskId = taskId) (sound : PlanSound hash taskId request plan) :
    (plan.version? request disk = none ∧ (finish clock request plan disk).2 = disk) ∨
    (plan.version? request disk = none ∧ ∃ record changed,
      Replaced taskId disk (finish clock request plan disk).2 record changed ∧
        authorityRevision record = request.expectedRevision ∧ SameContract record changed) ∨
    ∃ version record changed update, plan.version? request disk = some version ∧
      plan = .contract update ∧ changed.get "contract" = Json.ofDict update.contract ∧
      Replaced taskId disk (finish clock request plan disk).2 record changed ∧
      authorityRevision record = request.expectedRevision ∧
      version.previousRevision = request.expectedRevision ∧
      Stamped hash taskId version.previousRevision (version.sequence - 1) ∧
      Carries hash taskId changed version.revision version.sequence := by
  rw [finish_disk]
  cases plan with
  | conflict | unchanged => exact .inl ⟨rfl, rfl⟩
  | fields updates =>
      have keeps : ∀ record : Record, SameContract record (record.update updates) := by
        intro record
        refine ⟨?_, ?_, ?_⟩
        · rw [get_update, sound "contract" (by decide), Option.getD_none]
        · rw [get_update, sound "contract_authority_revision" (by decide), Option.getD_none]
        · rw [get_update, sound "contract_authority_sequence" (by decide), Option.getD_none]
      rcases compareAndUpdateFields_cases request.expectedRevision dated
        (sound "id" (by decide)) tracked.sole with same | ⟨record, expected, replaced⟩
      · exact .inl ⟨rfl, named ▸ same⟩
      · exact .inr (.inl ⟨rfl, record, _, named ▸ replaced, expected, keeps record⟩)
  | contract update =>
      obtain ⟨target, expected, mechanical, stamped, contract, binding, made⟩ := sound
      cases applies : contractApplies update disk with
      | false =>
          exact .inl ⟨by simp [Plan.version?, applies],
            (compareAndUpdateContract_refused clock applies).1⟩
      | true =>
          obtain ⟨record, matched, replaced, _⟩ :=
            compareAndUpdateContract_applied clock (mechanical "id" (by decide)) applies
          obtain ⟨revisionNow, sequenceNow⟩ := applyContract_revision mechanical record
          refine .inr (.inr ⟨⟨request.expectedRevision, update.contractAuthorityRevision,
            update.contractAuthoritySequence⟩, record, _, update,
            by simp [Plan.version?, applies], rfl, applyContract_contract mechanical record,
            target ▸ replaced, ?_, rfl, stamped, revisionNow, sequenceNow,
            .inr ⟨contract, binding, made⟩⟩)
          rw [contractMatches_revision matched, expected]

end Writes

end ZaofuFormal.Tasks
