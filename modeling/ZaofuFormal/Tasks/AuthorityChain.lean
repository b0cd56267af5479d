import ZaofuFormal.Tasks.AuthorityRuns

/-!
# Contract revisions form one chain

The compare-and-update operation of the store is where concurrent replace calls
take effect one after the other.  A call that was prepared from an older record
is refused, because a revision is never written twice: each one was made for its
own sequence number.
-/

namespace ZaofuFormal.Tasks

open Foundation Foundation.Runs

/-- A version replaces the one before it and counts one more. -/
def Version.Follows (earlier later : Version) : Prop :=
  later.previousRevision = earlier.revision ∧ later.sequence = earlier.sequence + 1

variable {ι : Type} [DecidableEq ι] {hash : RevisionHash} {taskId : String}

/-- The applied versions form a chain from the initial one, and the current
record carries the last of them. -/
structure Linked (hash : RevisionHash) (taskId : String) (initial : Version)
    (state : Clients ι) : Prop where
  tracked : Tracked hash taskId state.disk
  plans : ∀ client request plan, state.pending client = some (request, plan) →
    request.taskId = taskId ∧ PlanSound hash taskId request plan
  chain : (initial :: state.applied).IsChain Version.Follows
  current : ∃ record latest, currentRecord state.disk taskId = some record ∧
    (initial :: state.applied).getLast? = some latest ∧
    Carries hash taskId record latest.revision latest.sequence

theorem Linked.read {initial : Version} {state : Clients ι}
    (linked : Linked hash taskId initial state)
    (client : ι) (clock : Clock) {request : ReplaceRequest} (named : request.taskId = taskId) :
    Linked hash taskId initial (state.step hash taskId (.read client clock request)) := by
  refine ⟨linked.tracked, ?_, linked.chain, linked.current⟩
  intro other asked plan found
  by_cases same : other = client
  · subst same
    simp only [Clients.step, Function.update_self] at found
    obtain ⟨made, prepared, pair⟩ := Option.map_eq_some_iff.mp found
    cases pair
    have prepared : prepare hash clock request state.disk = .ok plan := by
      cases outcome : prepare hash clock request state.disk with
      | error error => rw [outcome] at prepared; cases prepared
      | ok value => rw [outcome] at prepared; cases prepared; rfl
    subst named
    exact ⟨rfl, prepare_sound linked.tracked prepared⟩
  · simp only [Clients.step, Function.update_of_ne same] at found
    exact linked.plans other asked plan found

theorem Linked.patch {initial : Version} {state : Clients ι}
    (linked : Linked hash taskId initial state) (clock : Clock) (updates : Record) :
    Linked hash taskId initial (state.step hash taskId (.patch clock updates)) := by
  rcases patchContractFields_cases clock taskId updates state.disk with
    ⟨_, same⟩ | ⟨_, record, changed, patched, _, replaced⟩
  · have unchanged : state.step hash taskId (.patch clock updates) = state := by
      simp only [Clients.step, same]
    rw [unchanged]
    exact linked
  · obtain ⟨found, latest, current, last, carries⟩ := linked.current
    obtain rfl : found = record := Option.some.inj (current.symm.trans replaced.before)
    have kept := carries.congr (patchContract_get patched (by decide))
      (patchContract_get patched (by decide))
    exact ⟨linked.tracked.replaced replaced ⟨_, _, kept⟩, linked.plans, linked.chain,
      changed, latest, replaced.now, last, kept⟩

theorem Linked.write {initial : Version} {state : Clients ι}
    (linked : Linked hash taskId initial state) (client : ι) {clock : Clock}
    (dated : clock.today ≠ "") :
    Linked hash taskId initial (state.step hash taskId (.write client clock)) := by
  cases found : state.pending client with
  | none =>
      simp only [Clients.step, found]
      exact linked
  | some call =>
      obtain ⟨request, plan⟩ := call
      obtain ⟨named, sound⟩ := linked.plans client request plan found
      have plans : ∀ other asked made,
          Function.update state.pending client none other = some (asked, made) →
          asked.taskId = taskId ∧ PlanSound hash taskId asked made := by
        intro other asked made pending
        by_cases same : other = client
        · rw [same, Function.update_self] at pending
          cases pending
        · rw [Function.update_of_ne same] at pending
          exact linked.plans other asked made pending
      obtain ⟨record, latest, current, last, carries⟩ := linked.current
      simp only [Clients.step, found]
      rcases finish_cases dated linked.tracked named sound with
        ⟨noVersion, same⟩ | ⟨noVersion, old, changed, replaced, _, kept⟩ |
        ⟨version, old, changed, _, added, _, _, replaced, expected, previous, stamped, carriesNow⟩
      · rw [noVersion, same]
        exact ⟨linked.tracked, plans, by simpa using linked.chain,
          record, latest, current, by simpa using last, carries⟩
      · obtain rfl : record = old := Option.some.inj (current.symm.trans replaced.before)
        have carriesNow := carries.congr kept.revision kept.sequence
        rw [noVersion]
        exact ⟨linked.tracked.replaced replaced ⟨_, _, carriesNow⟩, plans,
          by simpa using linked.chain, changed, latest, replaced.now, by simpa using last,
          carriesNow⟩
      · obtain rfl : record = old := Option.some.inj (current.symm.trans replaced.before)
        -- the plan was made from a record with this revision, hence with its sequence
        have follows : latest.Follows version := by
          have revision := (previous.trans expected.symm).trans carries.revision_eq
          refine ⟨revision, ?_⟩
          rw [revision] at stamped
          have sequences := stamped.sequence_eq carries.stamped
          omega
        rw [added]
        refine ⟨linked.tracked.replaced replaced ⟨_, _, carriesNow⟩, plans, ?_,
          changed, version, replaced.now, ?_, carriesNow⟩
        · rw [Option.toList_some, ← List.cons_append, List.isChain_append]
          refine ⟨linked.chain, List.isChain_singleton _, ?_⟩
          intro left inLeft right inRight
          rw [last] at inLeft
          cases inLeft
          cases inRight
          exact follows
        · rw [Option.toList_some, ← List.cons_append, List.getLast?_concat]

theorem Linked.step {initial : Version} {state : Clients ι}
    (linked : Linked hash taskId initial state) {action : Action ι}
    (admissible : action.Admissible taskId) :
    Linked hash taskId initial (state.step hash taskId action) := by
  cases action with
  | read client clock request => exact linked.read client clock admissible
  | write client clock => exact linked.write client admissible
  | patch clock updates => exact linked.patch clock updates

/-- The version that a record stands for. -/
def versionOf (record : Record) : Version :=
  ⟨"", authorityRevision record, (authoritySequence record).getD 0⟩

omit [DecidableEq ι] in
theorem linked_start {disk : Disk} {record : Record} (tracked : Tracked hash taskId disk)
    (current : currentRecord disk taskId = some record) :
    Linked hash taskId (versionOf record) (Clients.start disk : Clients ι) := by
  obtain ⟨stored, identified⟩ := currentRecord_onDisk current
  obtain ⟨revision, sequence, carries⟩ := tracked.carries record stored identified
  refine ⟨tracked, fun client request plan pending => ?_, List.isChain_singleton _,
    record, versionOf record, current, rfl, ?_⟩
  · cases pending
  rw [versionOf, carries.revision_eq, carries.sequence_eq]
  exact carries

/-- A call whose expected revision is not the one of the current record writes
nothing. -/
theorem finish_stale {clock : Clock} {request : ReplaceRequest} {plan : Plan} {disk : Disk}
    {record : Record} (dated : clock.today ≠ "") (tracked : Tracked hash taskId disk)
    (named : request.taskId = taskId) (sound : PlanSound hash taskId request plan)
    (current : currentRecord disk taskId = some record)
    (stale : request.expectedRevision ≠ authorityRevision record) :
    (finish clock request plan disk).2 = disk := by
  rcases finish_cases dated tracked named sound with
    ⟨_, same⟩ | ⟨_, old, _, replaced, expected, _⟩ |
    ⟨_, old, _, _, _, _, _, replaced, expected, _⟩
  · exact same
  all_goals
    obtain rfl : record = old := Option.some.inj (current.symm.trans replaced.before)
    exact absurd expected.symm stale

/-- A call that returns a changed contract has added its version. -/
theorem finish_changed {clock : Clock} {request : ReplaceRequest} {plan : Plan} {disk : Disk}
    {mutation : TaskContractMutation}
    (returned : (finish clock request plan disk).1 = .ok mutation)
    (changed : mutation.changed = true) :
    plan.version? request disk = some ⟨mutation.previousRevision, mutation.authorityRevision,
      mutation.authoritySequence⟩ := by
  cases plan with
  | conflict => cases returned
  | unchanged task sequence =>
      cases returned
      cases changed
  | fields updates =>
      simp only [finish] at returned
      split at returned
      · cases returned
      · split at returned
        · cases returned
        · cases returned
          cases changed
      · cases returned
  | contract update =>
      have applies : contractApplies update disk = true := by
        by_contra refused
        have unwritten := (compareAndUpdateContract_refused clock
          (Bool.not_eq_true _ ▸ refused)).2
        simp only [finish] at returned
        split at returned
        · cases returned
        case h_2 updated after outcome =>
          exact unwritten (some updated) (congrArg Prod.fst outcome)
        · cases returned
      simp only [finish] at returned
      split at returned
      · cases returned
      · cases returned
        simp [Plan.version?, applies]
      · cases returned

/-- For any interleaving of replace calls and metadata patches on one task, the
applied writes follow one another without a gap, a call that returns a changed
contract is the last of them, and a stale call changes nothing. -/
theorem contract_revisions_chained {disk : Disk} {record : Record}
    (tracked : Tracked hash taskId disk) (found : currentRecord disk taskId = some record)
    {actions : List (Action ι)} (admissible : ∀ action ∈ actions, action.Admissible taskId) :
    let reached := run (Clients.step hash taskId) (Clients.start disk) actions
    (versionOf record :: reached.applied).IsChain Version.Follows ∧
      ∀ client request plan, reached.pending client = some (request, plan) →
      ∀ clock : Clock, clock.today ≠ "" →
        (∀ mutation, (finish clock request plan reached.disk).1 = .ok mutation →
          mutation.changed = true →
          (reached.step hash taskId (.write client clock)).applied = reached.applied ++
            [⟨mutation.previousRevision, mutation.authorityRevision,
              mutation.authoritySequence⟩]) ∧
        ∀ current, currentRecord reached.disk taskId = some current →
          request.expectedRevision ≠ authorityRevision current →
          (reached.step hash taskId (.write client clock)).disk = reached.disk := by
  intro reached
  have linked : Linked hash taskId (versionOf record) reached :=
    (along_of_forall_mem admissible (Clients.start disk)).invariant
      (Linked hash taskId (versionOf record)) (fun state action linked => linked.step)
      (linked_start tracked found)
  refine ⟨linked.chain, fun client request plan pending clock dated => ⟨?_, ?_⟩⟩
  · intro mutation returned changed
    simp only [Clients.step, pending, finish_changed returned changed, Option.toList_some]
  · intro current now stale
    obtain ⟨named, sound⟩ := linked.plans client request plan pending
    simp only [Clients.step, pending]
    exact finish_stale dated linked.tracked named sound now stale

/-- Write a sequence number in unary, with a sign that no hexadecimal digest has. -/
def unary (sequence : Int) : List Char :=
  (if sequence < 0 then '-' else '+') :: List.replicate sequence.natAbs '1'

def sampleRevision (sequence : Int) (behavior : String) : String :=
  if sequence = 1 ∧ behavior = "R2" then "4594e377a87e2c7d154533a0"
  else if sequence = 1 ∧ behavior = "R3" then "9eb77d9fbd7d8c672d4a99c8"
  else if sequence = 2 ∧ behavior = "R3" then "8d13f28ffc36857523f80f8e"
  else String.ofList (unary sequence)

def sampleSequence (revision : String) : Int :=
  if revision = "4594e377a87e2c7d154533a0" ∨ revision = "9eb77d9fbd7d8c672d4a99c8" then 1
  else if revision = "8d13f28ffc36857523f80f8e" then 2
  else
    match revision.toList with
    | '-' :: rest => -(rest.length : Int)
    | chars => (chars.length : Int) - 1

theorem unary_ne {sequence : Int} {text : String} (first : text.toList.head? ≠ some '+')
    (second : text.toList.head? ≠ some '-') : String.ofList (unary sequence) ≠ text := by
  rintro rfl
  rw [String.toList_ofList, unary] at first second
  split at first
  · exact second (by simp_all)
  · exact first rfl

theorem sampleSequence_revision (sequence : Int) (behavior : String) :
    sampleSequence (sampleRevision sequence behavior) = sequence := by
  unfold sampleRevision
  split
  case isTrue known => rw [known.1]; decide
  case isFalse =>
    split
    case isTrue known => rw [known.1]; decide
    case isFalse =>
      split
      case isTrue known => rw [known.1]; decide
      case isFalse =>
        rw [sampleSequence, if_neg, if_neg, String.toList_ofList, unary]
        · by_cases negative : sequence < 0
          · simp only [negative, if_true, List.length_replicate]
            omega
          · simp only [negative, if_false]
            change ((('+' :: List.replicate sequence.natAbs '1').length : Nat) : Int) - 1 = sequence
            rw [List.length_cons, List.length_replicate]
            omega
        · exact unary_ne (by decide) (by decide)
        · rintro (same | same)
          · exact unary_ne (by decide) (by decide) same
          · exact unary_ne (by decide) (by decide) same

/-- The revisions of the sample contracts, and an unmistakable text elsewhere. -/
def sampleHash : RevisionHash where
  digest := fun payload =>
    match payload.get "sequence" with
    | .int sequence => sampleRevision sequence ((payload.get "contract").textAt "behavior")
    | _ => ""
  separates := by
    intro first second sequence later one other same
    simp only [one, other] at same
    have sequences := congrArg sampleSequence same
    rwa [sampleSequence_revision, sampleSequence_revision] at sequences

def sampleTask : Task where
  title := "CAS"
  id := "TASK-CAS"

def sampleDisk : Disk := ⟨[asdict sampleTask], Dict.empty, Dict.empty⟩

def replaceBehavior (expected behavior : String) : ReplaceRequest where
  taskId := "TASK-CAS"
  expectedRevision := expected
  contract := .mapping (.obj [("behavior", .str behavior)])
  mechanical := mechanical_empty

/-- Two clients prepare from the same record; the second one writes too late and
replaces the contract again. -/
def raceActions : List (Action Bool) :=
  [.read false sampleClock (replaceBehavior "" "R2"),
    .read true sampleClock (replaceBehavior "" "R3"),
    .write false sampleClock, .write true sampleClock,
    .read true sampleClock (replaceBehavior "authority-r4594e377a87e2c7d154533a0" "R3"),
    .write true sampleClock]

theorem tracked_sampleDisk : Tracked sampleHash "TASK-CAS" sampleDisk := by
  have sole : (sampleDisk.active.filter (hasId "TASK-CAS")).length ≤ 1 := by decide +kernel
  refine ⟨sole, fun record stored _ => ⟨"", 0, ?_⟩⟩
  rcases stored with active | ⟨date, archived⟩
  · obtain rfl := List.mem_singleton.mp active
    exact ⟨by decide +kernel, by decide +kernel, .inl ⟨rfl, rfl⟩⟩
  · cases archived

theorem currentRecord_sampleDisk :
    currentRecord sampleDisk "TASK-CAS" = some (asdict sampleTask) := by
  have identified : hasId "TASK-CAS" (asdict sampleTask) = true :=
    (hasId_iff _ _).mpr (asdict_id sampleTask)
  rw [currentRecord, sampleDisk, List.find?_cons_of_pos identified, Option.some_or]

theorem contract_revisions_chained_race :
    let reached := run (Clients.step sampleHash "TASK-CAS") (Clients.start sampleDisk) raceActions
    (versionOf (asdict sampleTask) :: reached.applied).IsChain Version.Follows := by
  refine (contract_revisions_chained tracked_sampleDisk currentRecord_sampleDisk
    fun action member => ?_).1
  simp only [raceActions, List.mem_cons, List.not_mem_nil, or_false] at member
  rcases member with rfl | rfl | rfl | rfl | rfl | rfl
  · rfl
  · rfl
  · exact (by decide : sampleClock.today ≠ "")
  · exact (by decide : sampleClock.today ≠ "")
  · rfl
  · exact (by decide : sampleClock.today ≠ "")

/-- A task with a stamped contract and an execution binding. -/
def stampedRecord : Record :=
  Dict.ofEntries [("id", .str "TASK-CAS"), ("title", .str "CAS"),
    ("contract", .obj [("behavior", .str "R2")]),
    ("execution_binding", .obj [("owner", .str "operator")]),
    ("contract_authority_revision", .str "authority-r4594e377a87e2c7d154533a0"),
    ("contract_authority_sequence", .int 1)]

def stampedDisk : Disk := ⟨[stampedRecord], Dict.empty, Dict.empty⟩

def stampedTask : Record :=
  (get sampleClock "TASK-CAS" stampedDisk).toOption.join.getD Dict.empty

theorem get_stampedDisk : get sampleClock "TASK-CAS" stampedDisk = .ok (some stampedTask) := by
  have present : (get sampleClock "TASK-CAS" stampedDisk).toOption.join.isSome = true := by
    decide +kernel
  rw [stampedTask]
  generalize get sampleClock "TASK-CAS" stampedDisk = outcome at present ⊢
  rcases outcome with error | _ | task
  · cases present
  · cases present
  · rfl

theorem tracked_stampedDisk : Tracked sampleHash "TASK-CAS" stampedDisk := by
  have sole : (stampedDisk.active.filter (hasId "TASK-CAS")).length ≤ 1 := by decide +kernel
  refine ⟨sole, fun record stored _ => ⟨"authority-r4594e377a87e2c7d154533a0", 1, ?_⟩⟩
  rcases stored with active | ⟨date, archived⟩
  · obtain rfl := List.mem_singleton.mp active
    have made : authorityRevisionFor sampleHash "TASK-CAS"
        (Dict.ofEntries [("behavior", .str "R2")]) Dict.empty 1 =
          "authority-r4594e377a87e2c7d154533a0" := by decide +kernel
    exact ⟨by decide +kernel, by decide +kernel, .inr ⟨_, _, made.symm⟩⟩
  · cases archived

end ZaofuFormal.Tasks
