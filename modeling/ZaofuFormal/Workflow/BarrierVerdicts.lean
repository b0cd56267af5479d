import ZaofuFormal.Foundation.Runs
import ZaofuFormal.Workflow.BarrierReplay

/-!
# The recorded verdict of a barrier

The events of a run arrive one by one and every reconciliation appends its
verdicts.  The last recorded verdict of a group follows the latest events of
its dependencies exactly as long as no verdict that differs from the last one is
suppressed by an older one.
-/

namespace ZaofuFormal.Workflow

open Foundation

def Barrier.pairs (barrier : Barrier) : List (String × String) :=
  barrier.requiredEvents.zip barrier.failureEvents

/-- The latest event of every dependency is its success. -/
def Barrier.LatestSucceeded (barrier : Barrier) (grouped : Log) : Prop :=
  ∀ dependency ∈ barrier.pairs,
    (latestOf dependency.1 dependency.2 grouped).map ZfEvent.type = some dependency.1

/-- The latest event of some dependency is its failure. -/
def Barrier.LatestFailed (barrier : Barrier) (grouped : Log) : Prop :=
  ∃ dependency ∈ barrier.pairs, dependency.2 ≠ dependency.1 ∧
    (latestOf dependency.1 dependency.2 grouped).map ZfEvent.type = some dependency.2

instance (barrier : Barrier) (grouped : Log) : Decidable (barrier.LatestSucceeded grouped) :=
  inferInstanceAs (Decidable (∀ _ ∈ _, _))

instance (barrier : Barrier) (grouped : Log) : Decidable (barrier.LatestFailed grouped) :=
  inferInstanceAs (Decidable (∃ _ ∈ _, _))

variable {event : ZfEvent} {barrier : Barrier} {group : Group} {log : Log} {sha256 : Sha256}
  {stages : List WorkflowStageConfig}

theorem type_of_latestOf {success failure : String} {grouped : Log}
    (latest : latestOf success failure grouped = some event) :
    event.type = success ∨ event.type = failure :=
  of_decide_eq_true (List.mem_filter.mp (List.mem_of_getLast? latest)).2

theorem standing_succeeded_iff (grouped : Log) (success failure : String) :
    ((standing grouped success failure).success?.isSome = true) ↔
      (latestOf success failure grouped).map ZfEvent.type = some success := by
  unfold standing
  cases latestOf success failure grouped with
  | none => simp [Standing.success?]
  | some event =>
      by_cases succeeded : event.type = success
      · simp [Standing.success?, succeeded]
      · simp [Standing.success?, succeeded]

theorem standing_failed_iff (grouped : Log) (success failure : String) :
    ((standing grouped success failure).failure?.isSome = true) ↔
      failure ≠ success ∧
        (latestOf success failure grouped).map ZfEvent.type = some failure := by
  unfold standing
  cases latest : latestOf success failure grouped with
  | none => simp [Standing.failure?]
  | some event =>
      by_cases succeeded : event.type = success
      · simp only [succeeded, if_true, Standing.failure?, Option.isSome_none, Bool.false_eq_true,
          Option.map_some, Option.some.injEq, false_iff, not_and]
        exact fun different same => different same.symm
      · have failed := (type_of_latestOf latest).resolve_left succeeded
        have different : failure ≠ success := fun same => succeeded (failed.trans same)
        simp [Standing.failure?, failed, different]

theorem latestFailed_iff (barrier : Barrier) (grouped : Log) :
    barrier.LatestFailed grouped ↔ barrier.failed grouped ≠ [] := by
  rw [Ne, Barrier.failed, Barrier.standings, List.filterMap_eq_nil_iff]
  simp only [List.forall_mem_map, not_forall]
  constructor
  · rintro ⟨dependency, member, latest⟩
    have failed := (standing_failed_iff grouped dependency.1 dependency.2).mpr latest
    exact ⟨dependency, member, Option.isSome_iff_ne_none.mp failed⟩
  · rintro ⟨dependency, member, failed⟩
    exact ⟨dependency, member, (standing_failed_iff grouped dependency.1 dependency.2).mp
      (Option.isSome_iff_ne_none.mpr failed)⟩

theorem latestSucceeded_iff (barrier : Barrier) (grouped : Log) :
    barrier.LatestSucceeded grouped ↔
      (barrier.selected grouped).length = barrier.requiredEvents.length := by
  have total : barrier.requiredEvents.length = (barrier.standings grouped).length := by
    rw [Barrier.standings, List.length_map, List.length_zip, ← barrier.aligned, Nat.min_self]
  rw [total, Barrier.selected, List.length_filterMap_eq_countP, List.countP_eq_length,
    Barrier.standings]
  simp only [List.forall_mem_map, standing_succeeded_iff]
  rfl

theorem failed_eq_nil_of_latestSucceeded {grouped : Log}
    (succeeded : barrier.LatestSucceeded grouped) : barrier.failed grouped = [] := by
  by_contra failed
  obtain ⟨dependency, member, different, latest⟩ := (latestFailed_iff barrier grouped).mpr failed
  rw [succeeded dependency member] at latest
  exact different (Option.some.inj latest).symm

/-- The type of the last barrier event of a group. -/
def Barrier.lastVerdict (barrier : Barrier) (log : Log) (group : Group) : Option String :=
  (log.filter fun event =>
    decide (IsBarrierEvent event ∧ barrier.recordedGroup event = some group)).getLast?.map
      ZfEvent.type

theorem lastVerdict_append {later : Log}
    (foreign : ∀ event ∈ later, IsBarrierEvent event → barrier.recordedGroup event ≠ some group) :
    barrier.lastVerdict (log ++ later) group = barrier.lastVerdict log group := by
  have none : later.filter (fun event => decide
      (IsBarrierEvent event ∧ barrier.recordedGroup event = some group)) = [] := by
    rw [List.filter_eq_nil_iff]
    intro event member
    simpa using foreign event member
  rw [Barrier.lastVerdict, List.filter_append, none, List.append_nil]
  rfl

/-- The verdict of appended events of one type that are not all about other groups. -/
theorem lastVerdict_append_of_type {later : Log}
    {kind : String} (listed : event ∈ later) (verdict : IsBarrierEvent event)
    (about : barrier.recordedGroup event = some group)
    (uniform : ∀ other ∈ later, barrier.recordedGroup other = some group → other.type = kind) :
    barrier.lastVerdict (log ++ later) group = some kind := by
  have present : event ∈ later.filter fun event =>
      decide (IsBarrierEvent event ∧ barrier.recordedGroup event = some group) :=
    List.mem_filter.mpr ⟨listed, decide_eq_true ⟨verdict, about⟩⟩
  obtain ⟨last, found⟩ := Option.isSome_iff_exists.mp
    (List.getLast?_isSome.mpr (List.ne_nil_of_mem present))
  rw [Barrier.lastVerdict, List.filter_append, List.getLast?_append, found, Option.some_or,
    Option.map_some]
  obtain ⟨lastListed, meets⟩ := List.mem_filter.mp (List.mem_of_getLast? found)
  exact congrArg some (uniform last lastListed (of_decide_eq_true meets).2)

/-- An event arrives and the verdicts that it leads to are appended. -/
def reconcileStep (sha256 : Sha256) (stages : List WorkflowStageConfig) (writer : Writer)
    (log : Log) (event : ZfEvent) : Log :=
  appendDecisions writer (reconcileDependencyBarriers sha256 stages (log ++ [event]))
    (log ++ [event])

/-- The last verdict of the group is the one that its dependencies ask for. -/
def Barrier.Follows (barrier : Barrier) (sha256 : Sha256) (group : Group)
    (received after : Log) : Prop :=
  let grouped := barrier.scopedEvents sha256 (runViewOf received) received group
  (barrier.LatestSucceeded grouped → barrier.lastVerdict after group = some satisfiedEvent) ∧
    (barrier.LatestFailed grouped → barrier.lastVerdict after group = some blockedEvent)

/-- The verdict that the dependencies ask for is the last one already, or no
older one suppresses it. -/
def Barrier.Unhindered (barrier : Barrier) (sha256 : Sha256) (group : Group) (log : Log)
    (event : ZfEvent) : Prop :=
  let received := log ++ [event]
  let grouped := barrier.scopedEvents sha256 (runViewOf received) received group
  (barrier.LatestSucceeded grouped → barrier.lastVerdict log group = some satisfiedEvent ∨
    ¬barrier.Settled sha256 log group (barrier.selected grouped)) ∧
  (barrier.LatestFailed grouped → barrier.lastVerdict log group = some blockedEvent ∨
    ¬barrier.BlockRecorded sha256 log group (barrier.failed grouped))

instance (barrier : Barrier) (sha256 : Sha256) (group : Group) (received after : Log) :
    Decidable (barrier.Follows sha256 group received after) :=
  inferInstanceAs (Decidable (_ ∧ _))

instance (barrier : Barrier) (sha256 : Sha256) (group : Group) (log : Log) (event : ZfEvent) :
    Decidable (barrier.Unhindered sha256 group log event) :=
  inferInstanceAs (Decidable (_ ∧ _))

/-- The stages have one barrier of this id and digest. -/
def SoleBarrier (stages : List WorkflowStageConfig) (barrier : Barrier) : Prop :=
  barrier ∈ stages.filterMap WorkflowStageConfig.barrier? ∧
    ∀ other ∈ stages.filterMap WorkflowStageConfig.barrier?,
      other.barrierId = barrier.barrierId → other.barrierDigest = barrier.barrierDigest →
        other = barrier

theorem recordedGroup_eq_some (about : barrier.recordedGroup event = some group) :
    event.body.textAt "barrier_id" = barrier.barrierId ∧
      event.body.textAt "barrier_digest" = barrier.barrierDigest ∧
      (strippedAt event.body "workflow_run_id", strippedAt event.body "generation_key") =
        group := by
  unfold Barrier.recordedGroup at about
  dsimp only at about
  split at about
  · cases about
  rename_i named
  rw [not_or, not_not, not_not] at named
  split at about
  · cases about
  exact ⟨named.1, named.2, Option.some.inj about⟩

/-- A recorded verdict about this barrier and group is one that it returned. -/
theorem decide_of_recorded {decision : DependencyBarrierDecision}
    (sole : SoleBarrier stages barrier)
    (member : decision ∈ reconcileDependencyBarriers sha256 stages log)
    (records : decision.Records event) (about : barrier.recordedGroup event = some group) :
    barrier.verdict? sha256 log (runViewOf log) group = some decision := by
  obtain ⟨other, kept, otherGroup, _, found⟩ := mem_reconcile.mp member
  obtain ⟨source, _, grouped, carries⟩ := decision_carries found
  have leads := groupLeads grouped
  obtain ⟨id, digest, _⟩ := recordedGroup_eq_some about
  rw [records.body, textAt_of_get? carries.barrierId] at id
  rw [records.body, textAt_of_get? carries.barrierDigest] at digest
  have same := sole.2 other kept id digest
  subst same
  have read := records.recordedGroup carries leads.run leads.generation
  rw [Option.some.inj (about.symm.trans read)]
  exact found

theorem mem_groups_of_decide {view : RunView} {decision : DependencyBarrierDecision}
    (found : barrier.verdict? sha256 log view group = some decision) :
    group ∈ barrier.groups sha256 view log := by
  obtain ⟨source, member, _⟩ := decide_eq_some found
  obtain ⟨listed, meets⟩ := List.mem_filter.mp member
  obtain ⟨concerns, grouped⟩ := of_decide_eq_true meets
  refine List.mem_map.mpr ⟨toLex group, (Sorting.mem_sortedSet _ _).mpr ?_, rfl⟩
  exact List.mem_map.mpr ⟨group, List.mem_filterMap.mpr
    ⟨source, List.mem_filter.mpr ⟨listed, decide_eq_true concerns⟩, grouped⟩, rfl⟩

/-- The last verdict after a step: the one returned for the group, if there is one. -/
theorem lastVerdict_reconcileStep (writer : Writer) (group : Group)
    (sole : SoleBarrier stages barrier) (plain : ¬IsBarrierEvent event) :
    barrier.lastVerdict (reconcileStep sha256 stages writer log event) group =
      match barrier.verdict? sha256 (log ++ [event]) (runViewOf (log ++ [event])) group with
      | none => barrier.lastVerdict log group
      | some decision => some decision.eventType := by
  have arrived : barrier.lastVerdict (log ++ [event]) group = barrier.lastVerdict log group :=
    lastVerdict_append fun other member verdict => by
      rw [List.mem_singleton.mp member] at verdict
      exact absurd verdict plain
  obtain ⟨events, appended, records⟩ := appendDecisions_eq writer
    (reconcileDependencyBarriers sha256 stages (log ++ [event])) (log ++ [event])
  rw [reconcileStep, appended]
  have returned : ∀ other ∈ events, barrier.recordedGroup other = some group →
      ∃ decision, decision.Records other ∧
        barrier.verdict? sha256 (log ++ [event]) (runViewOf (log ++ [event])) group =
          some decision := by
    intro other member about
    obtain ⟨decision, listed, recorded⟩ := Lists.exists_mem_of_forall₂ records member
    exact ⟨decision, recorded, decide_of_recorded sole listed recorded about⟩
  cases found : barrier.verdict? sha256 (log ++ [event]) (runViewOf (log ++ [event])) group with
  | none =>
      refine (lastVerdict_append fun other member _ about => ?_).trans arrived
      obtain ⟨decision, _, decided⟩ := returned other member about
      rw [found] at decided
      cases decided
  | some decision =>
      obtain ⟨source, _, grouped, carries⟩ := decision_carries found
      have leads := groupLeads grouped
      have listed : decision ∈ reconcileDependencyBarriers sha256 stages (log ++ [event]) :=
        mem_reconcile.mpr ⟨barrier, sole.1, group, mem_groups_of_decide found, found⟩
      obtain ⟨own, present, recorded⟩ := Lists.exists_mem_of_forall₂ records.flip listed
      refine lastVerdict_append_of_type present (recorded.isBarrierEvent carries)
        (recorded.recordedGroup carries leads.run leads.generation) fun other member about => ?_
      obtain ⟨again, againRecorded, decided⟩ := returned other member about
      rw [found] at decided
      cases decided
      exact againRecorded.kind

/-- An event that is no barrier event is no record of a block or a satisfaction. -/
theorem blockRecorded_append_plain {failed : List ZfEvent} (plain : ¬IsBarrierEvent event) :
    barrier.BlockRecorded sha256 (log ++ [event]) group failed ↔
      barrier.BlockRecorded sha256 log group failed := by
  have other : event.type ≠ blockedEvent := fun same => plain (by simp [IsBarrierEvent, same])
  have none : [event].filterMap barrier.block? = [] := by
    simp [Barrier.block?, other]
  rw [Barrier.BlockRecorded, List.filterMap_append, none, List.append_nil]
  rfl

theorem settled_append_plain {selected : List ZfEvent} (plain : ¬IsBarrierEvent event) :
    barrier.Settled sha256 (log ++ [event]) group selected ↔
      barrier.Settled sha256 log group selected := by
  have other : event.type ≠ satisfiedEvent := fun same => plain (by simp [IsBarrierEvent, same])
  have none : [event].filterMap (barrier.settlement? sha256) = [] := by
    simp [Barrier.settlement?, other]
  rw [Barrier.Settled, List.filterMap_append, none, List.append_nil]
  rfl

/-- After one event the recorded verdict follows the dependencies exactly when no
older verdict hinders the one that they ask for. -/
theorem follows_step_iff (writer : Writer) (log : Log) (group : Group)
    (sole : SoleBarrier stages barrier) (plain : ¬IsBarrierEvent event) :
    barrier.Follows sha256 group (log ++ [event])
        (reconcileStep sha256 stages writer log event) ↔
      barrier.Unhindered sha256 group log event := by
  have verdict : barrier.lastVerdict (reconcileStep sha256 stages writer log event) group = _ :=
    lastVerdict_reconcileStep writer group sole plain
  unfold Barrier.Follows Barrier.Unhindered
  dsimp only
  rw [verdict]
  unfold Barrier.verdict?
  dsimp only
  generalize barrier.scopedEvents sha256 (runViewOf (log ++ [event])) (log ++ [event]) group =
    grouped
  by_cases failed : barrier.LatestFailed grouped
  · have several : barrier.failed grouped ≠ [] := (latestFailed_iff barrier grouped).mp failed
    have unmet : ¬barrier.LatestSucceeded grouped := fun succeeded =>
      several (failed_eq_nil_of_latestSucceeded succeeded)
    obtain ⟨source, last⟩ := Option.isSome_iff_exists.mp (List.getLast?_isSome.mpr several)
    rw [last]
    dsimp only
    by_cases recorded : barrier.BlockRecorded sha256 log group (barrier.failed grouped)
    · rw [if_pos ((blockRecorded_append_plain plain).mpr recorded)]
      simp [unmet, failed, recorded]
    · rw [if_neg fun both => recorded ((blockRecorded_append_plain plain).mp both)]
      simp [unmet, failed, recorded, Barrier.blocked]
  · have none : barrier.failed grouped = [] :=
      not_not.mp fun several => failed ((latestFailed_iff barrier grouped).mpr several)
    rw [none, List.getLast?_nil]
    dsimp only
    by_cases succeeded : barrier.LatestSucceeded grouped
    · have whole := (latestSucceeded_iff barrier grouped).mp succeeded
      by_cases settled : barrier.Settled sha256 log group (barrier.selected grouped)
      · rw [if_pos (.inr ((settled_append_plain plain).mpr settled))]
        simp [succeeded, failed, settled]
      · rw [if_neg (not_or.mpr ⟨not_not.mpr whole, fun both =>
          settled ((settled_append_plain plain).mp both)⟩)]
        have selected : barrier.selected grouped ≠ [] := by
          intro empty
          rw [empty, List.length_nil] at whole
          exact absurd barrier.joins (by omega)
        obtain ⟨source, last⟩ := Option.isSome_iff_exists.mp (List.getLast?_isSome.mpr selected)
        rw [last]
        simp [succeeded, failed, settled, Barrier.satisfied]
    · rw [if_pos (.inl fun whole => succeeded ((latestSucceeded_iff barrier grouped).mpr whole))]
      simp [succeeded, failed]

/-- Along a run of events, with the verdicts appended after each of them, the last
recorded verdict follows the dependencies exactly when no verdict that they ask
for and that differs from the last one is hindered by an older one. -/
theorem verdicts_follow_iff (sha256 : Sha256) (stages : List WorkflowStageConfig)
    (writer : Writer) (barrier : Barrier) (sole : SoleBarrier stages barrier) (group : Group)
    (base : Log) (events : List ZfEvent) (plain : ∀ event ∈ events, ¬IsBarrierEvent event) :
    Runs.Along (reconcileStep sha256 stages writer)
        (fun log event => barrier.Follows sha256 group (log ++ [event])
          (reconcileStep sha256 stages writer log event)) base events ↔
      Runs.Along (reconcileStep sha256 stages writer) (barrier.Unhindered sha256 group)
        base events := by
  induction events generalizing base with
  | nil => exact Iff.rfl
  | cons event rest ih =>
      exact and_congr (follows_step_iff writer base group sole (plain event List.mem_cons_self))
        (ih _ fun other member => plain other (List.mem_cons_of_mem _ member))

def synthesizeBarrier : Barrier := synthesizeStage.barrier?.get (by decide +kernel)

theorem synthesizeBarrier_sole : SoleBarrier [synthesizeStage] synthesizeBarrier := by
  have only : [synthesizeStage].filterMap WorkflowStageConfig.barrier? = [synthesizeBarrier] :=
    List.filterMap_cons_some (Option.some_get (by decide +kernel)).symm
  rw [SoleBarrier, only]
  refine ⟨List.mem_singleton_self _, fun other member _ _ => List.mem_singleton.mp member⟩

def synthesizeGroup : Group :=
  ("run-1", "75fde28ec6c3dc023b9f5424c2d2bb5f681db1dd7850383c3d2bc544062c16ea")

def synthesizeBase : Log := [synthesizeEvent "workflow.invoke.requested" "e-1"]

/-- Both dependencies succeed, and then the second one fails. -/
def failingEvents : List ZfEvent :=
  [synthesizeEvent "collect-a.completed" "e-2", synthesizeEvent "collect-b.completed" "e-3",
    synthesizeEvent "collect-b.failed" "e-5"]

theorem failingEvents_follow :
    Runs.Along (reconcileStep synthesizeSha256 [synthesizeStage] synthesizeWriter)
      (fun log event => synthesizeBarrier.Follows synthesizeSha256 synthesizeGroup (log ++ [event])
        (reconcileStep synthesizeSha256 [synthesizeStage] synthesizeWriter log event))
      synthesizeBase failingEvents :=
  (verdicts_follow_iff synthesizeSha256 [synthesizeStage] synthesizeWriter synthesizeBarrier
    synthesizeBarrier_sole synthesizeGroup synthesizeBase failingEvents (by decide)).mpr
      (by decide +kernel)

/-- The second dependency succeeds again after it failed. -/
def recoveringEvents : List ZfEvent :=
  failingEvents ++ [synthesizeEvent "collect-b.completed" "e-7"]

/-- The first satisfaction suppresses the one after the recovery: the group stays
blocked although every dependency succeeded last. -/
theorem recovery_stays_blocked :
    synthesizeBarrier.lastVerdict (Runs.run
        (reconcileStep synthesizeSha256 [synthesizeStage] synthesizeWriter) synthesizeBase
        recoveringEvents) synthesizeGroup = some blockedEvent ∧
      ¬Runs.Along (reconcileStep synthesizeSha256 [synthesizeStage] synthesizeWriter)
        (fun log event => synthesizeBarrier.Follows synthesizeSha256 synthesizeGroup
          (log ++ [event])
          (reconcileStep synthesizeSha256 [synthesizeStage] synthesizeWriter log event))
        synthesizeBase recoveringEvents := by
  decide +kernel

end ZaofuFormal.Workflow
