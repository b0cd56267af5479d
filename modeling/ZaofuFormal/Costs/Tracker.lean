import ZaofuFormal.Foundation.Counters
import ZaofuFormal.Foundation.Runs
import ZaofuFormal.Workflow.Redrive

/-!
# Cumulative usage

A provider reports cumulative counters.  The tracker keeps the growth of each
counter since the last snapshot that it has recorded for the series, and records
no snapshot without growth.
-/

namespace ZaofuFormal.Costs

open Foundation Foundation.Counters
open Workflow (FloatValue)

inductive TokenKey where
  | inputTokens
  | outputTokens
  | cacheCreationTokens
  | cacheCreation1hTokens
  | cacheReadTokens
  deriving DecidableEq

def tokenKeys : List TokenKey :=
  [.inputTokens, .outputTokens, .cacheCreationTokens, .cacheCreation1hTokens, .cacheReadTokens]

theorem mem_tokenKeys (key : TokenKey) : key ∈ tokenKeys := by
  cases key <;> decide

/-- `max(0.0, value)`. -/
def clamp (value : FloatValue) : FloatValue :=
  if FloatValue.lt (.finite 0) value then value else .finite 0

/-- A provider cost that `max` has made non-negative. -/
abbrev Charge := { value : FloatValue // clamp value = value }

theorem clamp_clamp (value : FloatValue) : clamp (clamp value) = clamp value := by
  unfold clamp
  split
  · rfl
  · exact if_neg (by decide)

def Charge.zero : Charge := ⟨.finite 0, by decide⟩

/-- One cumulative reading of the five counters and of the provider's cost. -/
structure Snapshot where
  tokens : TokenKey → Nat
  providerCost : Option Charge

structure CostEntry where
  role : String
  instanceId : String
  tokens : TokenKey → Nat
  model : String
  backend : String
  sourceEventId : String
  usageSampleId : String
  dedupeKey : String
  usageSemantics : String
  usageSeriesId : String
  cumulativeUsage : Option Snapshot
  accountingBaseline : Bool

/-- The arguments of `record_cumulative_usage`. -/
structure UsageCall where
  role : String
  instanceId : String
  tokens : TokenKey → Int
  model : String := "default"
  backend : String := ""
  providerCostUsd : Option FloatValue := none
  sourceEventId : String := ""
  usageSampleId : String := ""
  usageSeriesId : String := ""

/-- `text or other`. -/
def textOr (text other : String) : String := if text = "" then other else text

def dedupeKeyOf (sourceEventId usageSampleId : String) : String :=
  if usageSampleId ≠ "" then "usage:" ++ usageSampleId
  else if sourceEventId ≠ "" then "event:" ++ sourceEventId
  else ""

def UsageCall.dedupeKey (call : UsageCall) : String :=
  dedupeKeyOf call.sourceEventId call.usageSampleId

def CostEntry.key (entry : CostEntry) : String :=
  textOr entry.dedupeKey (dedupeKeyOf entry.sourceEventId entry.usageSampleId)

def existingDedupeKeys (entries : List CostEntry) : List String :=
  (entries.map CostEntry.key).filter fun key => decide (key ≠ "")

def UsageCall.seriesId (call : UsageCall) : String :=
  textOr call.usageSeriesId (PyString.join ':'
    ["cumulative", textOr call.instanceId call.role, textOr call.backend "unknown",
      textOr call.model "default"])

def UsageCall.snapshot (call : UsageCall) : Snapshot where
  tokens key := (call.tokens key).toNat
  providerCost := call.providerCostUsd.map fun cost => ⟨clamp cost, clamp_clamp cost⟩

/-- The record of a call. -/
def UsageCall.entry (call : UsageCall) (tokens : TokenKey → Nat) (accountingBaseline : Bool) :
    CostEntry where
  role := call.role
  instanceId := textOr call.instanceId call.role
  tokens := tokens
  model := call.model
  backend := call.backend
  sourceEventId := call.sourceEventId
  usageSampleId := call.usageSampleId
  dedupeKey := call.dedupeKey
  usageSemantics := "cumulative"
  usageSeriesId := call.seriesId
  cumulativeUsage := some call.snapshot
  accountingBaseline := accountingBaseline

/-- Append one record, unless a record has its dedupe key. -/
def recordUsage (entries : List CostEntry) (call : UsageCall) (tokens : TokenKey → Nat)
    (accountingBaseline : Bool) : List CostEntry :=
  if call.dedupeKey ≠ "" ∧ call.dedupeKey ∈ existingDedupeKeys entries then entries
  else entries ++ [call.entry tokens accountingBaseline]

/-- The last snapshot that is recorded for a series. -/
def previousSnapshot (entries : List CostEntry) (seriesId : String) : Option Snapshot :=
  (entries.reverse.find? fun entry =>
    decide (entry.usageSemantics = "cumulative" ∧ entry.usageSeriesId = seriesId) &&
      entry.cumulativeUsage.isSome).bind CostEntry.cumulativeUsage

/-- The first snapshot of a session whose history an older series has recorded. -/
def isLegacySeriesMigration (entries : List CostEntry) (call : UsageCall) : Bool :=
  let stem :=
    PyString.join ':' ["disk_reader", call.instanceId, textOr call.backend "unknown"] ++ ":"
  PyString.startsWith call.seriesId stem && decide (call.seriesId ≠ stem ++ "default") &&
    entries.any fun entry =>
      decide (entry.usageSemantics = "cumulative" ∧ entry.usageSeriesId = stem ++ "default" ∧
        textOr entry.instanceId entry.role = call.instanceId) && entry.cumulativeUsage.isSome

/-- The growth of one counter since the previous snapshot. -/
def delta (previous : Option Snapshot) (current : Snapshot) (key : TokenKey) : Nat :=
  match previous with
  | none => current.tokens key
  | some before => growth (before.tokens key) (current.tokens key)

/-- The provider's cost has grown; a difference of floats has the sign of the comparison. -/
def providerAdvances (previous : Option Snapshot) (current : Snapshot) : Bool :=
  match current.providerCost with
  | none => false
  | some cost =>
      let before := (previous.bind Snapshot.providerCost).getD Charge.zero
      if previous.isNone || cost.1.lt before.1 then FloatValue.lt (.finite 0) cost.1
      else before.1.lt cost.1

def recordCumulativeUsage (entries : List CostEntry) (call : UsageCall) : List CostEntry :=
  let previous := previousSnapshot entries call.seriesId
  if previous.isNone && isLegacySeriesMigration entries call then
    recordUsage entries call (fun _ => 0) true
  else if (tokenKeys.all fun key => decide (delta previous call.snapshot key = 0)) &&
      !providerAdvances previous call.snapshot then
    entries
  else recordUsage entries call (delta previous call.snapshot) false

/-- The tokens that the records of a series add up to. -/
def recordedTokens (entries : List CostEntry) (seriesId : String) (key : TokenKey) : Nat :=
  ((entries.filter fun entry => decide (entry.usageSeriesId = seriesId)).map fun entry =>
    entry.tokens key).sum

def seriesSnapshots (seriesId : String) (calls : List UsageCall) : List Snapshot :=
  (calls.filter fun call => decide (call.seriesId = seriesId)).map UsageCall.snapshot

/-- The recorded tokens are the last readings of the stretches without a restart. -/
def CumulativeTelescopes (seriesId : String) (calls : List UsageCall) : Prop :=
  ∀ key, recordedTokens (Runs.run recordCumulativeUsage [] calls) seriesId key =
    (stretchEnds ((seriesSnapshots seriesId calls).map fun snapshot => snapshot.tokens key)).sum

/-- No two calls have one dedupe key. -/
def DistinctKeys (calls : List UsageCall) : Prop :=
  ((calls.map UsageCall.dedupeKey).filter fun key => decide (key ≠ "")).Nodup

instance (calls : List UsageCall) : Decidable (DistinctKeys calls) :=
  inferInstanceAs (Decidable (List.Nodup _))

/-- The call does not take over the history of an older series. -/
def Unmigrated (seriesId : String) (entries : List CostEntry) (call : UsageCall) : Prop :=
  call.seriesId = seriesId →
    ((previousSnapshot entries seriesId).isNone && isLegacySeriesMigration entries call) = false

instance (seriesId : String) (entries : List CostEntry) (call : UsageCall) :
    Decidable (Unmigrated seriesId entries call) :=
  inferInstanceAs (Decidable (_ → _))

/-- A missing cost reads as zero. -/
def Snapshot.cost (snapshot : Snapshot) : Charge := snapshot.providerCost.getD Charge.zero

def Snapshot.zero : Snapshot := ⟨fun _ => 0, none⟩

/-- Every counter, and the cost, reads as before or reads zero. -/
def Quiet (last current : Snapshot) : Prop :=
  (∀ key ∈ tokenKeys, current.tokens key = last.tokens key ∨ current.tokens key = 0) ∧
    (current.cost = last.cost ∨ current.cost = Charge.zero)

instance : DecidableRel Quiet :=
  fun last current => inferInstanceAs (Decidable ((∀ key ∈ tokenKeys,
    current.tokens key = last.tokens key ∨ current.tokens key = 0) ∧
      (current.cost = last.cost ∨ current.cost = Charge.zero)))

theorem quiet_steady (key : TokenKey) : Steady (fun snapshot => snapshot.tokens key) Quiet where
  value quiet := quiet.1 key (mem_tokenKeys key)
  trans first second := by
    refine ⟨fun key member => ?_, ?_⟩
    · rcases second.1 key member with same | zero
      · rw [same]
        exact first.1 key member
      · exact Or.inr zero
    · rcases second.2 with same | zero
      · rw [same]
        exact first.2
      · exact Or.inr zero

theorem growth_eq_zero_iff (last current : Nat) :
    growth last current = 0 ↔ current = last ∨ current = 0 := by
  unfold growth
  split <;> omega

theorem delta_eq (previous : Option Snapshot) (current : Snapshot) (key : TokenKey) :
    delta previous current key =
      growth ((previous.getD Snapshot.zero).tokens key) (current.tokens key) := by
  cases previous with
  | none => exact (if_neg (Nat.not_lt_zero _)).symm
  | some before => rfl

theorem charge_cases (charge : Charge) :
    charge = Charge.zero ∨ (∃ value, 0 < value ∧ charge.1 = .finite value) ∨
      charge.1 = .infinite false := by
  obtain ⟨value, fixed⟩ := charge
  unfold clamp at fixed
  split at fixed
  · rename_i positive
    cases value with
    | finite value => exact Or.inr (Or.inl ⟨value, of_decide_eq_true positive, rfl⟩)
    | infinite negative =>
        cases negative with
        | false => exact Or.inr (Or.inr rfl)
        | true => cases positive
    | notANumber => cases positive
  · exact Or.inl (Subtype.ext fixed.symm)

/-- Charges are compared as non-negative numbers. -/
theorem charge_still_iff (last current : Charge) :
    (if current.1.lt last.1 then FloatValue.lt (.finite 0) current.1 else last.1.lt current.1) =
      false ↔ current = last ∨ current = Charge.zero := by
  rcases charge_cases current with rfl | ⟨value, positive, same⟩ | same
  · refine iff_of_true ?_ (Or.inr rfl)
    rcases charge_cases last with rfl | ⟨before, above, read⟩ | read
    · rfl
    · rw [read]
      simp [Charge.zero, FloatValue.lt, above]
    · rw [read]
      rfl
  · have nonzero : current ≠ Charge.zero := by
      intro zero
      rw [zero] at same
      cases same
      exact absurd positive (lt_irrefl _)
    rw [or_iff_left nonzero, Subtype.ext_iff, same]
    rcases charge_cases last with rfl | ⟨before, above, read⟩ | read
    · simp [Charge.zero, FloatValue.lt, positive.ne', positive]
    · rw [read]
      simp only [FloatValue.lt, FloatValue.finite.injEq]
      grind
    · rw [read]
      simp [FloatValue.lt, positive]
  · have nonzero : current ≠ Charge.zero := by
      intro zero
      rw [zero] at same
      cases same
    rw [or_iff_left nonzero, Subtype.ext_iff, same]
    rcases charge_cases last with rfl | ⟨before, above, read⟩ | read
    · simp [Charge.zero, FloatValue.lt]
    · rw [read]
      simp [FloatValue.lt]
    · rw [read]
      simp [FloatValue.lt]

theorem providerAdvances_iff (previous : Option Snapshot) (current : Snapshot) :
    providerAdvances previous current = false ↔
      current.cost = (previous.getD Snapshot.zero).cost ∨ current.cost = Charge.zero := by
  unfold providerAdvances Snapshot.cost
  cases current.providerCost with
  | none => exact iff_of_true rfl (Or.inr rfl)
  | some cost =>
      cases previous with
      | none =>
          have start := charge_still_iff Charge.zero cost
          have unread : (if cost.1.lt Charge.zero.1 then FloatValue.lt (.finite 0) cost.1
              else Charge.zero.1.lt cost.1) = FloatValue.lt (.finite 0) cost.1 := by
            split <;> rfl
          rw [unread] at start
          exact start
      | some before =>
          exact charge_still_iff (before.providerCost.getD Charge.zero) cost

/-- A snapshot is passed over exactly when it is quiet. -/
theorem quiet_iff (previous : Option Snapshot) (current : Snapshot) :
    ((tokenKeys.all fun key => decide (delta previous current key = 0)) &&
      !providerAdvances previous current) = true ↔
      Quiet (previous.getD Snapshot.zero) current := by
  rw [Bool.and_eq_true, Bool.not_eq_true', providerAdvances_iff, List.all_eq_true]
  refine and_congr (forall₂_congr fun key _ => ?_) Iff.rfl
  rw [decide_eq_true_eq, delta_eq, growth_eq_zero_iff]

section Records

variable (entries : List CostEntry) (call : UsageCall) (tokens : TokenKey → Nat) (baseline : Bool)
  (seriesId : String)

theorem previousSnapshot_append :
    previousSnapshot (entries ++ [call.entry tokens baseline]) seriesId =
      if call.seriesId = seriesId then some call.snapshot
      else previousSnapshot entries seriesId := by
  unfold previousSnapshot
  rw [List.reverse_append, List.reverse_singleton, List.singleton_append, List.find?_cons]
  by_cases same : call.seriesId = seriesId
  · simp [UsageCall.entry, same]
  · simp [UsageCall.entry, same]

theorem recordedTokens_append (key : TokenKey) :
    recordedTokens (entries ++ [call.entry tokens baseline]) seriesId key =
      recordedTokens entries seriesId key + if call.seriesId = seriesId then tokens key else 0 := by
  unfold recordedTokens
  rw [List.filter_append, List.map_append, List.sum_append]
  by_cases same : call.seriesId = seriesId
  · simp [UsageCall.entry, same]
  · simp [UsageCall.entry, same]

theorem mem_existingDedupeKeys_append (key : String) :
    key ∈ existingDedupeKeys (entries ++ [call.entry tokens baseline]) ↔
      key ∈ existingDedupeKeys entries ∨ (key = call.dedupeKey ∧ key ≠ "") := by
  have own : (call.entry tokens baseline).key = call.dedupeKey := by
    change textOr call.dedupeKey call.dedupeKey = call.dedupeKey
    exact ite_self _
  simp only [existingDedupeKeys, List.map_append, List.map_cons, List.map_nil, own,
    List.filter_append, List.mem_append, List.mem_filter, List.mem_singleton, decide_eq_true_eq]

end Records

/-- No record has the dedupe key of one of the calls. -/
def Fresh (entries : List CostEntry) (calls : List UsageCall) : Prop :=
  ∀ call ∈ calls, call.dedupeKey ≠ "" → call.dedupeKey ∉ existingDedupeKeys entries

section Steps

variable {entries : List CostEntry} {call : UsageCall} {rest : List UsageCall}

theorem recordUsage_fresh (fresh : Fresh entries (call :: rest)) (tokens : TokenKey → Nat)
    (baseline : Bool) :
    recordUsage entries call tokens baseline = entries ++ [call.entry tokens baseline] :=
  if_neg fun both => fresh call List.mem_cons_self both.1 both.2

/-- A fresh call leaves the records as they are or appends its own. -/
theorem record_cases (fresh : Fresh entries (call :: rest)) :
    recordCumulativeUsage entries call = entries ∨ ∃ tokens baseline,
      recordCumulativeUsage entries call = entries ++ [call.entry tokens baseline] := by
  unfold recordCumulativeUsage
  dsimp only
  split
  · exact Or.inr ⟨_, _, recordUsage_fresh fresh _ _⟩
  split
  · exact Or.inl rfl
  · exact Or.inr ⟨_, _, recordUsage_fresh fresh _ _⟩

theorem Fresh.step (fresh : Fresh entries (call :: rest)) (distinct : DistinctKeys (call :: rest)) :
    Fresh (recordCumulativeUsage entries call) rest ∧ DistinctKeys rest := by
  have later : DistinctKeys rest := by
    refine List.Nodup.sublist (List.Sublist.filter _ ?_) distinct
    exact List.sublist_cons_self _ _
  refine ⟨fun other member named present => ?_, later⟩
  have before : other.dedupeKey ∉ existingDedupeKeys entries :=
    fresh other (List.mem_cons_of_mem _ member) named
  rcases record_cases fresh with same | ⟨tokens, baseline, appended⟩
  · rw [same] at present
    exact before present
  · rw [appended, mem_existingDedupeKeys_append] at present
    obtain ⟨same, _⟩ := present.resolve_left before
    unfold DistinctKeys at distinct
    rw [List.map_cons, List.filter_cons_of_pos (by rw [← same]; exact decide_eq_true named),
      List.nodup_cons] at distinct
    refine distinct.1 (List.mem_filter.mpr ⟨?_, ?_⟩)
    · exact same ▸ List.mem_map_of_mem member
    · rw [← same]
      exact decide_eq_true named

/-- A call of the series grows its records as the meter does. -/
theorem record_of_series (fresh : Fresh entries (call :: rest))
    (unmigrated : Unmigrated call.seriesId entries call) (key : TokenKey) :
    recordedTokens (recordCumulativeUsage entries call) call.seriesId key =
        recordedTokens entries call.seriesId key +
          growth (((previousSnapshot entries call.seriesId).getD Snapshot.zero).tokens key)
            (call.snapshot.tokens key) ∧
      (previousSnapshot (recordCumulativeUsage entries call) call.seriesId).getD Snapshot.zero =
        keep Quiet ((previousSnapshot entries call.seriesId).getD Snapshot.zero)
          call.snapshot := by
  unfold recordCumulativeUsage
  dsimp only
  rw [if_neg (Bool.eq_false_iff.mp (unmigrated rfl))]
  split
  · rename_i still
    have quiet := (quiet_iff _ _).mp still
    refine ⟨?_, (if_pos quiet).symm⟩
    rw [(growth_eq_zero_iff _ _).mpr (quiet.1 key (mem_tokenKeys key)), Nat.add_zero]
  · rename_i grown
    have loud := fun quiet => grown ((quiet_iff _ _).mpr quiet)
    rw [recordUsage_fresh fresh, recordedTokens_append, previousSnapshot_append, if_pos rfl,
      if_pos rfl, delta_eq]
    exact ⟨rfl, (if_neg loud).symm⟩

theorem record_of_other (fresh : Fresh entries (call :: rest)) {seriesId : String}
    (other : call.seriesId ≠ seriesId) (key : TokenKey) :
    recordedTokens (recordCumulativeUsage entries call) seriesId key =
        recordedTokens entries seriesId key ∧
      previousSnapshot (recordCumulativeUsage entries call) seriesId =
        previousSnapshot entries seriesId := by
  rcases record_cases fresh with same | ⟨tokens, baseline, appended⟩
  · rw [same]
    exact ⟨rfl, rfl⟩
  · rw [appended, recordedTokens_append, previousSnapshot_append, if_neg other, if_neg other]
    exact ⟨rfl, rfl⟩

end Steps

/-- A run records of a series what the meter counts on its snapshots. -/
theorem recordedTokens_run {seriesId : String} (key : TokenKey) {calls : List UsageCall}
    {entries : List CostEntry} (fresh : Fresh entries calls) (distinct : DistinctKeys calls)
    (unmigrated : Runs.Along recordCumulativeUsage (Unmigrated seriesId) entries calls) :
    recordedTokens (Runs.run recordCumulativeUsage entries calls) seriesId key =
      recordedTokens entries seriesId key +
        metered (fun snapshot => snapshot.tokens key) Quiet
          ((previousSnapshot entries seriesId).getD Snapshot.zero)
          (seriesSnapshots seriesId calls) := by
  induction calls generalizing entries with
  | nil => rfl
  | cons call rest ih =>
      obtain ⟨allowed, later⟩ := unmigrated
      obtain ⟨freshLater, distinctLater⟩ := fresh.step distinct
      rw [Runs.run_cons, ih freshLater distinctLater later]
      by_cases same : call.seriesId = seriesId
      · subst same
        obtain ⟨recorded, kept⟩ := record_of_series fresh allowed key
        have snapshots : seriesSnapshots call.seriesId (call :: rest) =
            call.snapshot :: seriesSnapshots call.seriesId rest := by
          simp [seriesSnapshots]
        rw [recorded, kept, snapshots, metered, Nat.add_assoc]
      · obtain ⟨recorded, kept⟩ := record_of_other fresh same key
        have snapshots : seriesSnapshots seriesId (call :: rest) =
            seriesSnapshots seriesId rest := by
          simp [seriesSnapshots, same]
        rw [recorded, kept, snapshots]

/-- A series telescopes if and only if no counter is zero in a quiet snapshot and
back at its old height in the next one. -/
theorem cumulative_usage_telescopes_iff (seriesId : String) (calls : List UsageCall)
    (distinct : DistinctKeys calls)
    (unmigrated : Runs.Along recordCumulativeUsage (Unmigrated seriesId) [] calls) :
    CumulativeTelescopes seriesId calls ↔
      ∀ key, ¬SomeReturn (fun snapshot => snapshot.tokens key) Quiet
        (seriesSnapshots seriesId calls) := by
  refine forall_congr' fun key => ?_
  have fresh : Fresh [] calls := fun _ _ _ => List.not_mem_nil
  have start : (previousSnapshot [] seriesId).getD Snapshot.zero = Snapshot.zero := rfl
  rw [recordedTokens_run key fresh distinct unmigrated, start]
  exact (Eq.congr_left (Nat.zero_add _)).trans (metered_eq_sum_iff (quiet_steady key) rfl _)

/-- A call that reports input and output tokens of one series. -/
def sampleCall (sample : String) (input output : Int) : UsageCall where
  role := "dev"
  instanceId := "dev"
  tokens := fun key =>
    if key = .inputTokens then input else if key = .outputTokens then output else 0
  usageSampleId := sample
  usageSeriesId := "session"

def restartedCalls : List UsageCall :=
  [sampleCall "s1" 10 5, sampleCall "s2" 12 6, sampleCall "s3" 3 1]

theorem restarted_calls_never_return :
    ¬SomeReturn (fun snapshot => snapshot.tokens .inputTokens) Quiet
      (seriesSnapshots "session" restartedCalls) := by
  have telescopes : CumulativeTelescopes "session" restartedCalls := by
    intro key
    cases key <;> decide +kernel
  exact (cumulative_usage_telescopes_iff "session" restartedCalls (by decide +kernel)
    (by decide +kernel)).mp telescopes .inputTokens

/-- The input counter restarts while the output counter stands still. -/
def regainedCalls : List UsageCall :=
  [sampleCall "s1" 10 5, sampleCall "s2" 0 5, sampleCall "s3" 12 5]

theorem regained_calls_lost :
    DistinctKeys regainedCalls ∧
      Runs.Along recordCumulativeUsage (Unmigrated "session") [] regainedCalls ∧
      ¬CumulativeTelescopes "session" regainedCalls := by
  refine ⟨by decide +kernel, by decide +kernel, fun telescopes => ?_⟩
  exact absurd (telescopes .inputTokens) (by decide +kernel)

end ZaofuFormal.Costs
