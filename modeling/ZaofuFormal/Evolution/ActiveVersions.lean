import ZaofuFormal.Evolution.CapabilityRegistry
import ZaofuFormal.Foundation.Digest

/-!
# The active version of an asset

The pointers of the registry name exactly the retained version and exactly the
canary of each asset, as long as no version is retained beside another one and
no retained version is superseded.  Retaining leaves an earlier retained
version in its state, and superseding leaves the pointer where it was.
-/

namespace ZaofuFormal.Evolution.CapabilityRegistry

open Foundation
open Fallible (bind_eq_ok refuse_eq_ok_iff required_eq_ok_iff)

theorem at_notMem_intText (version : Int) : '@' ∉ JsonText.intText version := by
  have digits : ∀ value, '@' ∉ Nat.toDigits 10 value := fun value member => by
    have digit := Nat.isDigit_of_mem_toDigits (by decide) (by decide) member
    exact absurd digit (by decide)
  cases version with
  | ofNat value => exact digits value
  | negSucc value =>
      rw [JsonText.intText, List.mem_cons, not_or]
      exact ⟨by decide, digits (value + 1)⟩

theorem intText_injective {first second : Int} (firstPositive : 0 < first)
    (secondPositive : 0 < second) (same : JsonText.intText first = JsonText.intText second) :
    first = second := by
  obtain ⟨number, rfl⟩ := Int.eq_ofNat_of_zero_le firstPositive.le
  obtain ⟨other, rfl⟩ := Int.eq_ofNat_of_zero_le secondPositive.le
  have read := congrArg (fun digits => Nat.ofDigitChars 10 digits 0) same
  simp only [JsonText.intText, Nat.ofDigitChars_ten_toDigits] at read
  rw [read]

variable {assetId key : String} {applied : Bool} {row new : Asset} {state : AssetState}
  {pointers : Dict String String}

/-- A key determines the asset and the version that it names. -/
theorem assetKey_inj {otherId : String} {version otherVersion : Int}
    (named : assetKey assetId version = .ok key)
    (otherNamed : assetKey otherId otherVersion = .ok key) :
    assetId = otherId ∧ version = otherVersion := by
  unfold assetKey at named otherNamed
  by_cases invalid : assetId = "" ∨ version < 1
  · rw [if_pos invalid] at named
    cases named
  by_cases otherInvalid : otherId = "" ∨ otherVersion < 1
  · rw [if_pos otherInvalid] at otherNamed
    cases otherNamed
  rw [if_neg invalid] at named
  rw [if_neg otherInvalid] at otherNamed
  have texts := congrArg String.toList
    ((Except.ok.inj named).trans (Except.ok.inj otherNamed).symm)
  simp only [String.toList_append, String.toList_ofList, List.append_assoc] at texts
  obtain ⟨ids, digits⟩ := Lists.append_cons_inj_of_notMem_tail
    (at_notMem_intText version) (at_notMem_intText otherVersion) texts
  refine ⟨String.toList_injective ids, intText_injective ?_ ?_ digits⟩
  · exact lt_of_lt_of_le Int.zero_lt_one (not_lt.mp (not_or.mp invalid).2)
  · exact lt_of_lt_of_le Int.zero_lt_one (not_lt.mp (not_or.mp otherInvalid).2)

theorem assetKey_ne_empty {version : Int}
    (named : assetKey assetId version = .ok key) : key ≠ "" := by
  rintro rfl
  unfold assetKey at named
  split at named
  · cases named
  · have chars := congrArg String.toList (Except.ok.inj named)
    simp at chars

/-- A row stands under the key of its own asset and version. -/
def Identified (key : String) (row : Asset) : Prop := assetKey row.assetId row.version = .ok key

/-- The registry that a call leaves behind. -/
inductive Effect (data : Registry) : Call → Registry → Prop
  | kept (call : Call) : Effect data call data
  | proposed (call : Propose) (key : String) (row : Asset) (identified : Identified key row)
      (absent : data.assets.get? key = none) (state : row.state = .candidate) :
      Effect data (.propose call) { data with
        revision := data.revision + 1
        assets := data.assets.insert key row }
  | touched (call : Call) (key : String) (row new : Asset) (actions : Dict String Action)
      (found : data.assets.get? key = some row) (assetId : new.assetId = row.assetId)
      (version : new.version = row.version) (state : new.state = row.state)
      (previous : new.previousActiveKey = row.previousActiveKey) :
      Effect data call { data with
        revision := data.revision + 1
        assets := data.assets.insert key new
        actions }
  | moved (call : Transition) (target : AssetState) (key : String) (row : Asset)
      (named : AssetState.ofText? call.targetState = some target)
      (keyed : assetKey call.assetId call.version = .ok key)
      (found : data.assets.get? key = some row) (allowed : target ∈ assetTransitions row.state)
      (checked : assertTransition data row call.assetId key target = .ok ()) :
      Effect data (.transition call) (data.move call target key row)

theorem effect_replayed {data next : Registry} {prior : Action} {targetState actionId : String}
    (call : Call)
    (answered : replayed data prior key targetState actionId = .ok (row, applied, next)) :
    Effect data call next := by
  unfold replayed at answered
  split at answered
  · cases answered
  · split at answered
    · cases answered
      exact .kept call
    · cases answered

theorem effect_transition {data next : Registry} {call : Transition}
    (answered : transition data call = .ok (row, applied, next)) :
    Effect data (.transition call) next := by
  unfold transition at answered
  obtain ⟨target, named, answered⟩ := bind_eq_ok answered
  obtain ⟨key, keyed, answered⟩ := bind_eq_ok answered
  cases used : data.actions.get? call.actionId with
  | some prior =>
      rw [used] at answered
      exact effect_replayed _ answered
  | none =>
      rw [used] at answered
      obtain ⟨old, found, answered⟩ := bind_eq_ok answered
      obtain ⟨_, _, answered⟩ := bind_eq_ok answered
      obtain ⟨_, allowed, answered⟩ := bind_eq_ok answered
      obtain ⟨_, checked, answered⟩ := bind_eq_ok answered
      cases answered
      exact .moved call target key old (required_eq_ok_iff.mp named) keyed
        (required_eq_ok_iff.mp found) (not_not.mp (refuse_eq_ok_iff.mp allowed)) checked

theorem effect_recordOutcome {env : Env} {data next : Registry} {call : RecordOutcome}
    (answered : recordOutcome env data call = .ok (row, applied, next)) :
    Effect data (.recordOutcome call) next := by
  unfold recordOutcome at answered
  obtain ⟨_, _, answered⟩ := bind_eq_ok answered
  obtain ⟨_, _, answered⟩ := bind_eq_ok answered
  obtain ⟨key, _, answered⟩ := bind_eq_ok answered
  obtain ⟨old, found, answered⟩ := bind_eq_ok answered
  obtain ⟨_, _, answered⟩ := bind_eq_ok answered
  split at answered
  · cases answered
    exact .kept _
  · obtain ⟨evaluation, _, answered⟩ := bind_eq_ok answered
    cases answered
    exact .touched _ key old _ data.actions (required_eq_ok_iff.mp found) rfl rfl rfl rfl

theorem effect_recordTargetValidation {data next : Registry} {call : RecordTargetValidation}
    (answered : recordTargetValidation data call = .ok (row, applied, next)) :
    Effect data (.recordTargetValidation call) next := by
  unfold recordTargetValidation at answered
  obtain ⟨key, _, answered⟩ := bind_eq_ok answered
  cases used : data.actions.get? call.actionId with
  | some prior =>
      rw [used] at answered
      exact effect_replayed _ answered
  | none =>
      rw [used] at answered
      obtain ⟨old, found, answered⟩ := bind_eq_ok answered
      obtain ⟨_, _, answered⟩ := bind_eq_ok answered
      obtain ⟨_, _, answered⟩ := bind_eq_ok answered
      cases answered
      exact .touched _ key old _ _ (required_eq_ok_iff.mp found) rfl rfl rfl rfl

/-- The row of a proposal names its asset and version, as a candidate. -/
theorem proposedRow_eq_ok {env : Env} {call : Propose} {version : Int}
    (proposed : proposedRow env call assetId version = .ok row) :
    row.assetId = assetId ∧ row.version = version ∧ row.state = .candidate := by
  unfold proposedRow at proposed
  iterate 8 obtain ⟨_, _, proposed⟩ := bind_eq_ok proposed
  cases proposed
  exact ⟨rfl, rfl, rfl⟩

theorem effect_propose {env : Env} {data next : Registry} {call : Propose}
    (answered : propose env data call = .ok (row, applied, next)) :
    Effect data (.propose call) next := by
  unfold propose at answered
  obtain ⟨version, _, answered⟩ := bind_eq_ok answered
  obtain ⟨_, _, answered⟩ := bind_eq_ok answered
  obtain ⟨key, keyed, answered⟩ := bind_eq_ok answered
  obtain ⟨_, _, answered⟩ := bind_eq_ok answered
  obtain ⟨new, proposed, answered⟩ := bind_eq_ok answered
  obtain ⟨assetId, versionSame, state⟩ := proposedRow_eq_ok proposed
  cases present : data.assets.get? key with
  | some existing =>
      rw [present] at answered
      obtain ⟨_, _, answered⟩ := bind_eq_ok answered
      cases answered
      exact .kept _
  | none =>
      rw [present] at answered
      cases answered
      refine .proposed call key row ?_ present state
      rw [Identified, assetId, versionSame]
      exact keyed

theorem effect_step (env : Env) (data : Registry) (call : Call) :
    Effect data call (step env data call) := by
  unfold step
  cases answered : perform env data call with
  | error error => exact .kept call
  | ok answer =>
      cases call with
      | propose call => exact effect_propose answered
      | transition call => exact effect_transition answered
      | recordOutcome call => exact effect_recordOutcome answered
      | recordTargetValidation call => exact effect_recordTargetValidation answered

/-- A version of the asset stands under the key, in the given state. -/
def InState (data : Registry) (assetId key : String) (state : AssetState) : Prop :=
  ∃ row, data.assets.get? key = some row ∧ row.assetId = assetId ∧ row.state = state

/-- The pointers name exactly the retained version and exactly the canary. -/
structure PointersCoherent (data : Registry) : Prop where
  active : ∀ assetId key, data.activeVersions.get? assetId = some key ↔
    InState data assetId key .activeRetained
  canary : ∀ assetId key, data.canaryVersions.get? assetId = some key ↔
    InState data assetId key .canaryActive

/-- The invariant of the runs that keep the pointers coherent: no retained
version remembers another one to be restored. -/
structure Coherent (data : Registry) : Prop extends PointersCoherent data where
  identified : ∀ key row, data.assets.get? key = some row → Identified key row
  restores : ∀ key row, data.assets.get? key = some row → row.state = .activeRetained →
    row.previousActiveKey = ""

/-- No version is retained beside another one, and no retained version is superseded. -/
def Admissible (data : Registry) : Call → Prop
  | .transition call => ∀ entry ∈ data.assets.entries, entry.2.assetId = call.assetId →
      entry.2.state = .activeRetained →
      (call.targetState = "active_retained" → entry.2.version = call.version) ∧
      (call.targetState = "superseded" → entry.2.version ≠ call.version)
  | _ => True

instance (data : Registry) (call : Call) : Decidable (Admissible data call) := by
  cases call with
  | transition call => exact inferInstanceAs (Decidable (∀ entry ∈ data.assets.entries, _))
  | propose call => exact inferInstanceAs (Decidable True)
  | recordOutcome call => exact inferInstanceAs (Decidable True)
  | recordTargetValidation call => exact inferInstanceAs (Decidable True)

theorem text_of_ofText? {text : String}
    (named : AssetState.ofText? text = some state) : text = state.text := by
  have same := List.find?_some named
  exact (beq_iff_eq.mp same).symm

variable {data next : Registry} {call : Call}

/-- Rewriting the row of one key changes the states at that key only. -/
theorem inState_insert {other : String} (assets : next.assets = data.assets.insert key new) :
    InState next assetId other state ↔
      if other = key then new.assetId = assetId ∧ new.state = state
      else InState data assetId other state := by
  unfold InState
  rw [assets]
  by_cases here : other = key
  · rw [if_pos here, here]
    simp [Dict.get?_insert_self]
  · rw [if_neg here]
    simp [Dict.get?_insert_ne _ _ here]

theorem InState.eq_of_found
    (present : InState data assetId key state) (found : data.assets.get? key = some row) :
    row.assetId = assetId ∧ row.state = state := by
  obtain ⟨other, otherFound, id, stands⟩ := present
  obtain rfl := Option.some.inj (found.symm.trans otherFound)
  exact ⟨id, stands⟩

/-- A pointer map keeps naming what stands in one state when the row of a key
that is in that state neither before nor after is rewritten. -/
theorem pointers_kept (coherent : ∀ assetId other, pointers.get? assetId = some other ↔
      InState data assetId other state)
    (assets : next.assets = data.assets.insert key new)
    (before : ∀ row, data.assets.get? key = some row → row.state ≠ state)
    (after : new.state ≠ state) (assetId other : String) :
    pointers.get? assetId = some other ↔ InState next assetId other state := by
  rw [coherent, inState_insert assets]
  by_cases here : other = key
  · rw [if_pos here, here]
    refine iff_of_false ?_ fun both => after both.2
    rintro ⟨row, found, _, stands⟩
    exact before row found stands
  · rw [if_neg here]

/-- Rewriting a row without changing its asset and state keeps a pointer map. -/
theorem pointers_touched (coherent : ∀ assetId other, pointers.get? assetId = some other ↔
      InState data assetId other state)
    (assets : next.assets = data.assets.insert key new)
    (found : data.assets.get? key = some row) (assetSame : new.assetId = row.assetId)
    (stateSame : new.state = row.state) (assetId other : String) :
    pointers.get? assetId = some other ↔ InState next assetId other state := by
  rw [coherent, inState_insert assets]
  by_cases here : other = key
  · rw [if_pos here, here, assetSame, stateSame]
    constructor
    · exact fun present => present.eq_of_found found
    · rintro ⟨id, stands⟩
      exact ⟨row, found, id, stands⟩
  · rw [if_neg here]

/-- Pointing an asset to a key puts that key, and no other of the asset, into the state. -/
theorem pointers_inserted {owner : String}
    (coherent : ∀ assetId other, pointers.get? assetId = some other ↔
      InState data assetId other state)
    (assets : next.assets = data.assets.insert key new) (owned : new.assetId = owner)
    (stands : new.state = state) (alone : ∀ other, ¬InState data owner other state)
    (before : ∀ assetId, ¬InState data assetId key state) (assetId other : String) :
    (pointers.insert owner key).get? assetId = some other ↔ InState next assetId other state := by
  rw [Dict.get?_insert, inState_insert assets, owned]
  by_cases here : assetId = owner
  · rw [if_pos here, here, Option.some_inj]
    by_cases same : other = key
    · rw [if_pos same]
      exact iff_of_true same.symm ⟨rfl, stands⟩
    · rw [if_neg same]
      exact iff_of_false (Ne.symm same) (alone other)
  · rw [if_neg here, coherent]
    by_cases same : other = key
    · rw [if_pos same, same]
      exact iff_of_false (before assetId) fun both => here both.1.symm
    · rw [if_neg same]

/-- Dropping the pointer of an asset goes with the only key leaving the state. -/
theorem pointers_erased {owner : String}
    (coherent : ∀ assetId other, pointers.get? assetId = some other ↔
      InState data assetId other state)
    (assets : next.assets = data.assets.insert key new) (left : new.state ≠ state)
    (pointing : pointers.get? owner = some key) (assetId other : String) :
    (pointers.erase owner).get? assetId = some other ↔ InState next assetId other state := by
  have here := (coherent owner key).mp pointing
  rw [Dict.get?_erase, inState_insert assets]
  by_cases asset : assetId = owner
  · rw [if_pos asset, asset]
    refine iff_of_false (by simp) ?_
    by_cases same : other = key
    · rw [if_pos same]
      exact fun both => left both.2
    · rw [if_neg same]
      intro present
      have pointed := (coherent owner other).mpr present
      exact same (Option.some.inj (pointed.symm.trans pointing))
  · rw [if_neg asset, coherent]
    by_cases same : other = key
    · rw [if_pos same, same]
      refine iff_of_false (fun present => ?_) fun both => left both.2
      obtain ⟨row, found, id, _⟩ := here
      exact asset ((present.eq_of_found found).1.symm.trans id)
    · rw [if_neg same]

/-- The pointers move with four of the target states, each entered from few states. -/
theorem source_of_transition (target state : AssetState)
    (allowed : target ∈ assetTransitions state) :
    (target = .activeRetained → state = .canaryActive) ∧
      (target = .canaryActive → state = .approved) ∧
      (target = .revoked → state = .canaryActive ∨ state = .activeRetained) ∧
      (target = .superseded → state = .activeRetained) ∧
      (target ∉ [.activeRetained, .canaryActive, .revoked, .superseded] →
        state ≠ .activeRetained ∧ state ≠ .canaryActive) := by
  cases state <;> simp only [assetTransitions, List.mem_cons, List.not_mem_nil, or_false] at allowed
  all_goals (try rcases allowed with rfl | rfl | rfl) <;> simp at *

theorem Coherent.key_ne_empty (coherent : Coherent data)
    (present : InState data assetId key state) : key ≠ "" := by
  obtain ⟨row, found, _⟩ := present
  exact assetKey_ne_empty (coherent.identified key row found)

/-- A canary starts only where the asset has none. -/
theorem no_canary (coherent : Coherent data)
    (found : data.assets.get? key = some row) (state : row.state = .approved)
    (checked : assertTransition data row assetId key .canaryActive = .ok ()) :
    data.canaryVersions.get? assetId = none := by
  unfold assertTransition at checked
  obtain ⟨_, _, checked⟩ := bind_eq_ok checked
  rw [if_pos rfl] at checked
  unfold assertCanarySlot at checked
  obtain ⟨_, _, checked⟩ := bind_eq_ok checked
  have free := refuse_eq_ok_iff.mp checked
  cases pointer : data.canaryVersions.get? assetId with
  | none => rfl
  | some other =>
      have present := (coherent.canary assetId other).mp pointer
      rw [pointed, pointer] at free
      have same : other = key := by
        by_contra different
        exact free ⟨coherent.key_ne_empty present, different⟩
      rw [same] at present
      have stands := (present.eq_of_found found).2
      rw [state] at stands
      cases stands

variable {env : Env}

theorem identified_insert (coherent : Coherent data)
    (assets : next.assets = data.assets.insert key new) (identified : Identified key new) :
    ∀ other row, next.assets.get? other = some row → Identified other row := by
  intro other row found
  rw [assets, Dict.get?_insert] at found
  split at found
  · rename_i here
    rw [here, ← Option.some.inj found]
    exact identified
  · exact coherent.identified other row found

theorem restores_insert (coherent : Coherent data)
    (assets : next.assets = data.assets.insert key new)
    (restores : new.state = .activeRetained → new.previousActiveKey = "") :
    ∀ other row, next.assets.get? other = some row → row.state = .activeRetained →
      row.previousActiveKey = "" := by
  intro other row found
  rw [assets, Dict.get?_insert] at found
  split at found
  · rw [← Option.some.inj found]
    exact restores
  · exact coherent.restores other row found

/-- No other version of the asset is retained when an admissible call retains one. -/
theorem no_active (coherent : Coherent data) {call : Transition}
    (admissible : Admissible data (.transition call))
    (retains : call.targetState = "active_retained")
    (keyed : assetKey call.assetId call.version = .ok key)
    (found : data.assets.get? key = some row) (state : row.state = .canaryActive) :
    data.activeVersions.get? call.assetId = none := by
  cases pointer : data.activeVersions.get? call.assetId with
  | none => rfl
  | some other =>
      obtain ⟨old, oldFound, oldAsset, stands⟩ := (coherent.active call.assetId other).mp pointer
      have versions := (admissible (other, old)
        ((data.assets.get?_eq_some_iff other old).mp oldFound) oldAsset stands).1 retains
      have oldKeyed := coherent.identified other old oldFound
      rw [Identified, oldAsset, versions, keyed] at oldKeyed
      rw [← Except.ok.inj oldKeyed] at oldFound
      obtain rfl := Option.some.inj (found.symm.trans oldFound)
      rw [state] at stands
      cases stands

theorem no_state_of_pointer (coherent : ∀ assetId other, pointers.get? assetId = some other ↔
      InState data assetId other state)
    (absent : pointers.get? assetId = none) (other : String) :
    ¬InState data assetId other state := by
  intro present
  rw [← coherent, absent] at present
  cases present

theorem Asset.move_state (row : Asset) (call : Transition) (target : AssetState)
    (previousKey : String) : (row.move call target previousKey).state = target := rfl

theorem Registry.move_assets (data : Registry) (call : Transition) (target : AssetState)
    (key : String) (row : Asset) : (data.move call target key row).assets =
      data.assets.insert key (row.move call target (pointed data.activeVersions call.assetId)) :=
  rfl

/-- A key stands in one state only. -/
theorem not_inState
    (found : data.assets.get? key = some row) (other : row.state ≠ state) (assetId : String) :
    ¬InState data assetId key state := fun present => other (present.eq_of_found found).2

theorem not_state_of_found
    (found : data.assets.get? key = some row) (other : row.state ≠ state) (old : Asset)
    (oldFound : data.assets.get? key = some old) : old.state ≠ state := by
  rw [← Option.some.inj (found.symm.trans oldFound)]
  exact other

/-- A call that retains a canary points the asset to it. -/
theorem coherent_retained (coherent : Coherent data) {call : Transition}
    (owned : row.assetId = call.assetId) (found : data.assets.get? key = some row)
    (state : row.state = .canaryActive)
    (inactive : data.activeVersions.get? call.assetId = none) :
    PointersCoherent (data.move call .activeRetained key row) where
  active := pointers_inserted coherent.active (data.move_assets call .activeRetained key row)
    owned rfl (no_state_of_pointer coherent.active inactive)
    (not_inState found (by rw [state]; decide))
  canary := by
    have pointing := (coherent.canary call.assetId key).mpr ⟨row, found, owned, state⟩
    have left : (row.move call .activeRetained (pointed data.activeVersions call.assetId)).state ≠
        .canaryActive := by
      rw [Asset.move_state]
      decide
    exact pointers_erased coherent.canary (data.move_assets call .activeRetained key row) left
      pointing

theorem coherent_canary (coherent : Coherent data) {call : Transition}
    (owned : row.assetId = call.assetId) (found : data.assets.get? key = some row)
    (state : row.state = .approved) (free : data.canaryVersions.get? call.assetId = none) :
    PointersCoherent (data.move call .canaryActive key row) where
  active := by
    have other : (row.move call .canaryActive (pointed data.activeVersions call.assetId)).state ≠
        .activeRetained := by
      rw [Asset.move_state]
      decide
    exact pointers_kept coherent.active (data.move_assets call .canaryActive key row)
      (not_state_of_found found (by rw [state]; decide)) other
  canary := pointers_inserted coherent.canary (data.move_assets call .canaryActive key row)
    owned rfl (no_state_of_pointer coherent.canary free)
    (not_inState found (by rw [state]; decide))

/-- Revoking removes whichever pointer names the version. -/
theorem coherent_revoked (coherent : Coherent data) {call : Transition}
    (owned : row.assetId = call.assetId) (found : data.assets.get? key = some row) :
    PointersCoherent (data.move call .revoked key row) := by
  have assets := data.move_assets call .revoked key row
  have retained : (row.move call .revoked (pointed data.activeVersions call.assetId)).state ≠
      .activeRetained := by
    rw [Asset.move_state]
    decide
  have canary : (row.move call .revoked (pointed data.activeVersions call.assetId)).state ≠
      .canaryActive := by
    rw [Asset.move_state]
    decide
  constructor
  · by_cases pointing : data.activeVersions.get? call.assetId = some key
    · have stands := (((coherent.active _ _).mp pointing).eq_of_found found).2
      have moved : (data.move call .revoked key row).activeVersions =
          data.activeVersions.erase call.assetId := by
        simp only [Registry.move, movedActive]
        rw [if_pos pointing, if_neg (not_not.mpr (coherent.restores key row found stands))]
      rw [moved]
      exact pointers_erased coherent.active assets retained pointing
    · have moved : (data.move call .revoked key row).activeVersions = data.activeVersions := by
        simp only [Registry.move, movedActive]
        rw [if_neg pointing]
      rw [moved]
      refine pointers_kept coherent.active assets (not_state_of_found found fun stands => ?_)
        retained
      exact pointing ((coherent.active _ _).mpr ⟨row, found, owned, stands⟩)
  · by_cases pointing : data.canaryVersions.get? call.assetId = some key
    · have moved : (data.move call .revoked key row).canaryVersions =
          data.canaryVersions.erase call.assetId := by
        simp only [Registry.move, movedCanary]
        rw [if_pos pointing]
      rw [moved]
      exact pointers_erased coherent.canary assets canary pointing
    · have moved : (data.move call .revoked key row).canaryVersions = data.canaryVersions := by
        simp only [Registry.move, movedCanary]
        rw [if_neg pointing]
      rw [moved]
      refine pointers_kept coherent.canary assets (not_state_of_found found fun stands => ?_)
        canary
      exact pointing ((coherent.canary _ _).mpr ⟨row, found, owned, stands⟩)

/-- The other target states move no pointer, and are entered from states without one. -/
theorem coherent_unpointed (coherent : Coherent data) {call : Transition} {target : AssetState}
    (found : data.assets.get? key = some row)
    (target_mem : target ∉
      [AssetState.activeRetained, .canaryActive, .revoked, .superseded])
    (before : row.state ≠ .activeRetained ∧ row.state ≠ .canaryActive) :
    PointersCoherent (data.move call target key row) := by
  have assets := data.move_assets call target key row
  simp only [List.mem_cons, List.not_mem_nil, or_false, not_or] at target_mem
  obtain ⟨retained, canary, revoked, superseded⟩ := target_mem
  have active : (data.move call target key row).activeVersions = data.activeVersions := by
    simp only [Registry.move, movedActive]
  have canaries : (data.move call target key row).canaryVersions = data.canaryVersions := by
    simp only [Registry.move, movedCanary]
  constructor
  · rw [active]
    exact pointers_kept coherent.active assets (not_state_of_found found before.1) retained
  · rw [canaries]
    exact pointers_kept coherent.canary assets (not_state_of_found found before.2) canary

theorem Effect.coherent (effect : Effect data call next) (coherent : Coherent data)
    (admissible : Admissible data call) : Coherent next := by
  cases effect with
  | kept call => exact coherent
  | proposed call key row identified absent state =>
      have before : ∀ state old, data.assets.get? key = some old → old.state ≠ state := by
        intro state old found
        rw [absent] at found
        cases found
      exact {
        active := pointers_kept coherent.active rfl (before _) (by rw [state]; decide)
        canary := pointers_kept coherent.canary rfl (before _) (by rw [state]; decide)
        identified := identified_insert coherent rfl identified
        restores := restores_insert coherent rfl fun retained => by
          rw [state] at retained
          cases retained }
  | touched call key row new actions found assetId version state previous =>
      exact {
        active := pointers_touched coherent.active rfl found assetId state
        canary := pointers_touched coherent.canary rfl found assetId state
        identified := identified_insert coherent rfl (by
          rw [Identified, assetId, version]
          exact coherent.identified key row found)
        restores := restores_insert coherent rfl fun retained => by
          rw [previous]
          exact coherent.restores key row found (state ▸ retained) }
  | moved call target key row named keyed found allowed checked =>
      have identified := coherent.identified key row found
      obtain ⟨owned, versioned⟩ := assetKey_inj identified keyed
      obtain ⟨retains, starts, revokes, supersedes, others⟩ :=
        source_of_transition target row.state allowed
      have pointers : PointersCoherent (data.move call target key row) ∧
          (target = .activeRetained → pointed data.activeVersions call.assetId = "") := by
        by_cases special : target ∈
            [AssetState.activeRetained, .canaryActive, .revoked, .superseded]
        · simp only [List.mem_cons, List.not_mem_nil, or_false] at special
          rcases special with rfl | rfl | rfl | rfl
          · have inactive := no_active coherent admissible (text_of_ofText? named) keyed found
              (retains rfl)
            refine ⟨coherent_retained coherent owned found (retains rfl) inactive, fun _ => ?_⟩
            rw [pointed, inactive]
            rfl
          · exact ⟨coherent_canary coherent owned found (starts rfl)
              (no_canary coherent found (starts rfl) checked), fun same => by cases same⟩
          · exact ⟨coherent_revoked coherent owned found, fun same => by cases same⟩
          · have entry := (data.assets.get?_eq_some_iff key row).mp found
            exact absurd versioned
              ((admissible (key, row) entry owned (supersedes rfl)).2 (text_of_ofText? named))
        · exact ⟨coherent_unpointed coherent found special (others special),
            fun same => absurd (same ▸ List.mem_cons_self) special⟩
      exact {
        toPointersCoherent := pointers.1
        identified := identified_insert coherent (data.move_assets call target key row) identified
        restores := by
          refine restores_insert coherent (data.move_assets call target key row) fun retained => ?_
          rw [Asset.move_state] at retained
          rw [Asset.move, if_pos retained]
          exact pointers.2 retained }

theorem coherent_empty : Coherent Registry.empty where
  active := fun _ _ => iff_of_false (by simp [Registry.empty])
    fun ⟨_, found, _⟩ => by simp [Registry.empty] at found
  canary := fun _ _ => iff_of_false (by simp [Registry.empty])
    fun ⟨_, found, _⟩ => by simp [Registry.empty] at found
  identified := fun _ _ found => by simp [Registry.empty] at found
  restores := fun _ _ found => by simp [Registry.empty] at found

/-- The retained versions of one asset among the rows that are selected. -/
def selectedRetained (env : Env) (data : Registry) (context : Json) (now assetId : String) :
    List Asset :=
  (resolveAssets env data context now).selected.filter fun row =>
    decide (row.assetId = assetId) && decide (row.state = .activeRetained)

theorem selectedRetained_length_le (coherent : PointersCoherent data) (env : Env) (context : Json)
    (now assetId : String) : (selectedRetained env data context now assetId).length ≤ 1 := by
  -- The rows are the values of entries with distinct keys, so the entries are compared.
  have entries : ∃ items : List (String × Asset), items.Sublist data.assets.sortKeys.entries ∧
      selectedRetained env data context now assetId = items.map Prod.snd ∧
      ∀ item ∈ items, item.2.assetId = assetId ∧ item.2.state = .activeRetained := by
    refine ⟨(data.assets.sortKeys.entries.filter fun entry =>
      applicabilityReason env entry.2 context now == "").filter fun entry =>
        decide (entry.2.assetId = assetId) && decide (entry.2.state = .activeRetained), ?_, ?_, ?_⟩
    · exact List.filter_sublist.trans List.filter_sublist
    · simp only [selectedRetained, resolveAssets, Dict.values, List.filter_map]
      rfl
    · intro item member
      have kept := (List.mem_filter.mp member).2
      simpa using kept
  obtain ⟨items, part, same, retained⟩ := entries
  rw [same, List.length_map]
  have keys : (items.map Prod.fst).Nodup :=
    data.assets.sortKeys.nodupKeys.sublist (part.map Prod.fst)
  have pointing : ∀ item ∈ items, data.activeVersions.get? assetId = some item.1 ∧
      data.assets.get? item.1 = some item.2 := by
    intro item member
    have found := (data.assets.sortKeys.get?_eq_some_iff item.1 item.2).mpr (part.subset member)
    rw [Dict.get?_sortKeys] at found
    exact ⟨(coherent.active assetId item.1).mpr ⟨item.2, found, retained item member⟩, found⟩
  refine Lists.length_le_one_of_forall_eq keys.of_map fun first firstIn second secondIn => ?_
  obtain ⟨firstPointed, firstFound⟩ := pointing first firstIn
  obtain ⟨secondPointed, secondFound⟩ := pointing second secondIn
  have keySame := Option.some.inj (firstPointed.symm.trans secondPointed)
  rw [keySame] at firstFound
  exact Prod.ext keySame (Option.some.inj (firstFound.symm.trans secondFound))

/-- In every run that neither retains a version beside another one nor
supersedes a retained one, the pointers stay coherent. -/
theorem run_coherent (env : Env) (calls : List Call)
    (admissible : Runs.Along (step env) Admissible Registry.empty calls) :
    Coherent (after env calls) :=
  admissible.invariant Coherent
    (fun data call coherent allowed => (effect_step env data call).coherent coherent allowed)
    coherent_empty

/-- The property of one registry: the pointers are coherent, and no resolution
selects two retained versions of an asset. -/
def ActiveVersionsCoherent (env : Env) (data : Registry) : Prop :=
  PointersCoherent data ∧
    ∀ context now assetId, (selectedRetained env data context now assetId).length ≤ 1

theorem activeVersions_coherent (env : Env) (calls : List Call)
    (admissible : Runs.Along (step env) Admissible Registry.empty calls) :
    ActiveVersionsCoherent env (after env calls) := by
  have coherent := (run_coherent env calls admissible).toPointersCoherent
  exact ⟨coherent, selectedRetained_length_le coherent env⟩

/-- SHA-256 at the text that the sample outcome digests. -/
def sampleEnv : Env where
  sha256 := fun text => (Digest.tableDigest [
    ("\x7b\"asset_key\":\"evo@1\",\"usage_ref\":\"task://1\"\x7d\n",
      "569bc62f21c3a19730c4eafb0acb7a5855df8041353134cc56e3bda49efbb556")]
    (String.ofList text)).toList
  fromIsoFormat := fun _ => none
  normalizedOutcomeEvaluation := fun _ _ => .ok (.obj [("baseline_ref", .str ""),
    ("candidate_ref", .str ""), ("holdout_matched", .bool false), ("reuse_gain", .null)])

def sampleTransition (targetState actionId : String) (expectedRevision : Int) : Call :=
  .transition ⟨"evo", 1, targetState, expectedRevision, actionId, .obj [], "t"⟩

/-- The first version of an asset is proposed, approved, tried and retained. -/
def retainedCalls : List Call :=
  [.propose ⟨.obj [("asset_id", .str "evo"), ("version", .int 1),
      ("proposal_fingerprint", .str "fp"),
      ("activation", .obj [("canary_scope_ref", .str "scope")])], .obj [], "t"⟩,
    sampleTransition "validated" "a1" 1, sampleTransition "approved" "a2" 2,
    sampleTransition "canary_active" "a3" 3,
    .recordOutcome ⟨"evo", 1, "task://1", true, "passed", .obj [], .obj [], .obj [], "t"⟩,
    sampleTransition "active_retained" "a4" 5]

theorem retainedCalls_admissible :
    Runs.Along (step sampleEnv) Admissible Registry.empty retainedCalls := by decide +kernel

theorem first_version_coherent :
    (after sampleEnv retainedCalls).activeVersions.get? "evo" = some "evo@1" ∧
      ActiveVersionsCoherent sampleEnv (after sampleEnv retainedCalls) :=
  ⟨by decide +kernel, activeVersions_coherent sampleEnv retainedCalls retainedCalls_admissible⟩

theorem supersededCalls_states :
    (after sampleEnv (retainedCalls ++ [sampleTransition "superseded" "a5" 6])).activeVersions.get?
        "evo" = some "evo@1" ∧
      ((after sampleEnv (retainedCalls ++
        [sampleTransition "superseded" "a5" 6])).assets.get? "evo@1").map Asset.state =
          some .superseded := by
  decide +kernel

/-- Superseding the retained version leaves the pointer to it in place. -/
theorem superseded_version_active :
    ¬∀ (env : Env) (calls : List Call), ActiveVersionsCoherent env (after env calls) := by
  intro coherent
  obtain ⟨pointers, _⟩ := coherent sampleEnv
    (retainedCalls ++ [sampleTransition "superseded" "a5" 6])
  obtain ⟨pointing, state⟩ := supersededCalls_states
  obtain ⟨row, found, _, retained⟩ := (pointers.active "evo" "evo@1").mp pointing
  rw [found, Option.map_some, retained] at state
  cases state

end ZaofuFormal.Evolution.CapabilityRegistry
