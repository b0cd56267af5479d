import Mathlib.Data.List.Basic

/-!
# Passes until nothing changes

A pass tries a list of steps in order, each on what the steps before it left.
Passes are repeated until one changes nothing.  What is left is a state on which
no step applies, and every property that the steps keep holds of it.
-/

namespace ZaofuFormal.Foundation.Passes

variable {σ : Type}

/-- Try one step; the flag tells whether a step of the pass has applied. -/
def attempt (reached : σ × Bool) (step : σ → Option σ) : σ × Bool :=
  match step reached.1 with
  | some changed => (changed, true)
  | none => reached

def scan (steps : List (σ → Option σ)) (state : σ) : σ × Bool :=
  steps.foldl attempt (state, false)

def settle (steps : List (σ → Option σ)) : Nat → σ → Option σ
  | 0, _ => none
  | fuel + 1, state =>
      let reached := scan steps state
      if reached.2 then settle steps fuel reached.1 else some reached.1

section Rules

variable {steps : List (σ → Option σ)}

theorem foldl_attempt_rule {invariant : σ → Prop}
    (kept : ∀ step ∈ steps, ∀ before after, step before = some after →
      invariant before → invariant after)
    {reached : σ × Bool} (start : invariant reached.1) :
    invariant (steps.foldl attempt reached).1 := by
  induction steps generalizing reached with
  | nil => exact start
  | cons step rest ih =>
      refine ih (fun other member => kept other (List.mem_cons_of_mem _ member)) ?_
      unfold attempt
      cases applied : step reached.1 with
      | none => exact start
      | some changed => exact kept step List.mem_cons_self _ _ applied start

/-- A flag that is up stays up. -/
theorem foldl_attempt_flag {reached : σ × Bool} (changed : reached.2 = true) :
    (steps.foldl attempt reached).2 = true := by
  induction steps generalizing reached with
  | nil => exact changed
  | cons step rest ih =>
      refine ih ?_
      unfold attempt
      cases step reached.1 with
      | none => exact changed
      | some after => rfl

/-- A pass that changes nothing has met no step that applies. -/
theorem scan_still {state : σ} (still : (scan steps state).2 = false) :
    (scan steps state).1 = state ∧ ∀ step ∈ steps, step state = none := by
  unfold scan at still ⊢
  induction steps with
  | nil => exact ⟨rfl, nofun⟩
  | cons step rest ih =>
      rw [List.foldl_cons] at still ⊢
      cases applied : step state with
      | some changed =>
          have up : (attempt (state, false) step).2 = true := by
            rw [attempt, applied]
          rw [foldl_attempt_flag up] at still
          cases still
      | none =>
          have same : attempt (state, false) step = (state, false) := by
            rw [attempt, applied]
          rw [same] at still ⊢
          obtain ⟨unchanged, others⟩ := ih still
          exact ⟨unchanged, List.forall_mem_cons.mpr ⟨applied, others⟩⟩

section Measure

variable {weight : σ → Nat}
  (drops : ∀ step ∈ steps, ∀ before after, step before = some after →
    weight after < weight before)

include drops

theorem foldl_attempt_le {reached : σ × Bool} :
    weight (steps.foldl attempt reached).1 ≤ weight reached.1 := by
  have kept : ∀ step ∈ steps, ∀ before after, step before = some after →
      weight before ≤ weight reached.1 → weight after ≤ weight reached.1 := by
    intro step member before after applied below
    exact Nat.le_of_lt (Nat.lt_of_lt_of_le (drops step member before after applied) below)
  exact foldl_attempt_rule kept (Nat.le_refl _)

theorem scan_lt {state : σ} (changed : (scan steps state).2 = true) :
    weight (scan steps state).1 < weight state := by
  unfold scan at changed ⊢
  induction steps with
  | nil => cases changed
  | cons step rest ih =>
      have restDrops : ∀ other ∈ rest, ∀ before after, other before = some after →
          weight after < weight before :=
        fun other member => drops other (List.mem_cons_of_mem _ member)
      rw [List.foldl_cons] at changed ⊢
      cases applied : step state with
      | none =>
          have same : attempt (state, false) step = (state, false) := by
            rw [attempt, applied]
          rw [same] at changed ⊢
          exact ih restDrops changed
      | some after =>
          have same : attempt (state, false) step = (after, true) := by
            rw [attempt, applied]
          rw [same]
          exact Nat.lt_of_le_of_lt (foldl_attempt_le restDrops)
            (drops step List.mem_cons_self state after applied)

/-- With fuel above the weight the passes come to an end. -/
theorem exists_settle {fuel : Nat} {state : σ} (enough : weight state < fuel) :
    ∃ final, settle steps fuel state = some final := by
  induction fuel generalizing state with
  | zero => omega
  | succ fuel ih =>
      rw [settle]
      split
      · rename_i changed
        have lower := scan_lt drops changed
        exact ih (by omega)
      · exact ⟨_, rfl⟩

end Measure

/-- The final state keeps what the steps keep, and no step applies to it. -/
theorem settle_rule {invariant : σ → Prop}
    (kept : ∀ step ∈ steps, ∀ before after, step before = some after →
      invariant before → invariant after)
    {fuel : Nat} {state final : σ} (start : invariant state)
    (settled : settle steps fuel state = some final) :
    invariant final ∧ ∀ step ∈ steps, step final = none := by
  induction fuel generalizing state with
  | zero => cases settled
  | succ fuel ih =>
      rw [settle] at settled
      have onward : invariant (scan steps state).1 := foldl_attempt_rule kept start
      split at settled
      · exact ih onward settled
      · rename_i still
        obtain ⟨unchanged, none⟩ := scan_still (Bool.eq_false_iff.mpr still)
        cases settled
        refine ⟨onward, ?_⟩
        rw [unchanged]
        exact none

end Rules

end ZaofuFormal.Foundation.Passes
