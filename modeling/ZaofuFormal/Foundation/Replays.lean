import Mathlib.Data.List.Infix

/-!
# Replays

A replay folds a list of items into a state; a step sees the items before its own and can
fail.  What every step preserves holds of every state that a replay comes through.
-/

namespace ZaofuFormal.Foundation.Replays

variable {α σ : Type} (step : List α → σ → α → Option σ)

/-- Go on with the items after those that were read. -/
def replayFrom : List α → σ → List α → Option σ
  | _, state, [] => some state
  | before, state, item :: rest =>
      (step before state item).bind fun next => replayFrom (before ++ [item]) next rest

def replay (start : σ) (items : List α) : Option σ := replayFrom step [] start items

variable {step}

theorem replayFrom_append (before : List α) (state : σ) (first second : List α) :
    replayFrom step before state (first ++ second) =
      (replayFrom step before state first).bind fun next =>
        replayFrom step (before ++ first) next second := by
  induction first generalizing before state with
  | nil => simp [replayFrom]
  | cons item rest ih =>
      rw [List.cons_append, replayFrom, replayFrom]
      cases step before state item with
      | none => rfl
      | some next =>
          rw [Option.bind_some, Option.bind_some, ih, List.append_assoc, List.singleton_append]

/-- The state before the last item, and the last step. -/
theorem replay_concat_iff {start final : σ} {items : List α} {item : α} :
    replay step start (items ++ [item]) = some final ↔
      ∃ state, replay step start items = some state ∧ step items state item = some final := by
  rw [replay, replayFrom_append, List.nil_append, Option.bind_eq_some_iff]
  simp [replay, replayFrom]

/-- An invariant that every step of the replay preserves holds at its end. -/
theorem replay_rule (invariant : List α → σ → Prop) {start final : σ} {items : List α}
    (initial : invariant [] start)
    (preserved : ∀ before item after state next, items = before ++ item :: after →
      replay step start before = some state → step before state item = some next →
        invariant before state → invariant (before ++ [item]) next)
    (done : replay step start items = some final) : invariant items final := by
  induction items using List.reverseRecOn generalizing final with
  | nil =>
      cases done
      exact initial
  | append_singleton items item ih =>
      obtain ⟨state, reached, last⟩ := replay_concat_iff.mp done
      refine preserved items item [] state final rfl reached last (ih ?_ reached)
      intro before inner after state next split
      exact preserved before inner (after ++ [item]) state next (by rw [split]; simp)

end ZaofuFormal.Foundation.Replays
