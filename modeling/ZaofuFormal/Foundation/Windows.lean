import Mathlib.Data.List.Basic
import Mathlib.Order.Lattice

/-!
# Sliding windows over a list of times

What lies in a window is what is at or after its bound.  A pruned list shows the
same window as the full one for every bound that is not before the one it was
pruned at, and goes on doing so when a time is added to both and it is pruned again.
-/

namespace ZaofuFormal.Foundation.Windows

variable {T : Type} [LinearOrder T]

/-- The times at or after a bound. -/
def since (bound : T) (times : List T) : List T := times.filter fun time => decide (bound ≤ time)

theorem mem_since {bound time : T} {times : List T} :
    time ∈ since bound times ↔ time ∈ times ∧ bound ≤ time := by
  rw [since, List.mem_filter, decide_eq_true_iff]

theorem since_append (bound : T) (first second : List T) :
    since bound (first ++ second) = since bound first ++ since bound second :=
  List.filter_append ..

/-- What is pruned away is outside every later window. -/
theorem since_since {earlier later : T} (le : earlier ≤ later) (times : List T) :
    since later (since earlier times) = since later times := by
  rw [since, since, List.filter_filter, since]
  refine List.filter_congr fun time _ => ?_
  rw [Bool.and_eq_left_iff_imp, decide_eq_true_iff, decide_eq_true_iff]
  exact le.trans

theorem since_eq_nil_iff {bound : T} {times : List T} :
    since bound times = [] ↔ ∀ time ∈ times, time < bound := by
  rw [since, List.filter_eq_nil_iff]
  simp only [decide_eq_true_iff, not_le]

/-- Two bounds that no time lies between show the same. -/
theorem since_congr {first second : T} {times : List T} (le : first ≤ second)
    (steady : ∀ time ∈ times, first ≤ time → second ≤ time) :
    since first times = since second times := by
  refine List.filter_congr fun time member => ?_
  rw [decide_eq_decide]
  exact ⟨steady time member, le.trans⟩

/-- The last of ascending times is in every window that is not empty. -/
theorem getLast?_since {bound : T} {times : List T} (ascending : times.Pairwise (· ≤ ·))
    (some : since bound times ≠ []) : (since bound times).getLast? = times.getLast? := by
  induction times with
  | nil => rfl
  | cons time rest ih =>
      obtain ⟨first, later⟩ := List.pairwise_cons.mp ascending
      by_cases none : since bound rest = []
      · -- the window holds the first time alone, and what follows is not before it
        have within : bound ≤ time := by
          by_contra outside
          rw [since, List.filter_cons_of_neg (by simpa using outside)] at some
          exact some none
        have empty : rest = [] := by
          rcases rest.eq_nil_or_concat' with rfl | ⟨initial, last, rfl⟩
          · rfl
          · have member : last ∈ initial ++ [last] := List.mem_append_right _ List.mem_cons_self
            exact absurd (within.trans (first last member))
              (not_le.mpr (since_eq_nil_iff.mp none last member))
        rw [empty, since, List.filter_cons_of_pos (by simpa using within), List.filter_nil]
      · have filled : rest ≠ [] := by
          rintro rfl
          exact none rfl
        have last := ih later none
        by_cases within : bound ≤ time
        · rw [since, List.filter_cons_of_pos (by simpa using within), ← since,
            List.getLast?_cons, List.getLast?_cons, last]
        · rw [since, List.filter_cons_of_neg (by simpa using within), ← since, last,
            List.getLast?_cons_of_ne_nil filled]

end ZaofuFormal.Foundation.Windows
