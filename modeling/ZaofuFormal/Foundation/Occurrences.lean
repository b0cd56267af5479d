import Mathlib.Data.List.Count
import ZaofuFormal.Foundation.Dict
import ZaofuFormal.Foundation.Lists

/-!
# Numbered repetitions

The items of a list, each with the number of times it stood before.  The pairs are
distinct even when the items repeat, and a text with a decimal number behind the last dash
determines the text in front and the number.
-/

namespace ZaofuFormal.Foundation.Occurrences

section Numbering

variable {α : Type} [DecidableEq α]

/-- Every item with its ordinal, counted on from `seen`. -/
def occurrencesFrom (seen : Dict α Nat) : List α → List (α × Nat)
  | [] => []
  | item :: rest =>
      (item, (seen.get? item).getD 0) ::
        occurrencesFrom (seen.insert item ((seen.get? item).getD 0 + 1)) rest

theorem getD_insert_next (seen : Dict α Nat) (item other : α) :
    ((seen.insert item ((seen.get? item).getD 0 + 1)).get? other).getD 0 =
      (seen.get? other).getD 0 + [item].count other := by
  rw [Dict.get?_insert, List.count_singleton]
  by_cases same : other = item
  · rw [if_pos same, if_pos (by simp [same]), same]
    rfl
  · rw [if_neg same, if_neg (by simpa using Ne.symm same), Nat.add_zero]

theorem mem_occurrencesFrom_iff (seen : Dict α Nat) (items : List α) (item : α) (ordinal : Nat) :
    (item, ordinal) ∈ occurrencesFrom seen items ↔
      (seen.get? item).getD 0 ≤ ordinal ∧
        ordinal < (seen.get? item).getD 0 + items.count item := by
  induction items generalizing seen with
  | nil => exact iff_of_false List.not_mem_nil fun both => absurd both.1 (not_le.mpr both.2)
  | cons first rest ih =>
      have counted : (first :: rest).count item = [first].count item + rest.count item := by
        rw [← List.count_append, List.singleton_append]
      rw [occurrencesFrom, List.mem_cons, ih, getD_insert_next, counted]
      by_cases same : item = first
      · have once : [first].count item = 1 := by rw [same, List.count_singleton_self]
        rw [once, Prod.mk.injEq, ← same, and_iff_right rfl]
        omega
      · have never : [first].count item = 0 := List.count_eq_zero.mpr (by simpa using same)
        rw [never, Prod.mk.injEq]
        exact ⟨Or.rec (fun both => absurd both.1 same) (by omega), fun both => Or.inr (by omega)⟩

/-- No item has one ordinal twice. -/
theorem nodup_occurrencesFrom (seen : Dict α Nat) (items : List α) :
    (occurrencesFrom seen items).Nodup := by
  induction items generalizing seen with
  | nil => exact List.nodup_nil
  | cons first rest ih =>
      refine List.nodup_cons.mpr ⟨fun member => ?_, ih _⟩
      have later := ((mem_occurrencesFrom_iff _ _ _ _).mp member).1
      rw [getD_insert_next, List.count_singleton_self] at later
      omega

/-- Values for the numbered items are distinct when no two pairs share one. -/
theorem map_occurrences_nodup_iff {β : Type} (f : α × Nat → β) (items : List α) :
    ((occurrencesFrom Dict.empty items).map f).Nodup ↔
      ∀ item other ordinal later, ordinal < items.count item → later < items.count other →
        f (item, ordinal) = f (other, later) → item = other ∧ ordinal = later := by
  have inside : ∀ item ordinal, (item, ordinal) ∈ occurrencesFrom Dict.empty items ↔
      ordinal < items.count item := by
    intro item ordinal
    rw [mem_occurrencesFrom_iff, Dict.get?_empty, Option.getD_none, Nat.zero_add]
    exact and_iff_right (Nat.zero_le ordinal)
  rw [List.nodup_map_iff_inj_on (nodup_occurrencesFrom _ _)]
  constructor
  · intro injective item other ordinal later here there same
    exact Prod.mk.inj (injective _ ((inside item ordinal).mpr here) _
      ((inside other later).mpr there) same)
  · rintro apart ⟨item, ordinal⟩ here ⟨other, later⟩ there same
    obtain ⟨rfl, rfl⟩ := apart item other ordinal later ((inside item ordinal).mp here)
      ((inside other later).mp there) same
    rfl

end Numbering

theorem dash_notMem_toDigits (number : Nat) : '-' ∉ Nat.toDigits 10 number := fun member =>
  absurd (Nat.isDigit_of_mem_toDigits (by decide) (by decide) member) (by decide)

/-- A text with a number behind a dash. -/
def dashed (text : String) (number : Nat) : String := text ++ "-" ++ toString number

theorem toList_dashed (text : String) (number : Nat) :
    (dashed text number).toList = text.toList ++ '-' :: Nat.toDigits 10 number := by
  rw [dashed, String.toList_append, String.toList_append, Nat.toString_eq_repr,
    Nat.toList_repr, List.append_assoc]
  rfl

/-- The last dash takes the text and the number apart. -/
theorem dashed_inj {text other : String} {number later : Nat}
    (same : dashed text number = dashed other later) : text = other ∧ number = later := by
  have chars := congrArg String.toList same
  rw [toList_dashed, toList_dashed] at chars
  obtain ⟨texts, digits⟩ := Lists.append_cons_inj_of_notMem_tail
    (dash_notMem_toDigits number) (dash_notMem_toDigits later) chars
  refine ⟨String.toList_injective texts, ?_⟩
  have read := congrArg (fun digits => Nat.ofDigitChars 10 digits 0) digits
  simpa only [Nat.ofDigitChars_ten_toDigits] using read

theorem ne_dashed (text : String) (number : Nat) : text ≠ dashed text number := by
  intro same
  have lengths := congrArg (fun chars => chars.toList.length) same
  simp only [toList_dashed, List.length_append, List.length_cons] at lengths
  omega

end ZaofuFormal.Foundation.Occurrences
