import Mathlib.Data.List.Lex
import Mathlib.Data.String.Basic

/-!
# Zero-padded numbers

A number written in at least `width` decimal digits.  Texts of one width compare
as the numbers do; a number too large for the width is written with more digits,
and its text then comes before texts of the width.
-/

namespace ZaofuFormal.Foundation.Padded

theorem cons_lt_cons {α : Type} [LT α] {first second : α} (less : first < second)
    (rest tail : List α) : first :: rest < second :: tail :=
  List.Lex.rel less

/-- Texts of one length keep their order whatever follows them. -/
theorem append_lt_append {α : Type} [LT α] {first second : List α}
    (same : first.length = second.length) (less : first < second) (rest tail : List α) :
    first ++ rest < second ++ tail := by
  induction first generalizing second with
  | nil =>
      rw [List.length_eq_zero_iff.mp same.symm] at less
      exact absurd less (by simp)
  | cons item items ih =>
      obtain _ | ⟨other, others⟩ := second
      · exact absurd same (by simp)
      · cases less with
        | rel smaller => exact cons_lt_cons smaller _ _
        | cons behind => exact List.Lex.cons (ih (by simpa using same) behind)

def digits (width number : Nat) : List Char :=
  List.replicate (width - (Nat.toDigits 10 number).length) '0' ++ Nat.toDigits 10 number

theorem ofDigitChars_digits (width number : Nat) :
    Nat.ofDigitChars 10 (digits width number) 0 = number := by
  rw [digits, Nat.ofDigitChars_append, Nat.ofDigitChars_replicate_zero, Nat.mul_zero]
  exact Nat.ofDigitChars_ten_toDigits

theorem digits_injective (width : Nat) : Function.Injective (digits width) := by
  intro first second same
  rw [← ofDigitChars_digits width first, same, ofDigitChars_digits]

theorem digits_zero {width : Nat} (positive : 0 < width) :
    digits width 0 = List.replicate width '0' := by
  obtain ⟨width, rfl⟩ := Nat.exists_eq_succ_of_ne_zero (Nat.ne_of_gt positive)
  rw [digits, Nat.toDigits_zero, List.length_singleton, Nat.succ_sub_one,
    List.replicate_succ']

/-- The last digit, behind the digits of the tenth. -/
theorem digits_succ {width : Nat} (positive : 0 < width) (number : Nat) :
    digits (width + 1) number = digits width (number / 10) ++ [(number % 10).digitChar] := by
  by_cases small : number < 10
  · rw [Nat.div_eq_of_lt small, Nat.mod_eq_of_lt small, digits_zero positive, digits,
      Nat.toDigits_of_lt_base small, List.length_singleton, Nat.add_sub_cancel]
  · rw [digits, Nat.toDigits_of_base_le (by decide) (Nat.not_lt.mp small), List.length_append,
      List.length_singleton, Nat.add_sub_add_right, digits, List.append_assoc]

theorem digitChar_lt {first second : Nat} (less : first < second) (bound : second < 10) :
    first.digitChar < second.digitChar := by
  have table : ∀ above < 10, ∀ below < above, below.digitChar < above.digitChar := by decide
  exact table second bound first less

theorem length_digits {width number : Nat} (positive : 0 < width) (bound : number < 10 ^ width) :
    (digits width number).length = width := by
  have short : (Nat.toDigits 10 number).length ≤ width :=
    (Nat.length_toDigits_le_iff (by decide) positive).mpr bound
  rw [digits, List.length_append, List.length_replicate]
  exact Nat.sub_add_cancel short

/-- Numbers that fit the width are ordered as their texts. -/
theorem digits_lt {width first second : Nat} (positive : 0 < width) (less : first < second)
    (bound : second < 10 ^ width) : digits width first < digits width second := by
  induction width generalizing first second with
  | zero => exact absurd positive (Nat.lt_irrefl 0)
  | succ width ih =>
      obtain rfl | positive := Nat.eq_zero_or_pos width
      · have digit : second < 10 := bound
        rw [digits, digits, Nat.toDigits_of_lt_base (Nat.lt_trans less digit),
          Nat.toDigits_of_lt_base digit]
        exact cons_lt_cons (digitChar_lt less digit) _ _
      · have secondBound : second / 10 < 10 ^ width := by
          rw [Nat.pow_succ] at bound
          omega
        rw [digits_succ positive, digits_succ positive]
        by_cases tenth : first / 10 = second / 10
        · have last : first % 10 < second % 10 := by omega
          have digit : second % 10 < 10 := Nat.mod_lt _ (by decide)
          rw [tenth]
          exact List.append_left_lt (cons_lt_cons (digitChar_lt last digit) _ _)
        · have above : first / 10 < second / 10 := by omega
          have firstBound := Nat.lt_trans above secondBound
          apply append_lt_append
          · rw [length_digits positive firstBound, length_digits positive secondBound]
          · exact ih positive above secondBound

end ZaofuFormal.Foundation.Padded
