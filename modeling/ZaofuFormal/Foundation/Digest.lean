import Mathlib.Data.String.Basic
import Mathlib.Data.List.Nodup

/-!
# Collision-free digests

A digest that is known at finitely many texts, extended to all texts without a
collision.  It serves to run definitions that take a digest as a parameter:
at the listed texts it returns the listed values, and elsewhere an escaped copy
of the text behind a marker that no listed value starts with.
-/

namespace ZaofuFormal.Foundation.Digest

/-- Write a text without colons. -/
def escapeColon : List Char → List Char
  | [] => []
  | ':' :: rest => '-' :: '0' :: escapeColon rest
  | '-' :: rest => '-' :: '1' :: escapeColon rest
  | char :: rest => char :: escapeColon rest

def unescapeColon : List Char → List Char
  | [] => []
  | '-' :: '0' :: rest => ':' :: unescapeColon rest
  | '-' :: '1' :: rest => '-' :: unescapeColon rest
  | char :: rest => char :: unescapeColon rest

theorem unescapeColon_escapeColon (chars : List Char) :
    unescapeColon (escapeColon chars) = chars := by
  induction chars using escapeColon.induct with
  | case1 => rfl
  | case2 rest ih => rw [escapeColon, unescapeColon, ih]
  | case3 rest ih => rw [escapeColon, unescapeColon, ih]
  | case4 char rest notColon notDash ih =>
      rw [escapeColon, unescapeColon, ih]
      · exact fun tail dash => absurd dash notDash
      · exact fun tail dash => absurd dash notDash
      · exact notColon
      · exact notDash

theorem colon_notMem_escapeColon (chars : List Char) : ':' ∉ escapeColon chars := by
  induction chars using escapeColon.induct with
  | case1 => exact List.not_mem_nil
  | case2 rest ih => simpa [escapeColon] using ih
  | case3 rest ih => simpa [escapeColon] using ih
  | case4 char rest notColon notDash ih =>
      rw [escapeColon]
      · simp only [List.mem_cons, not_or]
        exact ⟨fun same => notColon same.symm, ih⟩
      · exact notColon
      · exact notDash

/-- The listed digest of a text, or an escaped copy of the text. -/
def tableDigest (table : List (String × String)) (text : String) : String :=
  match table.find? fun entry => decide (entry.1 = text) with
  | some entry => entry.2
  | none => "~" ++ String.ofList (escapeColon text.toList)

/-- Listed values are distinct, unmarked and free of colons. -/
structure Table (table : List (String × String)) : Prop where
  distinct : (table.map Prod.snd).Nodup
  unmarked : ∀ entry ∈ table, entry.2.toList.head? ≠ some '~'
  noColon : ∀ entry ∈ table, ':' ∉ entry.2.toList

theorem tableDigest_cases (table : List (String × String)) (text : String) :
    (∃ entry ∈ table, entry.1 = text ∧ tableDigest table text = entry.2) ∨
      (tableDigest table text).toList = '~' :: escapeColon text.toList := by
  unfold tableDigest
  split
  · rename_i entry found
    left
    refine ⟨entry, List.mem_of_find?_eq_some found, ?_, rfl⟩
    simpa using List.find?_some found
  · right
    simp

theorem tableDigest_injective {table : List (String × String)} (lawful : Table table) :
    Function.Injective (tableDigest table) := by
  intro first second same
  rcases tableDigest_cases table first with ⟨entry, member, rfl, value⟩ | marked
  · rcases tableDigest_cases table second with ⟨other, otherMember, rfl, otherValue⟩ | marked
    · rw [value, otherValue] at same
      rw [List.inj_on_of_nodup_map lawful.distinct member otherMember same]
    · rw [← same, value] at marked
      exact absurd (by rw [marked]; rfl) (lawful.unmarked entry member)
  · rcases tableDigest_cases table second with ⟨other, otherMember, rfl, otherValue⟩ | otherMarked
    · rw [same, otherValue] at marked
      exact absurd (by rw [marked]; rfl) (lawful.unmarked other otherMember)
    · rw [same, otherMarked] at marked
      have escaped := (List.cons.inj marked).2
      have chars := congrArg unescapeColon escaped
      rw [unescapeColon_escapeColon, unescapeColon_escapeColon] at chars
      exact String.toList_injective chars.symm

theorem colon_notMem_tableDigest {table : List (String × String)} (lawful : Table table)
    (text : String) : ':' ∉ (tableDigest table text).toList := by
  rcases tableDigest_cases table text with ⟨entry, member, _, value⟩ | marked
  · rw [value]
    exact lawful.noColon entry member
  · rw [marked, List.mem_cons, not_or]
    exact ⟨by decide, colon_notMem_escapeColon text.toList⟩

end ZaofuFormal.Foundation.Digest
