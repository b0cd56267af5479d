import Mathlib.Data.List.Infix
import Mathlib.Data.List.TakeWhile

/-!
# Line-oriented files

A file made of lines, each ended by a separator, and a reader that consumes
such a file up to the last separator.
-/

namespace ZaofuFormal.Foundation.Lines

variable {α : Type}

/-- The file that holds the given lines. -/
def unlines (separator : α) (lines : List (List α)) : List α :=
  lines.flatMap fun line => line ++ [separator]

/-- Everything up to and including the last separator. -/
def complete [DecidableEq α] (separator : α) (data : List α) : List α :=
  (data.reverse.dropWhile fun item => !decide (item = separator)).reverse

theorem unlines_append (separator : α) (first second : List (List α)) :
    unlines separator (first ++ second) = unlines separator first ++ unlines separator second :=
  List.flatMap_append

theorem unlines_singleton (separator : α) (line : List α) :
    unlines separator [line] = line ++ [separator] := by
  simp [unlines]

theorem unlines_eq_nil_iff (separator : α) (lines : List (List α)) :
    unlines separator lines = [] ↔ lines = [] := by
  cases lines <;> simp [unlines]

/-- A file that ends in a separator is complete. -/
theorem complete_append_separator [DecidableEq α] (separator : α) (data : List α) :
    complete separator (data ++ [separator]) = data ++ [separator] := by
  simp [complete]

/-- A non-empty file of lines ends in a separator. -/
theorem unlines_eq_append_separator (separator : α) {lines : List (List α)}
    (nonempty : lines ≠ []) :
    ∃ data, unlines separator lines = data ++ [separator] := by
  obtain ⟨initial, last, rfl⟩ := List.eq_nil_or_concat lines |>.resolve_left nonempty
  refine ⟨unlines separator initial ++ last, ?_⟩
  rw [List.concat_eq_append, unlines_append, unlines_singleton, List.append_assoc]

/-- What follows an offset in a file of lines is empty or ends in a separator. -/
theorem drop_unlines (separator : α) (lines : List (List α)) (offset : Nat) :
    (unlines separator lines).drop offset = [] ∨
      ∃ data, (unlines separator lines).drop offset = data ++ [separator] := by
  by_cases short : (unlines separator lines).length ≤ offset
  · exact Or.inl (List.drop_eq_nil_of_le short)
  · right
    have nonempty : lines ≠ [] := by
      rintro rfl
      exact short (Nat.zero_le offset)
    obtain ⟨data, same⟩ := unlines_eq_append_separator separator nonempty
    rw [same] at short ⊢
    rw [List.length_append, List.length_singleton] at short
    exact ⟨data.drop offset, List.drop_append_of_le_length (by omega)⟩

/-- Every part of a file of lines up to its end is complete. -/
theorem complete_drop_unlines [DecidableEq α] (separator : α) (lines : List (List α))
    (offset : Nat) :
    complete separator ((unlines separator lines).drop offset) =
      (unlines separator lines).drop offset := by
  rcases drop_unlines separator lines offset with empty | ⟨data, ends⟩
  · rw [empty]
    rfl
  · rw [ends]
    exact complete_append_separator separator data

theorem complete_unlines [DecidableEq α] (separator : α) (lines : List (List α)) :
    complete separator (unlines separator lines) = unlines separator lines :=
  complete_drop_unlines separator lines 0

theorem unlines_eq_intercalate (separator : α) (lines : List (List α)) :
    unlines separator lines = [separator].intercalate (lines ++ [[]]) := by
  induction lines with
  | nil => rfl
  | cons line rest ih =>
      rw [List.cons_append, List.intercalate_cons_of_ne_nil (by simp), ← ih]
      simp [unlines]

variable {separator : α}

/-- Splitting a file of clean lines gives the lines and an empty remainder. -/
theorem splitOn_unlines [DecidableEq α] {lines : List (List α)}
    (clean : ∀ line ∈ lines, separator ∉ line) :
    (unlines separator lines).splitOn separator = lines ++ [[]] := by
  rw [unlines_eq_intercalate]
  apply List.splitOn_intercalate
  · intro line member
    rcases List.mem_append.mp member with present | added
    · exact clean line present
    · rw [List.mem_singleton.mp added]
      exact List.not_mem_nil
  · simp

theorem complete_eq_nil [DecidableEq α] {data : List α}
    (clean : separator ∉ data) : complete separator data = [] := by
  rw [complete, List.reverse_eq_nil_iff, List.dropWhile_eq_nil_iff]
  intro item member
  have other : item ≠ separator := fun same => clean (same ▸ List.mem_reverse.mp member)
  simpa using other

theorem complete_cut [DecidableEq α] {tail : List α} (clean : separator ∉ tail) (data : List α) :
    complete separator (data ++ [separator] ++ tail) = data ++ [separator] := by
  have skipped : ∀ item ∈ tail.reverse, (!decide (item = separator)) = true := by
    intro item member
    have other : item ≠ separator := fun same => clean (same ▸ List.mem_reverse.mp member)
    simpa using other
  rw [complete, List.reverse_append, List.dropWhile_append_of_pos skipped, List.reverse_append,
    List.reverse_singleton, List.singleton_append, List.dropWhile_cons_of_neg (by simp)]
  simp

/-- A file is its complete part and a rest without a separator. -/
theorem complete_spec [DecidableEq α] (separator : α) (data : List α) :
    ∃ tail, data = complete separator data ++ tail ∧ separator ∉ tail := by
  refine ⟨(data.reverse.takeWhile fun item => !decide (item = separator)).reverse, ?_, ?_⟩
  · rw [complete, ← List.reverse_append, List.takeWhile_append_dropWhile, List.reverse_reverse]
  · intro member
    have other := List.mem_takeWhile_imp (List.mem_reverse.mp member)
    simp at other

/-- The complete part is empty or ends in a separator. -/
theorem complete_ends [DecidableEq α] (separator : α) (data : List α) :
    complete separator data = [] ∨ ∃ initial, complete separator data = initial ++ [separator] := by
  unfold complete
  cases shape : data.reverse.dropWhile fun item => !decide (item = separator) with
  | nil => exact .inl rfl
  | cons first rest =>
      right
      have same : first = separator := by
        have stopped := List.head?_dropWhile_not (fun item => !decide (item = separator)) data.reverse
        rw [shape] at stopped
        simpa using stopped
      exact ⟨rest.reverse, by rw [List.reverse_cons, same]⟩

/-- A part that is empty or ends in a separator, and a rest without one. -/
theorem complete_append [DecidableEq α] {data tail : List α}
    (clean : separator ∉ tail) (ends : data = [] ∨ ∃ initial, data = initial ++ [separator]) :
    complete separator (data ++ tail) = data := by
  rcases ends with rfl | ⟨initial, rfl⟩
  · exact complete_eq_nil clean
  · exact complete_cut clean initial

/-- Behind a separator, the complete part goes on as if the file began there. -/
theorem complete_append_append [DecidableEq α] {front : List α}
    (ends : front = [] ∨ ∃ initial, front = initial ++ [separator]) (back : List α) :
    complete separator (front ++ back) = front ++ complete separator back := by
  obtain ⟨tail, shape, clean⟩ := complete_spec separator back
  have whole : front ++ back = (front ++ complete separator back) ++ tail := by
    rw [List.append_assoc, ← shape]
  rw [whole]
  refine complete_append clean ?_
  rcases complete_ends separator back with empty | ⟨initial, last⟩
  · rw [empty, List.append_nil]
    exact ends
  · exact .inr ⟨front ++ initial, by rw [last, List.append_assoc]⟩

/-- A line at the start of a file or behind a separator is one of its parts. -/
theorem mem_splitOn [DecidableEq α] {front line : List α}
    (ends : front = [] ∨ ∃ initial, front = initial ++ [separator]) (clean : separator ∉ line)
    (back : List α) : line ∈ (front ++ line ++ separator :: back).splitOn separator := by
  have first : line ∈ (line ++ separator :: back).splitOn separator := by
    rw [List.splitOn_append_cons_self_of_not_mem clean]
    exact List.mem_cons_self
  rcases ends with rfl | ⟨initial, rfl⟩
  · exact first
  · rw [List.append_assoc, List.append_assoc, List.singleton_append,
      List.splitOn_append_cons_self]
    exact List.mem_append_right _ first

end ZaofuFormal.Foundation.Lines
