import Mathlib.Data.List.Basic

/-!
# Properties of a history since an item

`Since` says that an item of some sort occurs in a list and that something
holds of every item after it.  Both may look at what precedes the item.  The
lists are read as histories that grow at their end.
-/

namespace ZaofuFormal.Foundation

variable {α : Type}

/-- An item occurs, and every later item keeps a condition. -/
inductive Since (occurs holds : List α → α → Prop) : List α → Prop
  | now {history : List α} {item : α} (here : occurs history item) :
      Since occurs holds (history ++ [item])
  | later {history : List α} {item : α} (earlier : Since occurs holds history)
      (kept : holds history item) : Since occurs holds (history ++ [item])

namespace Since

variable {occurs holds : List α → α → Prop}

theorem not_nil : ¬Since occurs holds [] := by
  intro since
  generalize empty : ([] : List α) = history at since
  cases since with
  | now here => simp at empty
  | later earlier kept => simp at empty

theorem append_iff {history : List α} {item : α} :
    Since occurs holds (history ++ [item]) ↔
      occurs history item ∨ (Since occurs holds history ∧ holds history item) := by
  constructor
  · intro since
    generalize grown : history ++ [item] = whole at since
    cases since with
    | now here =>
        obtain ⟨rfl, last⟩ := List.append_inj' grown rfl
        cases last
        exact Or.inl here
    | later earlier kept =>
        obtain ⟨rfl, last⟩ := List.append_inj' grown rfl
        cases last
        exact Or.inr ⟨earlier, kept⟩
  · rintro (here | ⟨earlier, kept⟩)
    · exact .now here
    · exact .later earlier kept

theorem exists_mem {history : List α} (since : Since occurs holds history) :
    ∃ before, ∃ item ∈ history, occurs before item := by
  induction since with
  | now here => exact ⟨_, _, List.mem_append_right _ List.mem_cons_self, here⟩
  | later _ _ ih =>
      obtain ⟨before, item, member, here⟩ := ih
      exact ⟨before, item, List.mem_append_left _ member, here⟩

/-- What occurs may be weakened, and what has to hold too. -/
theorem mono {other weaker : List α → α → Prop} {history : List α}
    (occurring : ∀ before item, occurs before item → other before item)
    (holding : ∀ before item, holds before item → weaker before item)
    (since : Since occurs holds history) : Since other weaker history := by
  induction since with
  | now here => exact .now (occurring _ _ here)
  | later _ kept ih => exact .later ih (holding _ _ kept)

/-- A choice between two sorts of items is a choice between two histories. -/
theorem or_iff {other : List α → α → Prop} {history : List α} :
    Since (fun before item => occurs before item ∨ other before item) holds history ↔
      Since occurs holds history ∨ Since other holds history := by
  constructor
  · intro since
    induction since with
    | now here =>
        rcases here with first | second
        · exact Or.inl (.now first)
        · exact Or.inr (.now second)
    | later _ kept ih =>
        rcases ih with first | second
        · exact Or.inl (.later first kept)
        · exact Or.inr (.later second kept)
  · rintro (first | second)
    · exact first.mono (fun _ _ => Or.inl) fun _ _ => id
    · exact second.mono (fun _ _ => Or.inr) fun _ _ => id

end Since

end ZaofuFormal.Foundation
