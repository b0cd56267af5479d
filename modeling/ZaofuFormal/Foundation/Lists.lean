import Mathlib.Data.List.Forall2
import Mathlib.Data.List.Nodup
import Mathlib.Data.List.Range

/-!
# List facts about separators, numbering and parts

The first and the last separator of a list cut it in one way only, and a
repetition-free list of positive numbers that is closed downwards enumerates
an initial segment.  What is drawn from a list in any order keeps its items apart,
and so does the removal of repetitions.
-/

namespace ZaofuFormal.Foundation.Lists

variable {α : Type}

/-- A check of all items, whatever instances there are for the type of the items. -/
theorem forall_mem_of_all {holds : α → Prop} [DecidablePred holds] {items : List α}
    (all : (items.all fun item => decide (holds item)) = true) : ∀ item ∈ items, holds item :=
  fun item member => of_decide_eq_true (List.all_eq_true.mp all item member)

/-- What precedes the first separator is determined by the whole list. -/
theorem append_cons_inj_of_notMem_head {separator : α} {first second left right : List α}
    (firstClean : separator ∉ first) (secondClean : separator ∉ second)
    (same : first ++ separator :: left = second ++ separator :: right) :
    first = second ∧ left = right := by
  induction first generalizing second with
  | nil =>
      cases second with
      | nil => exact ⟨rfl, (List.cons.inj same).2⟩
      | cons item rest =>
          obtain ⟨hit, _⟩ := List.cons.inj same
          exact absurd (hit ▸ List.mem_cons_self) secondClean
  | cons head tail ih =>
      cases second with
      | nil =>
          obtain ⟨hit, _⟩ := List.cons.inj same
          exact absurd (hit ▸ List.mem_cons_self) firstClean
      | cons item rest =>
          obtain ⟨heads, tails⟩ := List.cons.inj same
          obtain ⟨sameTail, sameRest⟩ := ih
            (fun member => firstClean (List.mem_cons_of_mem head member))
            (fun member => secondClean (List.mem_cons_of_mem item member)) tails
          exact ⟨by rw [heads, sameTail], sameRest⟩

/-- What follows the last separator is determined by the whole list. -/
theorem append_cons_inj_of_notMem_tail {separator : α} {first second left right : List α}
    (leftClean : separator ∉ left) (rightClean : separator ∉ right)
    (same : first ++ separator :: left = second ++ separator :: right) :
    first = second ∧ left = right := by
  have mirrored := congrArg List.reverse same
  simp only [List.reverse_append, List.reverse_cons, List.append_assoc,
    List.singleton_append] at mirrored
  obtain ⟨tails, heads⟩ := append_cons_inj_of_notMem_head
    (fun member => leftClean (List.mem_reverse.mp member))
    (fun member => rightClean (List.mem_reverse.mp member)) mirrored
  exact ⟨List.reverse_injective heads, List.reverse_injective tails⟩

/-- A list closed under predecessors contains everything below its members. -/
theorem mem_of_downClosed {items : List Nat}
    (closed : ∀ item ∈ items, 1 < item → item - 1 ∈ items)
    {item smaller : Nat} (member : item ∈ items) (positive : 1 ≤ smaller)
    (below : smaller ≤ item) : smaller ∈ items := by
  induction item with
  | zero => omega
  | succ item ih =>
      by_cases reached : smaller = item + 1
      · exact reached ▸ member
      · have previous := closed (item + 1) member (by omega)
        exact ih previous (by omega)

/-- A repetition-free list of positive numbers that is closed under
predecessors is a permutation of `1, …, n`. -/
theorem perm_range'_of_downClosed {items : List Nat} (distinct : items.Nodup)
    (positive : ∀ item ∈ items, 1 ≤ item)
    (closed : ∀ item ∈ items, 1 < item → item - 1 ∈ items) :
    items.Perm (List.range' 1 items.length) := by
  have bounded : ∃ top, ∀ item, item ∈ items ↔ 1 ≤ item ∧ item ≤ top := by
    cases greatest : items.max? with
    | none =>
        have empty := List.max?_eq_none_iff.mp greatest
        exact ⟨0, fun item => by simp [empty]; omega⟩
    | some top =>
        obtain ⟨topMember, topBound⟩ := List.max?_eq_some_iff.mp greatest
        refine ⟨top, fun item => ⟨fun member => ⟨positive item member, topBound item member⟩, ?_⟩⟩
        rintro ⟨low, high⟩
        exact mem_of_downClosed closed topMember low high
  obtain ⟨top, memberIff⟩ := bounded
  have segment : items.Perm (List.range' 1 top) := by
    apply (List.perm_ext_iff_of_nodup distinct List.nodup_range').mpr
    intro item
    rw [memberIff, List.mem_range'_1]
    omega
  have count : items.length = top := by
    rw [segment.length_eq, List.length_range']
  rw [count]
  exact segment

theorem subperm_map {β : Type} (f : α → β) {first second : List α}
    (part : first.Subperm second) : (first.map f).Subperm (second.map f) := by
  obtain ⟨kept, perm, among⟩ := part
  exact ⟨kept.map f, perm.map f, among.map f⟩

theorem nodup_of_subperm {first second : List α} (part : first.Subperm second)
    (distinct : second.Nodup) : first.Nodup := by
  obtain ⟨kept, perm, among⟩ := part
  exact perm.nodup_iff.mp (distinct.sublist among)

theorem exists_mem_of_forall₂ {β : Type} {related : α → β → Prop} {first : List α}
    {second : List β} (pairs : List.Forall₂ related first second) {other : β}
    (member : other ∈ second) : ∃ item ∈ first, related item other := by
  induction pairs with
  | nil => cases member
  | cons pair _ ih =>
      rcases List.mem_cons.mp member with rfl | later
      · exact ⟨_, List.mem_cons_self, pair⟩
      · obtain ⟨item, present, holds⟩ := ih later
        exact ⟨item, List.mem_cons_of_mem _ present, holds⟩

/-- A list of images is the image of a list. -/
theorem exists_map_of_forall_mem {β : Type} {f : α → β} {source : List α} {images : List β}
    (each : ∀ image ∈ images, ∃ item ∈ source, f item = image) :
    ∃ items : List α, (∀ item ∈ items, item ∈ source) ∧ items.map f = images := by
  induction images with
  | nil => exact ⟨[], fun _ member => absurd member List.not_mem_nil, rfl⟩
  | cons image rest ih =>
      obtain ⟨item, present, rfl⟩ := each image List.mem_cons_self
      obtain ⟨items, among, rfl⟩ := ih fun other member =>
        each other (List.mem_cons_of_mem (f item) member)
      exact ⟨item :: items, List.forall_mem_cons.mpr ⟨present, among⟩, rfl⟩

theorem forall_mem_intercalate {holds : α → Prop} {separator : List α}
    {parts : List (List α)} (between : ∀ item ∈ separator, holds item)
    (inside : ∀ part ∈ parts, ∀ item ∈ part, holds item) :
    ∀ item ∈ separator.intercalate parts, holds item := by
  induction parts with
  | nil => exact fun _ member => absurd member List.not_mem_nil
  | cons part rest ih =>
      have here := inside part List.mem_cons_self
      have later := ih fun other member => inside other (List.mem_cons_of_mem part member)
      cases rest with
      | nil =>
          rw [List.intercalate_singleton]
          exact here
      | cons next rest =>
          rw [List.intercalate_cons_cons]
          intro item member
          rcases List.mem_append.mp member with first | last
          · rcases List.mem_append.mp first with own | separating
            · exact here item own
            · exact between item separating
          · exact later item last

theorem mem_intercalate_of_mem {separator : List α} {parts : List (List α)}
    {part : List α} (listed : part ∈ parts) {item : α} (inside : item ∈ part) :
    item ∈ separator.intercalate parts := by
  induction parts with
  | nil => cases listed
  | cons first rest ih =>
      cases rest with
      | nil =>
          rw [List.mem_singleton.mp listed] at inside
          rw [List.intercalate_singleton]
          exact inside
      | cons next rest =>
          rw [List.intercalate_cons_cons, List.mem_append, List.mem_append]
          rcases List.mem_cons.mp listed with rfl | later
          · exact Or.inl (Or.inl inside)
          · exact Or.inr (ih later)

theorem nodup_eraseDups {α : Type} [BEq α] [LawfulBEq α] : ∀ items : List α, items.eraseDups.Nodup
  | [] => List.nodup_nil
  | item :: rest => by
      rw [List.eraseDups_cons, List.nodup_cons]
      refine ⟨fun member => ?_, nodup_eraseDups (rest.filter fun other => !other == item)⟩
      have kept := (List.mem_filter.mp (List.mem_eraseDups.mp member)).2
      simp at kept
  termination_by items => items.length
  decreasing_by exact Nat.lt_succ_of_le (List.length_filter_le _ _)

theorem eraseDups_of_nodup [BEq α] [LawfulBEq α] {items : List α}
    (distinct : items.Nodup) : items.eraseDups = items := by
  induction items with
  | nil => rfl
  | cons item rest ih =>
      obtain ⟨absent, later⟩ := List.nodup_cons.mp distinct
      have same : (rest.filter fun other => !other == item) = rest := by
        refine List.filter_eq_self.mpr fun other member => ?_
        simpa using fun hit : other = item => absent (hit ▸ member)
      rw [List.eraseDups_cons, same, ih later]

theorem length_le_one_of_forall_eq {items : List α} (distinct : items.Nodup)
    (same : ∀ first ∈ items, ∀ second ∈ items, first = second) : items.length ≤ 1 := by
  match items, distinct, same with
  | [], _, _ => exact Nat.zero_le 1
  | [_], _, _ => exact le_rfl
  | first :: second :: rest, distinct, same =>
      have equal := same first List.mem_cons_self second
        (List.mem_cons_of_mem first List.mem_cons_self)
      exact absurd (equal ▸ List.mem_cons_self) (List.nodup_cons.mp distinct).1

/-- A predicate that holds less often, and not of some item any more, is counted less often. -/
theorem countP_lt {items : List α} {first second : α → Bool}
    (shrinks : ∀ item ∈ items, second item = true → first item = true) {item : α}
    (member : item ∈ items) (before : first item = true) (after : second item = false) :
    items.countP second < items.countP first := by
  obtain ⟨left, right, rfl⟩ := List.append_of_mem member
  have leftLe : left.countP second ≤ left.countP first :=
    List.countP_mono_left fun other inside => shrinks other (List.mem_append_left _ inside)
  have rightLe : right.countP second ≤ right.countP first :=
    List.countP_mono_left fun other inside =>
      shrinks other (List.mem_append_right _ (List.mem_cons_of_mem _ inside))
  rw [List.countP_append, List.countP_append, List.countP_cons_of_pos before,
    List.countP_cons_of_neg (by simp [after])]
  omega

/-- A repetition-free list with two places has two different items. -/
theorem exists_ne_of_one_lt_length {items : List α} (distinct : items.Nodup)
    (several : 1 < items.length) : ∃ first ∈ items, ∃ second ∈ items, first ≠ second := by
  by_contra none
  have same : ∀ first ∈ items, ∀ second ∈ items, first = second := by
    intro first left second right
    by_contra different
    exact none ⟨first, left, second, right, different⟩
  exact absurd (length_le_one_of_forall_eq distinct same) (Nat.not_le.mpr several)

theorem eq_of_length_le_one {items : List α} (short : items.length ≤ 1)
    {first second : α} (left : first ∈ items) (right : second ∈ items) : first = second := by
  match items with
  | [] => cases left
  | [only] =>
      rw [List.mem_singleton.mp left, List.mem_singleton.mp right]
  | _ :: _ :: _ => simp at short

end ZaofuFormal.Foundation.Lists
