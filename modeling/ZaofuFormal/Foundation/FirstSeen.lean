import Mathlib.Data.List.Basic

/-!
# Keeping the first item of every key

A pass over a list keeps the items without a key, and of the items with one key
only the first.  `Echoes` puts copies of earlier items into a list: the pass drops
all of these copies but those of items without a key.
-/

namespace ZaofuFormal.Foundation

variable {α κ : Type}

/-- The third list is the second with the copies of the fourth put in, each one of an item
that came before: in the list itself, or in the first one. -/
inductive Echoes : List α → List α → List α → List α → Prop
  | nil (earlier : List α) : Echoes earlier [] [] []
  | keep {earlier items echoed copies : List α} (item : α) :
      Echoes (item :: earlier) items echoed copies →
        Echoes earlier (item :: items) (item :: echoed) copies
  | copy {earlier items echoed copies : List α} {item : α} :
      item ∈ earlier → Echoes earlier items echoed copies →
        Echoes earlier items (item :: echoed) (item :: copies)

namespace Echoes

variable {earlier items echoed copies : List α}

theorem mono (rel : Echoes earlier items echoed copies) :
    ∀ {more : List α}, earlier ⊆ more → Echoes more items echoed copies := by
  induction rel with
  | nil earlier =>
      intro more _
      exact .nil more
  | keep item _ ih =>
      intro more within
      exact .keep item (ih (List.cons_subset_cons item within))
  | copy member _ ih =>
      intro more within
      exact .copy (within member) (ih within)

theorem mem_or_of_mem (rel : Echoes earlier items echoed copies) {item : α}
    (member : item ∈ echoed) : item ∈ earlier ∨ item ∈ items := by
  induction rel with
  | nil => exact nomatch member
  | keep head _ ih =>
      rcases List.mem_cons.mp member with rfl | tail
      · exact Or.inr List.mem_cons_self
      · rcases ih tail with before | inside
        · rcases List.mem_cons.mp before with rfl | before
          · exact Or.inr List.mem_cons_self
          · exact Or.inl before
        · exact Or.inr (List.mem_cons_of_mem _ inside)
  | copy before _ ih =>
      rcases List.mem_cons.mp member with rfl | tail
      · exact Or.inl before
      · exact ih tail

theorem sublist (rel : Echoes earlier items echoed copies) : items.Sublist echoed := by
  induction rel with
  | nil => exact .slnil
  | keep item _ ih => exact ih.cons_cons item
  | copy _ _ ih => exact ih.cons _

/-- Copies of items of the list bring nothing new. -/
theorem mem_iff (rel : Echoes [] items echoed copies) {item : α} :
    item ∈ echoed ↔ item ∈ items := by
  constructor
  · intro member
    exact (rel.mem_or_of_mem member).resolve_left List.not_mem_nil
  · intro member
    exact rel.sublist.mem member

theorem length_eq (rel : Echoes earlier items echoed copies) :
    echoed.length = items.length + copies.length := by
  induction rel with
  | nil => rfl
  | keep item _ ih =>
      rw [List.length_cons, List.length_cons, ih]
      omega
  | copy _ _ ih =>
      rw [List.length_cons, List.length_cons, ih]
      omega

theorem eq_of_no_copies (rel : Echoes earlier items echoed copies) (none : copies = []) :
    echoed = items := by
  induction rel with
  | nil => rfl
  | keep item _ ih => rw [ih none]
  | copy => exact nomatch none

theorem eq_iff (rel : Echoes earlier items echoed copies) : echoed = items ↔ copies = [] := by
  constructor
  · intro same
    have lengths := rel.length_eq
    rw [same] at lengths
    exact List.eq_nil_of_length_eq_zero (by omega)
  · exact rel.eq_of_no_copies

theorem filter (rel : Echoes earlier items echoed copies) (keeps : α → Bool) :
    Echoes (earlier.filter keeps) (items.filter keeps) (echoed.filter keeps)
      (copies.filter keeps) := by
  induction rel with
  | nil => exact .nil _
  | keep item _ ih =>
      cases kept : keeps item with
      | true =>
          rw [List.filter_cons_of_pos kept, List.filter_cons_of_pos kept]
          rw [List.filter_cons_of_pos kept] at ih
          exact .keep item ih
      | false =>
          rw [List.filter_cons_of_neg (by simp [kept]), List.filter_cons_of_neg (by simp [kept])]
          rwa [List.filter_cons_of_neg (by simp [kept])] at ih
  | copy member _ ih =>
      rename_i item _
      cases kept : keeps item with
      | true =>
          rw [List.filter_cons_of_pos kept, List.filter_cons_of_pos kept]
          exact .copy (List.mem_filter.mpr ⟨member, kept⟩) ih
      | false =>
          rw [List.filter_cons_of_neg (by simp [kept]), List.filter_cons_of_neg (by simp [kept])]
          exact ih

end Echoes

variable {key : α → Option κ} {seen : List κ} {item : α} {rest : List α} {value : κ}

/-- An item that has its place in the list before any other item of its key; the keys of
`seen` are taken. -/
def FirstOf (key : α → Option κ) (seen : List κ) (items : List α) (item : α) : Prop :=
  ∃ before after, items = before ++ item :: after ∧
    ∀ value, key item = some value → value ∉ seen ∧ ∀ earlier ∈ before, key earlier ≠ some value

theorem not_firstOf_nil : ¬ FirstOf key seen [] item := by
  rintro ⟨before, after, split, _⟩
  exact List.append_ne_nil_of_right_ne_nil before (List.cons_ne_nil _ _) split.symm

theorem FirstOf.mem {items : List α} (first : FirstOf key seen items item) : item ∈ items := by
  obtain ⟨before, after, rfl, _⟩ := first
  exact List.mem_append_right before List.mem_cons_self

theorem firstOf_cons_iff {head : α} :
    FirstOf key seen (head :: rest) item ↔
      (item = head ∧ ∀ value, key item = some value → value ∉ seen) ∨
        (FirstOf key seen rest item ∧ ∀ value, key item = some value → key head ≠ some value) := by
  constructor
  · rintro ⟨before, after, split, fresh⟩
    cases before with
    | nil => exact Or.inl ⟨(List.cons.inj split).1.symm, fun value has => (fresh value has).1⟩
    | cons first before =>
        obtain ⟨rfl, rest⟩ := List.cons.inj split
        refine Or.inr ⟨⟨before, after, rest, fun value has => ?_⟩, fun value has => ?_⟩
        · exact ⟨(fresh value has).1, (List.forall_mem_cons.mp (fresh value has).2).2⟩
        · exact (List.forall_mem_cons.mp (fresh value has).2).1
  · rintro (⟨rfl, fresh⟩ | ⟨⟨before, after, rfl, fresh⟩, other⟩)
    · exact ⟨[], rest, rfl, fun value has => ⟨fresh value has, fun _ => nofun⟩⟩
    · refine ⟨head :: before, after, rfl, fun value has => ⟨(fresh value has).1, ?_⟩⟩
      exact List.forall_mem_cons.mpr ⟨other value has, (fresh value has).2⟩

section Pass

variable [DecidableEq κ]

/-- Keep the items without a key and the first item of each key that is not among `seen`. -/
def firstSeen (key : α → Option κ) : List κ → List α → List α
  | _, [] => []
  | seen, item :: rest =>
      match key item with
      | none => item :: firstSeen key seen rest
      | some value =>
          if value ∈ seen then firstSeen key seen rest
          else item :: firstSeen key (value :: seen) rest

theorem firstSeen_keyless (keyless : key item = none) :
    firstSeen key seen (item :: rest) = item :: firstSeen key seen rest := by
  rw [firstSeen, keyless]

theorem firstSeen_repeated (keyed : key item = some value) (member : value ∈ seen) :
    firstSeen key seen (item :: rest) = firstSeen key seen rest := by
  rw [firstSeen, keyed]
  exact if_pos member

theorem firstSeen_fresh (keyed : key item = some value) (fresh : value ∉ seen) :
    firstSeen key seen (item :: rest) = item :: firstSeen key (value :: seen) rest := by
  rw [firstSeen, keyed]
  exact if_neg fresh

/-- Only the seen keys that an item of the list has matter. -/
theorem firstSeen_congr {items : List α} :
    ∀ {first second : List κ},
      (∀ item ∈ items, ∀ value, key item = some value → (value ∈ first ↔ value ∈ second)) →
        firstSeen key first items = firstSeen key second items := by
  induction items with
  | nil => exact fun _ => rfl
  | cons head rest ih =>
      intro first second same
      obtain ⟨headSame, restSame⟩ := List.forall_mem_cons.mp same
      cases keyed : key head with
      | none => rw [firstSeen_keyless keyed, firstSeen_keyless keyed, ih restSame]
      | some taken =>
          by_cases member : taken ∈ first
          · rw [firstSeen_repeated keyed member,
              firstSeen_repeated keyed ((headSame taken keyed).mp member), ih restSame]
          · rw [firstSeen_fresh keyed member,
              firstSeen_fresh keyed fun inside => member ((headSame taken keyed).mpr inside)]
            congr 1
            refine ih fun item inside value has => ?_
            rw [List.mem_cons, List.mem_cons, restSame item inside value has]

/-- The pass keeps the first item of every key. -/
theorem mem_firstSeen_iff {items : List α} :
    ∀ {seen : List κ}, item ∈ firstSeen key seen items ↔ FirstOf key seen items item := by
  induction items with
  | nil =>
      intro seen
      exact iff_of_false List.not_mem_nil not_firstOf_nil
  | cons head rest ih =>
      intro seen
      rw [firstOf_cons_iff]
      cases keyed : key head with
      | none =>
          rw [firstSeen_keyless keyed, List.mem_cons, ih]
          refine or_congr ?_ ?_
          · refine (and_iff_left_of_imp ?_).symm
            rintro rfl value has
            exact nomatch keyed.symm.trans has
          · exact (and_iff_left fun _ _ => nofun).symm
      | some taken =>
          by_cases member : taken ∈ seen
          · rw [firstSeen_repeated keyed member, ih]
            constructor
            · intro first
              refine Or.inr ⟨first, fun value has same => ?_⟩
              obtain ⟨_, _, _, fresh⟩ := first
              exact (fresh value has).1 (Option.some.inj same ▸ member)
            · rintro (⟨rfl, fresh⟩ | ⟨first, _⟩)
              · exact absurd member (fresh taken keyed)
              · exact first
          · rw [firstSeen_fresh keyed member, List.mem_cons, ih]
            refine or_congr ?_ ?_
            · refine (and_iff_left_of_imp ?_).symm
              rintro rfl value has
              rwa [← Option.some.inj (keyed.symm.trans has)]
            · constructor
              · rintro ⟨before, after, split, fresh⟩
                refine ⟨⟨before, after, split, fun value has => ?_⟩, fun value has same => ?_⟩
                · exact ⟨fun inside => (fresh value has).1 (List.mem_cons_of_mem _ inside),
                    (fresh value has).2⟩
                · exact (fresh value has).1 (Option.some.inj same ▸ List.mem_cons_self)
              · rintro ⟨⟨before, after, split, fresh⟩, other⟩
                refine ⟨before, after, split, fun value has => ⟨?_, (fresh value has).2⟩⟩
                rw [List.mem_cons, not_or]
                exact ⟨fun same => other value has (congrArg some same.symm), (fresh value has).1⟩

/-- Every key that is not among the seen ones keeps an item. -/
theorem exists_key_firstSeen_iff {items : List α} :
    ∀ {seen : List κ}, (∃ item ∈ firstSeen key seen items, key item = some value) ↔
      value ∉ seen ∧ ∃ item ∈ items, key item = some value := by
  induction items with
  | nil =>
      intro seen
      exact iff_of_false (fun ⟨_, member, _⟩ => nomatch member) fun ⟨_, _, member, _⟩ => nomatch member
  | cons head rest ih =>
      intro seen
      rw [List.exists_mem_cons_iff]
      cases keyed : key head with
      | none =>
          rw [firstSeen_keyless keyed, List.exists_mem_cons_iff, ih, keyed]
          simp
      | some taken =>
          by_cases member : taken ∈ seen
          · rw [firstSeen_repeated keyed member, ih]
            refine and_congr_right fun fresh => (or_iff_right fun same => ?_).symm
            exact fresh (Option.some.inj same ▸ member)
          · rw [firstSeen_fresh keyed member, List.exists_mem_cons_iff, ih, keyed,
              List.mem_cons, not_or]
            by_cases same : taken = value
            · rw [same] at member ⊢
              exact iff_of_true (Or.inl rfl) ⟨member, Or.inl rfl⟩
            · have other : ¬ some taken = some value := fun both => same (Option.some.inj both)
              rw [or_iff_right other, or_iff_right other, and_iff_right fun both => same both.symm]

/-- The pass drops every copy but those of items without a key. -/
theorem Echoes.firstSeen {earlier items echoed copies : List α}
    (rel : Echoes earlier items echoed copies) :
    ∀ {seen : List κ}, (∀ item ∈ earlier, ∀ value, key item = some value → value ∈ seen) →
      Echoes (earlier.filter fun item => (key item).isNone) (firstSeen key seen items)
        (firstSeen key seen echoed) (copies.filter fun item => (key item).isNone) := by
  induction rel with
  | nil earlier =>
      intro seen _
      exact .nil _
  | keep item _ ih =>
      intro seen noted
      cases keyed : key item with
      | none =>
          rw [firstSeen_keyless keyed, firstSeen_keyless keyed]
          refine .keep item ((ih ?_).mono ?_)
          · rw [List.forall_mem_cons, keyed]
            exact ⟨nofun, noted⟩
          · rw [List.filter_cons_of_pos (by rw [keyed]; rfl)]
            exact List.Subset.refl _
      | some value =>
          rw [List.filter_cons_of_neg (by rw [keyed]; exact Bool.false_ne_true)] at ih
          by_cases member : value ∈ seen
          · rw [firstSeen_repeated keyed member, firstSeen_repeated keyed member]
            refine ih (List.forall_mem_cons.mpr ⟨fun other has => ?_, noted⟩)
            exact Option.some.inj (keyed.symm.trans has) ▸ member
          · rw [firstSeen_fresh keyed member, firstSeen_fresh keyed member]
            refine .keep item ((ih (List.forall_mem_cons.mpr ⟨fun other has => ?_, ?_⟩)).mono
              (List.subset_cons_self item _))
            · exact Option.some.inj (keyed.symm.trans has) ▸ List.mem_cons_self
            · exact fun before inside other has =>
                List.mem_cons_of_mem value (noted before inside other has)
  | copy member _ ih =>
      intro seen noted
      rename_i item _
      cases keyed : key item with
      | none =>
          rw [firstSeen_keyless keyed, List.filter_cons_of_pos (by rw [keyed]; rfl)]
          exact .copy (List.mem_filter.mpr ⟨member, by rw [keyed]; rfl⟩) (ih noted)
      | some value =>
          rw [firstSeen_repeated keyed (noted item member value keyed),
            List.filter_cons_of_neg (by rw [keyed]; exact Bool.false_ne_true)]
          exact ih noted

end Pass

end ZaofuFormal.Foundation
