import Mathlib.Data.List.Infix
import ZaofuFormal.Foundation.Dict

/-!
# The latest item of a key

Some items of a list have a key.  A table that is written from the front and overwrites
holds the latest item of every key, and so does a table that is filled from the back and
keeps what it has.
-/

namespace ZaofuFormal.Foundation.Latest

variable {α κ ν : Type} [DecidableEq κ] (key : α → Option κ)

/-- The last item with the given key. -/
def latest (wanted : κ) (items : List α) : Option α :=
  items.reverse.find? fun item => decide (key item = some wanted)

variable {key}

@[simp] theorem latest_nil (wanted : κ) : latest key wanted [] = none := rfl

theorem latest_concat (wanted : κ) (items : List α) (item : α) :
    latest key wanted (items ++ [item]) =
      if key item = some wanted then some item else latest key wanted items := by
  rw [latest, List.reverse_concat, List.find?_cons]
  by_cases keyed : key item = some wanted
  · simp [keyed]
  · simp [keyed, latest]

theorem latest_append (wanted : κ) (first second : List α) :
    latest key wanted (first ++ second) =
      (latest key wanted second).or (latest key wanted first) := by
  rw [latest, List.reverse_append, List.find?_append]
  rfl

variable {items : List α} {wanted : κ} {item : α}

theorem latest_eq_none_iff :
    latest key wanted items = none ↔ ∀ item ∈ items, key item ≠ some wanted := by
  simp [latest]

theorem latest_eq_some_iff : latest key wanted items = some item ↔
      ∃ before after, items = before ++ item :: after ∧ key item = some wanted ∧
        ∀ later ∈ after, key later ≠ some wanted := by
  constructor
  · intro found
    obtain ⟨keyed, after, before, split, none⟩ := List.find?_eq_some_iff_append.mp found
    refine ⟨before.reverse, after.reverse, ?_, of_decide_eq_true keyed, fun later member => ?_⟩
    · rw [← List.reverse_reverse items, split, List.reverse_append, List.reverse_cons,
        List.append_assoc, List.singleton_append]
    · have other := none later (List.mem_reverse.mp member)
      simpa using other
  · rintro ⟨before, after, rfl, keyed, none⟩
    rw [latest_append, ← List.singleton_append, latest_append,
      latest_eq_none_iff.mpr none, Option.none_or]
    have single : latest key wanted [item] = some item := by
      rw [← List.nil_append [item], latest_concat, if_pos keyed]
    rw [single, Option.some_or]

theorem key_latest (found : latest key wanted items = some item) : key item = some wanted := by
  obtain ⟨_, _, _, keyed, _⟩ := latest_eq_some_iff.mp found
  exact keyed

theorem mem_of_latest (found : latest key wanted items = some item) : item ∈ items :=
  List.mem_reverse.mp (List.mem_of_find?_eq_some found)

/-- The latest item together with its place in the list. -/
theorem latest_zipIdx_iff {place : Nat} :
    latest (fun entry => key entry.1) wanted items.zipIdx = some (item, place) ↔
      ∃ before after, items = before ++ item :: after ∧ place = before.length ∧
        key item = some wanted ∧ ∀ later ∈ after, key later ≠ some wanted := by
  constructor
  · intro found
    obtain ⟨before, after, split, keyed, none⟩ := latest_eq_some_iff.mp found
    have firsts := congrArg (List.map Prod.fst) split
    rw [List.zipIdx_map_fst, List.map_append, List.map_cons] at firsts
    refine ⟨before.map Prod.fst, after.map Prod.fst, firsts, ?_, keyed, fun later member => ?_⟩
    · have entry := congrArg (fun entries => entries[before.length]?) split
      rw [List.getElem?_append_right (Nat.le_refl _), Nat.sub_self, List.getElem?_cons_zero,
        List.getElem?_zipIdx] at entry
      obtain ⟨_, _, same⟩ := Option.map_eq_some_iff.mp entry
      rw [List.length_map]
      have places := congrArg Prod.snd same
      simpa using places.symm
    · obtain ⟨entry, present, rfl⟩ := List.mem_map.mp member
      exact none entry present
  · rintro ⟨before, after, rfl, rfl, keyed, none⟩
    rw [List.zipIdx_append, List.zipIdx_cons, Nat.zero_add]
    refine latest_eq_some_iff.mpr ⟨_, _, rfl, keyed, fun later member => ?_⟩
    have inside := List.mem_map_of_mem (f := Prod.fst) member
    rw [List.zipIdx_map_fst] at inside
    exact none later.1 inside

/-- Overwrite the entry of the item's key. -/
def record (key : α → Option κ) (value : α → ν) (dict : Dict κ ν) (item : α) : Dict κ ν :=
  match key item with
  | none => dict
  | some wanted => dict.insert wanted (value item)

theorem get?_foldl_record (value : α → ν) (items : List α) (wanted : κ) :
    (items.foldl (record key value) Dict.empty).get? wanted =
      (latest key wanted items).map value := by
  induction items using List.reverseRecOn with
  | nil => rfl
  | append_singleton items item ih =>
      rw [List.foldl_append, List.foldl_cons, List.foldl_nil, latest_concat, record]
      cases keyed : key item with
      | none => simpa [keyed] using ih
      | some other =>
          change (Dict.insert _ other (value item)).get? wanted = _
          rw [Dict.get?_insert, ih]
          by_cases same : wanted = other
          · simp [same]
          · rw [if_neg same, if_neg fun found => same (Option.some.inj found).symm]

/-- Write the item's entry unless its key has one; reading the item can fail. -/
def fill (key : α → Option κ) (value : α → Option ν) (dict : Dict κ ν) (item : α) :
    Option (Dict κ ν) :=
  match key item with
  | none => some dict
  | some wanted =>
      if dict.contains wanted then some dict else (value item).map (dict.insert wanted)

/-- Filling keeps every entry and adds the latest readable item of every other key. -/
theorem get?_foldlM_fill {value : α → Option ν} {dict filled : Dict κ ν}
    (read : items.reverse.foldlM (fill key value) dict = some filled) (wanted : κ) :
    filled.get? wanted = (dict.get? wanted).or ((latest key wanted items).bind value) := by
  induction items using List.reverseRecOn generalizing dict with
  | nil =>
      cases read
      simp
  | append_singleton items item ih =>
      rw [List.reverse_concat, List.foldlM_cons] at read
      obtain ⟨next, wrote, rest⟩ := Option.bind_eq_some_iff.mp read
      rw [ih rest, latest_concat]
      unfold fill at wrote
      cases keyed : key item with
      | none =>
          rw [keyed] at wrote
          cases wrote
          simp
      | some other =>
          rw [keyed] at wrote
          dsimp only at wrote
          by_cases same : other = wanted
          · subst same
            rw [if_pos rfl]
            split at wrote
            · rename_i held
              cases wrote
              obtain ⟨entry, found⟩ := Option.isSome_iff_exists.mp held
              rw [found, Option.some_or, Option.some_or]
            · rename_i free
              obtain ⟨entry, readable, rfl⟩ := Option.map_eq_some_iff.mp wrote
              have absent : dict.get? other = none := by
                simpa [Dict.contains] using free
              rw [Dict.get?_insert_self, absent, Option.none_or, Option.bind_some, readable,
                Option.some_or]
          · rw [if_neg fun found => same (Option.some.inj found)]
            split at wrote
            · cases wrote
              rfl
            · obtain ⟨entry, _, rfl⟩ := Option.map_eq_some_iff.mp wrote
              rw [Dict.get?_insert_ne _ _ (Ne.symm same)]

/-- The latest item of a new key was read. -/
theorem readable_of_fill {value : α → Option ν} {dict filled : Dict κ ν}
    (read : items.reverse.foldlM (fill key value) dict = some filled)
    (free : dict.get? wanted = none) (found : latest key wanted items = some item) :
    ∃ entry, value item = some entry := by
  induction items using List.reverseRecOn generalizing dict with
  | nil => cases found
  | append_singleton items last ih =>
      rw [List.reverse_concat, List.foldlM_cons] at read
      obtain ⟨next, wrote, rest⟩ := Option.bind_eq_some_iff.mp read
      rw [latest_concat] at found
      unfold fill at wrote
      split at found
      · rename_i keyed
        cases found
        rw [keyed] at wrote
        dsimp only at wrote
        rw [Dict.contains, free, Option.isSome_none, if_neg Bool.false_ne_true] at wrote
        obtain ⟨entry, readable, _⟩ := Option.map_eq_some_iff.mp wrote
        exact ⟨entry, readable⟩
      · rename_i unkeyed
        refine ih rest ?_ found
        split at wrote
        · cases wrote
          exact free
        · rename_i other keyed
          split at wrote
          · cases wrote
            exact free
          · obtain ⟨entry, _, rfl⟩ := Option.map_eq_some_iff.mp wrote
            rw [Dict.get?_insert_ne _ _ fun same =>
              unkeyed (keyed.trans (congrArg some same.symm))]
            exact free

end ZaofuFormal.Foundation.Latest
