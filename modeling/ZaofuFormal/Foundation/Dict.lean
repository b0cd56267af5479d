import Mathlib.Data.List.Nodup
import Mathlib.Data.List.Sort

/-!
# Insertion-ordered dictionaries

A dictionary keeps its keys in the order in which they were first written.
Writing a present key replaces its value in place, and writing a new key
appends it.  The entries never repeat a key; the invariant is a field, so that
no later module has to restate it.
-/

namespace ZaofuFormal.Foundation

/-- Entries in insertion order, with pairwise distinct keys. -/
structure Dict (κ ν : Type) where
  entries : List (κ × ν)
  nodupKeys : (entries.map Prod.fst).Nodup

namespace Dict

variable {κ ν μ : Type}

section Entries

variable [DecidableEq κ]

/-- The value stored under the first occurrence of a key. -/
def find (key : κ) : List (κ × ν) → Option ν
  | [] => none
  | entry :: rest => if entry.1 = key then some entry.2 else find key rest

/-- Replace the value of a present key in place, or append a new entry. -/
def put (key : κ) (value : ν) : List (κ × ν) → List (κ × ν)
  | [] => [(key, value)]
  | entry :: rest =>
      if entry.1 = key then (key, value) :: rest else entry :: put key value rest

theorem find_put (key other : κ) (value : ν) (entries : List (κ × ν)) :
    find other (put key value entries) =
      if other = key then some value else find other entries := by
  induction entries with
  | nil =>
      by_cases same : other = key
      · simp [put, find, same]
      · simp [put, find, same, Ne.symm same]
  | cons entry rest ih =>
      by_cases here : entry.1 = key
      · by_cases same : other = key
        · simp [put, find, here, same]
        · simp [put, find, here, same, Ne.symm same]
      · by_cases hit : entry.1 = other
        · have different : other ≠ key := hit ▸ here
          simp [put, find, hit, different]
        · simp [put, find, here, hit, ih]

variable {entries : List (κ × ν)}

theorem mem_put {key : κ} {value : ν} {entry : κ × ν}
    (member : entry ∈ put key value entries) : entry = (key, value) ∨ entry ∈ entries := by
  induction entries with
  | nil => exact Or.inl (List.mem_singleton.mp member)
  | cons first rest ih =>
      rw [put] at member
      split at member
      · rcases List.mem_cons.mp member with rfl | later
        · exact Or.inl rfl
        · exact Or.inr (List.mem_cons_of_mem first later)
      · rcases List.mem_cons.mp member with rfl | later
        · exact Or.inr List.mem_cons_self
        · exact (ih later).imp id (List.mem_cons_of_mem first)

theorem mem_keys_put (key : κ) (value : ν) (entries : List (κ × ν)) (other : κ) :
    other ∈ (put key value entries).map Prod.fst ↔
      other = key ∨ other ∈ entries.map Prod.fst := by
  induction entries with
  | nil => simp [put]
  | cons entry rest ih =>
      by_cases here : entry.1 = key
      · simp [put, here]
      · simp only [put, here, if_false, List.map_cons, List.mem_cons, ih]
        tauto

theorem nodup_put (key : κ) (value : ν) (distinct : (entries.map Prod.fst).Nodup) :
    ((put key value entries).map Prod.fst).Nodup := by
  induction entries with
  | nil => simp [put]
  | cons entry rest ih =>
      rw [List.map_cons, List.nodup_cons] at distinct
      by_cases here : entry.1 = key
      · simp only [put, here, if_true, List.map_cons, List.nodup_cons]
        exact ⟨here ▸ distinct.1, distinct.2⟩
      · simp only [put, here, if_false, List.map_cons, List.nodup_cons]
        refine ⟨?_, ih distinct.2⟩
        rw [mem_keys_put]
        rintro (same | old)
        · exact here same
        · exact distinct.1 old

theorem put_of_notMem {key : κ} (absent : key ∉ entries.map Prod.fst) (value : ν) :
    put key value entries = entries ++ [(key, value)] := by
  induction entries with
  | nil => rfl
  | cons entry rest ih =>
      rw [List.map_cons, List.mem_cons, not_or] at absent
      rw [put, if_neg (Ne.symm absent.1), ih absent.2, List.cons_append]

theorem put_concat {key : κ} {value old : ν} (absent : key ∉ entries.map Prod.fst) :
    put key value (entries ++ [(key, old)]) = entries ++ [(key, value)] := by
  induction entries with
  | nil => simp [put]
  | cons entry rest ih =>
      rw [List.map_cons, List.mem_cons, not_or] at absent
      rw [List.cons_append, put, if_neg (Ne.symm absent.1), ih absent.2, List.cons_append]

theorem put_eq_self {key : κ} {value : ν}
    (found : find key entries = some value) : put key value entries = entries := by
  induction entries with
  | nil => cases found
  | cons entry rest ih =>
      obtain ⟨other, held⟩ := entry
      by_cases here : other = key
      · simp only [find, here, if_true, Option.some.injEq] at found
        simp [put, here, found]
      · simp only [find, here, if_false] at found
        simp [put, here, ih found]

theorem find_eq_some_iff (distinct : (entries.map Prod.fst).Nodup) (key : κ) (value : ν) :
    find key entries = some value ↔ (key, value) ∈ entries := by
  induction entries with
  | nil => simp [find]
  | cons entry rest ih =>
      rw [List.map_cons, List.nodup_cons] at distinct
      by_cases here : entry.1 = key
      · have absent : (key, value) ∉ rest := fun member =>
          distinct.1 (here ▸ List.mem_map_of_mem member)
        have shape : some entry.2 = some value ↔ (key, value) = entry := by
          constructor
          · intro same
            exact Prod.ext here.symm (Option.some.inj same).symm
          · intro same
            rw [← same]
        simp only [find, here, if_true, List.mem_cons, absent, or_false]
        exact shape
      · have different : (key, value) ≠ entry := fun same => here (same ▸ rfl)
        simp only [find, here, if_false, List.mem_cons, different, false_or]
        exact ih distinct.2

theorem find_map (f : κ → ν → μ) (key : κ) (entries : List (κ × ν)) :
    find key (entries.map fun entry => (entry.1, f entry.1 entry.2)) =
      (find key entries).map (f key) := by
  induction entries with
  | nil => rfl
  | cons entry rest ih =>
      by_cases here : entry.1 = key
      · simp [find, here]
      · simp [find, here, ih]

theorem find_filter_ne (key other : κ) (entries : List (κ × ν)) :
    find other (entries.filter fun entry => !decide (entry.1 = key)) =
      if other = key then none else find other entries := by
  induction entries with
  | nil => simp [find]
  | cons entry rest ih =>
      by_cases here : entry.1 = key
      · rw [List.filter_cons_of_neg (by simp [here]), ih]
        by_cases same : other = key
        · simp [same]
        · have different : entry.1 ≠ other := fun hit => same (hit ▸ here)
          simp [find, same, different]
      · rw [List.filter_cons_of_pos (by simp [here])]
        by_cases hit : entry.1 = other
        · have different : other ≠ key := hit ▸ here
          simp [find, hit, different]
        · simp [find, hit, ih]

end Entries

def empty : Dict κ ν := ⟨[], List.nodup_nil⟩

instance : EmptyCollection (Dict κ ν) := ⟨empty⟩

instance : Inhabited (Dict κ ν) := ⟨empty⟩

instance [DecidableEq κ] [DecidableEq ν] : DecidableEq (Dict κ ν) := fun first second =>
  decidable_of_iff (first.entries = second.entries) <| by
    cases first
    cases second
    simp

theorem eq_of_entries {first second : Dict κ ν} (same : first.entries = second.entries) :
    first = second := by
  cases first
  cases second
  cases same
  rfl

def keys (dict : Dict κ ν) : List κ := dict.entries.map Prod.fst

def values (dict : Dict κ ν) : List ν := dict.entries.map Prod.snd

/-- Apply a function to every value, keeping keys and order. -/
def mapValues (f : ν → μ) (dict : Dict κ ν) : Dict κ μ :=
  ⟨dict.entries.map fun entry => (entry.1, f entry.2), by
    simpa [Function.comp_def] using dict.nodupKeys⟩

theorem mapValues_eq_self {dict : Dict κ ν} {f : ν → ν} (same : ∀ value, f value = value) :
    dict.mapValues f = dict :=
  eq_of_entries <| by
    have fixed : ∀ entry ∈ dict.entries, (entry.1, f entry.2) = entry :=
      fun entry _ => Prod.ext rfl (same entry.2)
    exact (List.map_congr_left fixed).trans (List.map_id' dict.entries)

section Operations

variable [DecidableEq κ]

def get? (dict : Dict κ ν) (key : κ) : Option ν := find key dict.entries

def insert (dict : Dict κ ν) (key : κ) (value : ν) : Dict κ ν :=
  ⟨put key value dict.entries, nodup_put key value dict.nodupKeys⟩

def erase (dict : Dict κ ν) (key : κ) : Dict κ ν :=
  ⟨dict.entries.filter fun entry => !decide (entry.1 = key),
    dict.nodupKeys.sublist (List.filter_sublist.map Prod.fst)⟩

def contains (dict : Dict κ ν) (key : κ) : Bool := (dict.get? key).isSome

/-- Write a list of entries from left to right. -/
def insertAll (dict : Dict κ ν) (entries : List (κ × ν)) : Dict κ ν :=
  entries.foldl (fun acc entry => acc.insert entry.1 entry.2) dict

def ofEntries (entries : List (κ × ν)) : Dict κ ν := insertAll empty entries

/-- Overwrite with every entry of a second dictionary. -/
def update (dict other : Dict κ ν) : Dict κ ν := insertAll dict other.entries

@[simp] theorem get?_empty (key : κ) : (empty : Dict κ ν).get? key = none := rfl

theorem get?_insert (dict : Dict κ ν) (key other : κ) (value : ν) :
    (dict.insert key value).get? other = if other = key then some value else dict.get? other :=
  find_put key other value dict.entries

@[simp] theorem get?_insert_self (dict : Dict κ ν) (key : κ) (value : ν) :
    (dict.insert key value).get? key = some value := by
  rw [get?_insert, if_pos rfl]

theorem get?_insert_ne (dict : Dict κ ν) {key other : κ} (value : ν) (different : other ≠ key) :
    (dict.insert key value).get? other = dict.get? other := by
  rw [get?_insert, if_neg different]

theorem get?_erase (dict : Dict κ ν) (key other : κ) :
    (dict.erase key).get? other = if other = key then none else dict.get? other :=
  find_filter_ne key other dict.entries

theorem get?_eq_some_iff (dict : Dict κ ν) (key : κ) (value : ν) :
    dict.get? key = some value ↔ (key, value) ∈ dict.entries :=
  find_eq_some_iff dict.nodupKeys key value

theorem mem_values_iff (dict : Dict κ ν) (value : ν) :
    value ∈ dict.values ↔ ∃ key, dict.get? key = some value := by
  constructor
  · intro member
    obtain ⟨entry, present, same⟩ := List.mem_map.mp member
    exact ⟨entry.1, (dict.get?_eq_some_iff _ _).mpr (same ▸ present)⟩
  · rintro ⟨key, found⟩
    exact List.mem_map.mpr ⟨(key, value), (dict.get?_eq_some_iff _ _).mp found, rfl⟩

variable {entries : List (κ × ν)} {dict : Dict κ ν}

theorem get?_insertAll (distinct : (entries.map Prod.fst).Nodup) (dict : Dict κ ν) (key : κ) :
    (dict.insertAll entries).get? key = (find key entries).or (dict.get? key) := by
  induction entries generalizing dict with
  | nil => rfl
  | cons entry rest ih =>
      obtain ⟨notLater, restDistinct⟩ := List.nodup_cons.mp distinct
      rw [insertAll, List.foldl_cons]
      change ((dict.insert entry.1 entry.2).insertAll rest).get? key = _
      rw [ih restDistinct, get?_insert]
      by_cases here : entry.1 = key
      · have missing : find key rest = none := by
          rw [Option.eq_none_iff_forall_not_mem]
          intro value found
          have present := (find_eq_some_iff restDistinct key value).mp found
          exact notLater (here ▸ List.mem_map.mpr ⟨(key, value), present, rfl⟩)
        simp [find, here, missing]
      · simp [find, here, Ne.symm here]

theorem get?_insertAll_of_notMem {key : κ} (absent : key ∉ entries.map Prod.fst) (dict : Dict κ ν) :
    (dict.insertAll entries).get? key = dict.get? key := by
  induction entries generalizing dict with
  | nil => rfl
  | cons entry rest ih =>
      obtain ⟨different, later⟩ := not_or.mp fun member =>
        absent (List.mem_cons.mpr member)
      exact (ih later (dict.insert entry.1 entry.2)).trans
        (get?_insert_ne dict entry.2 different)

theorem mem_keys_insertAll (entries : List (κ × ν)) (dict : Dict κ ν) (key : κ) :
    key ∈ (dict.insertAll entries).keys ↔ key ∈ dict.keys ∨ key ∈ entries.map Prod.fst := by
  induction entries generalizing dict with
  | nil => simp [insertAll]
  | cons entry rest ih =>
      refine (ih (dict.insert entry.1 entry.2)).trans ?_
      rw [keys, insert, mem_keys_put, List.map_cons, List.mem_cons]
      tauto

theorem get?_ofEntries (distinct : (entries.map Prod.fst).Nodup)
    (key : κ) : (ofEntries entries).get? key = find key entries := by
  rw [ofEntries, get?_insertAll distinct, get?_empty, Option.or_none]

/-- An overwritten dictionary is read in the second dictionary first. -/
theorem get?_update (dict other : Dict κ ν) (key : κ) :
    (dict.update other).get? key = (other.get? key).or (dict.get? key) :=
  get?_insertAll other.nodupKeys dict key

theorem get?_mapValues (f : ν → μ) (dict : Dict κ ν) (key : κ) :
    (dict.mapValues f).get? key = (dict.get? key).map f :=
  find_map (fun _ => f) key dict.entries

theorem contains_iff_mem_keys (dict : Dict κ ν) (key : κ) :
    dict.contains key = true ↔ key ∈ dict.keys := by
  rw [contains, Option.isSome_iff_exists, keys, List.mem_map]
  constructor
  · rintro ⟨value, found⟩
    exact ⟨(key, value), (dict.get?_eq_some_iff key value).mp found, rfl⟩
  · rintro ⟨⟨_, value⟩, present, rfl⟩
    exact ⟨value, (dict.get?_eq_some_iff _ value).mpr present⟩

theorem contains_insert (dict : Dict κ ν) (key other : κ) (value : ν) :
    (dict.insert key value).contains other = (decide (other = key) || dict.contains other) := by
  rw [contains, get?_insert]
  by_cases same : other = key
  · simp [same]
  · simp [same, contains]

theorem get?_insertAll_map (value : κ → ν) (keys : List κ)
    (dict : Dict κ ν) (key : κ) :
    (dict.insertAll (keys.map fun other => (other, value other))).get? key =
      if key ∈ keys then some (value key) else dict.get? key := by
  induction keys generalizing dict with
  | nil => rfl
  | cons first rest ih =>
      refine (ih (dict.insert first (value first))).trans ?_
      rw [get?_insert]
      by_cases later : key ∈ rest
      · simp [later]
      · by_cases here : key = first
        · simp [here]
        · simp [later, here]

theorem erase_of_not_contains {key : κ}
    (absent : dict.contains key = false) : dict.erase key = dict := by
  have kept : dict.entries.filter (fun entry => !decide (entry.1 = key)) = dict.entries := by
    refine List.filter_eq_self.mpr fun entry member => ?_
    rw [Bool.not_eq_true', decide_eq_false_iff_not]
    rintro rfl
    have found := (dict.get?_eq_some_iff entry.1 entry.2).mpr member
    rw [contains, found] at absent
    cases absent
  cases dict
  simpa [erase] using kept

theorem insert_eq_self {key : κ} {value : ν}
    (found : dict.get? key = some value) : dict.insert key value = dict :=
  eq_of_entries (put_eq_self found)

theorem insertAll_eq_self (found : ∀ entry ∈ entries, dict.get? entry.1 = some entry.2) :
    dict.insertAll entries = dict := by
  induction entries with
  | nil => rfl
  | cons entry rest ih =>
      have head : dict.insert entry.1 entry.2 = dict :=
        insert_eq_self (found entry List.mem_cons_self)
      rw [insertAll, List.foldl_cons, head]
      exact ih fun other member => found other (List.mem_cons_of_mem _ member)

end Operations

section Sorted

variable [LinearOrder κ]

/-- Reorder the entries by key, as a serializer that sorts its keys does. -/
def sortKeys (dict : Dict κ ν) : Dict κ ν :=
  ⟨dict.entries.insertionSort fun first second => first.1 ≤ second.1,
    ((List.perm_insertionSort _ _).map Prod.fst).nodup_iff.mpr dict.nodupKeys⟩

theorem sortKeys_perm (dict : Dict κ ν) : dict.sortKeys.entries.Perm dict.entries :=
  List.perm_insertionSort _ _

@[simp] theorem get?_sortKeys (dict : Dict κ ν) (key : κ) :
    dict.sortKeys.get? key = dict.get? key := by
  apply Option.ext
  intro value
  rw [get?_eq_some_iff, get?_eq_some_iff]
  exact dict.sortKeys_perm.mem_iff

end Sorted

end Dict

end ZaofuFormal.Foundation
