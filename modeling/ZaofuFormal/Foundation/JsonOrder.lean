import ZaofuFormal.Foundation.JsonCompact

/-!
# JSON texts with sorted members

Where the members of every object stand in the order of their names, the serializer
that sorts them writes what the one that does not sort them writes.
-/

namespace ZaofuFormal.Foundation

namespace Sorting

section Sorted

variable {α κ : Type} [LinearOrder κ] {key : α → κ}

theorem sortedBy_of_pairwise {items : List α}
    (sorted : items.Pairwise fun first second => key first ≤ key second) :
    sortedBy key items = items :=
  sorted.insertionSort_eq

theorem filter_orderedInsert (keep : α → Bool) (item : α) {items : List α}
    (sorted : items.Pairwise fun first second => key first ≤ key second) :
    (items.orderedInsert (fun first second => key first ≤ key second) item).filter keep =
      if keep item then
        (items.filter keep).orderedInsert (fun first second => key first ≤ key second) item
      else items.filter keep := by
  induction items with
  | nil => cases kept : keep item <;> simp [kept]
  | cons head tail ih =>
      obtain ⟨above, rest⟩ := List.pairwise_cons.mp sorted
      have later := ih rest
      rw [List.orderedInsert_cons]
      by_cases below : key item ≤ key head
      · rw [if_pos below, List.filter_cons]
        cases kept : keep item with
        | false => simp
        | true =>
            -- everything that is kept stands behind the new item
            have first : ∀ other ∈ (head :: tail).filter keep, key item ≤ key other := by
              intro other member
              rcases List.mem_cons.mp (List.mem_of_mem_filter member) with rfl | inside
              · exact below
              · exact below.trans (above other inside)
            rw [if_pos rfl, if_pos rfl]
            cases shape : (head :: tail).filter keep with
            | nil => rfl
            | cons other others =>
                rw [List.orderedInsert_cons, if_pos]
                exact first other (by rw [shape]; exact List.mem_cons_self)
      · rw [if_neg below, List.filter_cons, later, List.filter_cons]
        cases keptHead : keep head with
        | false => simp
        | true =>
            cases kept : keep item with
            | false => simp
            | true =>
                simp only [if_true]
                rw [List.orderedInsert_cons, if_neg below]

/-- Items can be left out before or after the sort. -/
theorem filter_sortedBy (keep : α → Bool) (items : List α) :
    (sortedBy key items).filter keep = sortedBy key (items.filter keep) := by
  induction items with
  | nil => rfl
  | cons item rest ih =>
      change ((sortedBy key rest).orderedInsert _ item).filter keep = _
      rw [filter_orderedInsert keep item (sortedBy_pairwise key rest), ih, List.filter_cons]
      cases keep item with
      | false => rfl
      | true => rfl

end Sorted

end Sorting

namespace Dict

section Ascending

variable {κ ν : Type} [LinearOrder κ]

variable {entries : List (κ × ν)}

theorem put_ascending {key : κ} (value : ν)
    (ascending : entries.Pairwise fun first second => first.1 < second.1)
    (last : ∀ entry ∈ entries, entry.1 ≤ key) :
    (put key value entries).Pairwise fun first second => first.1 < second.1 := by
  induction entries with
  | nil => exact List.pairwise_singleton _ _
  | cons head tail ih =>
      obtain ⟨above, rest⟩ := List.pairwise_cons.mp ascending
      rw [put]
      split
      · rename_i same
        exact List.pairwise_cons.mpr ⟨fun entry member => same ▸ above entry member, rest⟩
      · rename_i other
        have before : head.1 < key := lt_of_le_of_ne (last head List.mem_cons_self) other
        refine List.pairwise_cons.mpr ⟨fun entry member => ?_, ih rest fun entry member =>
          last entry (List.mem_cons_of_mem _ member)⟩
        rcases mem_put member with rfl | inside
        · exact before
        · exact above entry inside

/-- What is kept of pairs in the order of their keys is in that order, under distinct keys. -/
theorem insertAll_ascending {dict : Dict κ ν}
    (ascending : dict.entries.Pairwise fun first second => first.1 < second.1)
    (sorted : entries.Pairwise fun first second => first.1 ≤ second.1)
    (last : ∀ entry ∈ entries, ∀ earlier ∈ dict.entries, earlier.1 ≤ entry.1) :
    (dict.insertAll entries).entries.Pairwise fun first second => first.1 < second.1 := by
  induction entries generalizing dict with
  | nil => exact ascending
  | cons head tail ih =>
      obtain ⟨above, rest⟩ := List.pairwise_cons.mp sorted
      rw [insertAll, List.foldl_cons]
      refine ih (put_ascending head.2 ascending (last head List.mem_cons_self)) rest ?_
      intro entry member earlier inside
      rcases mem_put inside with rfl | old
      · exact above entry member
      · exact last entry (List.mem_cons_of_mem _ member) earlier old

theorem ofEntries_ascending (sorted : entries.Pairwise fun first second => first.1 ≤ second.1) :
    (ofEntries entries).entries.Pairwise fun first second => first.1 < second.1 :=
  insertAll_ascending List.Pairwise.nil sorted fun _ _ _ member =>
    absurd member List.not_mem_nil

end Ascending

section Entries

variable {κ ν : Type} [DecidableEq κ]

variable {entries : List (κ × ν)}

theorem mem_insertAll {dict : Dict κ ν} {entry : κ × ν}
    (member : entry ∈ (dict.insertAll entries).entries) :
    entry ∈ dict.entries ∨ entry ∈ entries := by
  induction entries generalizing dict with
  | nil => exact Or.inl member
  | cons head tail ih =>
      rw [insertAll, List.foldl_cons] at member
      rcases ih member with old | later
      · rcases mem_put old with rfl | earlier
        · exact Or.inr List.mem_cons_self
        · exact Or.inl earlier
      · exact Or.inr (List.mem_cons_of_mem _ later)

theorem mem_of_mem_ofEntries {entry : κ × ν}
    (member : entry ∈ (ofEntries entries).entries) : entry ∈ entries :=
  (mem_insertAll member).resolve_left List.not_mem_nil

theorem get?_insertAll_eq (entries : List (κ × ν)) (dict : Dict κ ν) (key : κ) :
    (dict.insertAll entries).get? key = ((ofEntries entries).get? key).or (dict.get? key) := by
  induction entries generalizing dict with
  | nil => rfl
  | cons entry rest ih =>
      have split (start : Dict κ ν) : start.insertAll (entry :: rest) =
          (start.insert entry.1 entry.2).insertAll rest := rfl
      rw [ofEntries, split, split, ih, ih (empty.insert _ _), get?_insert, get?_insert,
        Option.or_assoc]
      by_cases here : key = entry.1 <;> simp [here, get?_empty]

/-- A pair is kept unless a later one has its key. -/
theorem mem_ofEntries_cons {first : κ × ν} {rest : List (κ × ν)} {entry : κ × ν} :
    entry ∈ (ofEntries (first :: rest)).entries ↔
      entry ∈ (ofEntries rest).entries ∨
        entry = first ∧ first.1 ∉ rest.map Prod.fst := by
  obtain ⟨key, value⟩ := entry
  obtain ⟨name, head⟩ := first
  have step : ofEntries ((name, head) :: rest) = (insert empty name head).insertAll rest := rfl
  rw [← get?_eq_some_iff, ← get?_eq_some_iff, step, get?_insertAll_eq, get?_insert,
    Option.or_eq_some_iff, get?_empty, Option.eq_none_iff_forall_not_mem]
  have absent : (∀ other, other ∉ (ofEntries rest).get? key) ↔ key ∉ rest.map Prod.fst := by
    rw [← Option.eq_none_iff_forall_not_mem, ← Option.not_isSome_iff_eq_none]
    change ¬ (ofEntries rest).contains key = true ↔ _
    rw [contains_iff_mem_keys, ofEntries, mem_keys_insertAll]
    simp [keys, empty]
  rw [absent, Prod.mk.injEq]
  by_cases here : key = name
  · subst here
    simp [and_comm, eq_comm]
  · simp [here]

/-- Pairs with distinct keys are kept as they are. -/
theorem entries_ofEntries (distinct : (entries.map Prod.fst).Nodup) :
    (ofEntries entries).entries = entries := by
  induction entries using List.reverseRecOn with
  | nil => rfl
  | append_singleton rest last ih =>
      rw [List.map_append, List.nodup_append] at distinct
      have absent : last.1 ∉ rest.map Prod.fst := fun member =>
        distinct.2.2 last.1 member last.1 (List.mem_singleton_self _) rfl
      rw [ofEntries, insertAll, List.foldl_append]
      change put last.1 last.2 (ofEntries rest).entries = _
      rw [ih distinct.1, put_of_notMem absent]

end Entries

end Dict

namespace JsonText

mutual

/-- The names of every object ascend. -/
def Ordered : Json → Prop
  | .arr items => OrderedItems items
  | .obj fields =>
      (fields.Pairwise fun first second => first.1 < second.1) ∧ OrderedFields fields
  | _ => True

def OrderedItems : List Json → Prop
  | [] => True
  | item :: rest => Ordered item ∧ OrderedItems rest

def OrderedFields : List (String × Json) → Prop
  | [] => True
  | (_, value) :: rest => Ordered value ∧ OrderedFields rest

end

theorem writeFields_eq (comma colon : List Char) (fields : List (String × Json)) :
    writeFields comma colon fields =
      fields.map fun entry => quoted entry.1 ++ (colon ++ write comma colon entry.2) := by
  induction fields with
  | nil => rfl
  | cons entry rest ih => rw [writeFields, ih, List.map_cons]

mutual

/-- Members in the order of their names are written in their own order. -/
theorem dumps_of_ordered : ∀ {json : Json}, Ordered json → dumps json = compact json
  | .null, _ | .bool true, _ | .bool false, _ | .int _, _ | .float _ _, _ | .str _, _ => rfl
  | .arr items, ordered => by
      rw [dumps, compact, write, dumpsItems_of_ordered ordered]
  | .obj fields, ordered => by
      have sorted : ((dumpsFields fields).Pairwise fun first second => first.1 ≤ second.1) := by
        rw [dumpsFields_eq, List.pairwise_map]
        exact ordered.1.imp fun below => below.le
      rw [dumps, Sorting.sortedBy_of_pairwise sorted, dumpsFields_of_ordered ordered.2, braced,
        compact, write, writeFields_eq, List.map_map]
      rfl

theorem dumpsItems_of_ordered : ∀ {items : List Json}, OrderedItems items →
    dumpsItems items = writeItems [','] [':'] items
  | [], _ => rfl
  | item :: rest, ordered => by
      rw [dumpsItems, writeItems, dumps_of_ordered ordered.1, dumpsItems_of_ordered ordered.2]
      rfl

theorem dumpsFields_of_ordered : ∀ {fields : List (String × Json)}, OrderedFields fields →
    dumpsFields fields = fields.map fun entry => (entry.1, compact entry.2)
  | [], _ => rfl
  | (key, value) :: rest, ordered => by
      rw [dumpsFields, dumps_of_ordered ordered.1, dumpsFields_of_ordered ordered.2, List.map_cons]

end

mutual

/-- The value with the members of its objects in the order of their names. -/
def sortMembers : Json → Json
  | .arr items => .arr (sortItems items)
  | .obj fields => .obj (Sorting.sortedBy Prod.fst (sortFields fields))
  | value => value

def sortItems : List Json → List Json
  | [] => []
  | item :: rest => sortMembers item :: sortItems rest

def sortFields : List (String × Json) → List (String × Json)
  | [] => []
  | (key, value) :: rest => (key, sortMembers value) :: sortFields rest

end

theorem sortFields_eq (fields : List (String × Json)) :
    sortFields fields = fields.map fun entry => (entry.1, sortMembers entry.2) := by
  induction fields with
  | nil => rfl
  | cons entry rest ih => rw [sortFields, ih, List.map_cons]

mutual

/-- The serializer that sorts members writes the value with sorted members. -/
theorem dumps_eq_compact : ∀ json : Json, dumps json = compact (sortMembers json)
  | .null | .bool true | .bool false | .int _ | .float _ _ | .str _ => rfl
  | .arr items => by
      rw [dumps, dumpsItems_eq_compact items, sortMembers, compact, write]
  | .obj fields => by
      rw [dumps, dumpsFields_eq_compact fields, Sorting.sortedBy_map, sortMembers, compact, write,
        writeFields_eq, braced, List.map_map]
      rfl

theorem dumpsItems_eq_compact : ∀ items : List Json,
    dumpsItems items = writeItems [','] [':'] (sortItems items)
  | [] => rfl
  | item :: rest => by
      rw [dumpsItems, dumps_eq_compact item, dumpsItems_eq_compact rest, sortItems, writeItems]
      rfl

theorem dumpsFields_eq_compact : ∀ fields : List (String × Json),
    dumpsFields fields = (sortFields fields).map fun entry => (entry.1, compact entry.2)
  | [] => rfl
  | (key, value) :: rest => by
      rw [dumpsFields, dumps_eq_compact value, dumpsFields_eq_compact rest, sortFields,
        List.map_cons]

end

section ReadSorted

variable {float : String → Json}

mutual

/-- Values that are read back are read back with sorted members. -/
theorem plain_sortMembers : ∀ {json : Json}, Plain float json → Plain float (sortMembers json)
  | .null, _ | .bool _, _ | .int _, _ | .str _, _ => True.intro
  | .float _ _, plain => plain
  | .arr items, plain => @plain_sortItems items plain
  | .obj fields, ⟨distinct, plain⟩ => by
      have perm := Sorting.sortedBy_perm Prod.fst (sortFields fields)
      have names : (sortFields fields).map Prod.fst = fields.map Prod.fst := by
        rw [sortFields_eq, List.map_map]
        rfl
      refine ⟨?_, (plainFields_iff float _).mpr fun entry member => ?_⟩
      · rw [(perm.map Prod.fst).nodup_iff, names]
        exact distinct
      · exact (plainFields_iff float _).mp (plain_sortFields plain) entry (perm.mem_iff.mp member)

theorem plain_sortItems : ∀ {items : List Json},
    PlainItems float items → PlainItems float (sortItems items)
  | [], _ => True.intro
  | _ :: _, plain => ⟨plain_sortMembers plain.1, plain_sortItems plain.2⟩

theorem plain_sortFields : ∀ {fields : List (String × Json)},
    PlainFields float fields → PlainFields float (sortFields fields)
  | [], _ => True.intro
  | (_, _) :: _, plain => ⟨plain_sortMembers plain.1, plain_sortFields plain.2⟩

end

/-- The text of an object with sorted members is read back, also with blanks behind it. -/
theorem loads_dumps_append {fields : List (String × Json)} (plain : Plain float (.obj fields))
    {tail : List Char} (blank : skip tail = []) :
    loads float (dumps (.obj fields) ++ tail) = some (sortMembers (.obj fields)) := by
  have sorted := plain_sortMembers plain
  rw [dumps_eq_compact, compact_eq]
  rw [sortMembers] at sorted ⊢
  have enough : sizeFields (Sorting.sortedBy Prod.fst (sortFields fields)) <
      (gapped [] (.obj (Sorting.sortedBy Prod.fst (sortFields fields))) ++ tail).length := by
    have long := size_le_length [] (.obj (Sorting.sortedBy Prod.fst (sortFields fields)))
    rw [size] at long
    rw [List.length_append]
    omega
  have read := readObject_written float gap_nil sorted enough
    (fun entry member _ _ rest small stops => readValue_gapped float gap_nil
      ((plainFields_iff float _).mp sorted.2 entry member) small stops rest) tail
  rw [loads, skip_gapped float [] sorted tail, read, Option.bind_some, if_pos blank]

end ReadSorted

def hex4 (code : Nat) : List Char :=
  Json.backslash :: 'u' :: [code / 4096, code / 256, code / 16, code].map fun shifted =>
    Json.hexDigit (shifted % 16)

/-- A character as it stands in a text of ASCII: outside, its code or the two codes of
its surrogates. -/
def asciiEscape (char : Char) : List Char :=
  if char.toNat < 127 then [char]
  else if char.toNat < 65536 then hex4 char.toNat
  else
    hex4 (55296 + (char.toNat - 65536) / 1024) ++ hex4 (56320 + (char.toNat - 65536) % 1024)

/-- `json.dumps(value, sort_keys=True)`. -/
def asciiDumps (value : Json) : String :=
  String.ofList ((spaced (sortMembers value)).flatMap asciiEscape)

end JsonText

end ZaofuFormal.Foundation
