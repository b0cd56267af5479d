import Mathlib.Data.List.Dedup
import Mathlib.Data.List.Sort
import Mathlib.Data.Prod.Lex
import Mathlib.Data.String.Basic

/-!
# Sorting by a key

Stable sorting of a list by a key.  When no two items share a key, the sorted
list depends on the items alone and not on the order in which they were given.
-/

namespace ZaofuFormal.Foundation.Sorting

variable {α κ : Type} [LinearOrder κ]

/-- `sorted(items, key=key)`. -/
def sortedBy (key : α → κ) (items : List α) : List α :=
  items.insertionSort fun first second => key first ≤ key second

theorem sortedBy_perm (key : α → κ) (items : List α) : (sortedBy key items).Perm items :=
  List.perm_insertionSort _ items

@[simp] theorem mem_sortedBy (key : α → κ) (items : List α) (item : α) :
    item ∈ sortedBy key items ↔ item ∈ items :=
  (sortedBy_perm key items).mem_iff

theorem sortedBy_pairwise (key : α → κ) (items : List α) :
    (sortedBy key items).Pairwise fun first second => key first ≤ key second := by
  have total : Std.Total fun first second : α => key first ≤ key second :=
    ⟨fun first second => le_total (key first) (key second)⟩
  have transitive : IsTrans α fun first second => key first ≤ key second :=
    ⟨fun _ _ _ => le_trans⟩
  exact List.pairwise_insertionSort _ items

/-- Two orders of the same items are sorted into one list when their keys differ. -/
theorem sortedBy_eq_of_perm {key : α → κ} {first second : List α} (perm : first.Perm second)
    (distinct : (first.map key).Nodup) : sortedBy key first = sortedBy key second := by
  have same : (sortedBy key first).Perm (sortedBy key second) :=
    ((sortedBy_perm key first).trans perm).trans (sortedBy_perm key second).symm
  refine same.eq_of_pairwise ?_ (sortedBy_pairwise key first) (sortedBy_pairwise key second)
  intro left right leftMember rightMember below above
  have leftIn : left ∈ first := (mem_sortedBy key first left).mp leftMember
  have rightIn : right ∈ first := perm.mem_iff.mpr ((mem_sortedBy key second right).mp rightMember)
  exact List.inj_on_of_nodup_map distinct leftIn rightIn (le_antisymm below above)

/-- Sorting the images is sorting by the key of the image. -/
theorem sortedBy_map {β : Type} (key : β → κ) (f : α → β) (items : List α) :
    sortedBy key (items.map f) = (sortedBy (fun item => key (f item)) items).map f :=
  (List.map_insertionSort (fun first second => key (f first) ≤ key (f second))
    (fun first second => key first ≤ key second) f items fun _ _ _ _ => Iff.rfl).symm

theorem sortedBy_sortedBy (key : α → κ) (items : List α) :
    sortedBy key (sortedBy key items) = sortedBy key items :=
  (sortedBy_pairwise key items).insertionSort_eq

/-- `sorted(set(items))`. -/
def sortedSet (items : List κ) : List κ := sortedBy id items.dedup

@[simp] theorem mem_sortedSet (items : List κ) (item : κ) :
    item ∈ sortedSet items ↔ item ∈ items := by
  rw [sortedSet, mem_sortedBy, List.mem_dedup]

end ZaofuFormal.Foundation.Sorting
