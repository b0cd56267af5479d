import Mathlib.Data.List.TakeWhile

/-!
# The part of a log since an item

`sinceLast p` is what follows the last item that satisfies `p`, the whole log
when there is none.  The lemmas say how it grows when the log does.
-/

namespace ZaofuFormal.Foundation.Recency

variable {α : Type} (p q : α → Bool)

def sinceLast (log : List α) : List α := (log.reverse.takeWhile fun item => !p item).reverse

@[simp] theorem sinceLast_nil : sinceLast p [] = [] := rfl

theorem sinceLast_append (log : List α) (item : α) :
    sinceLast p (log ++ [item]) = if p item then [] else sinceLast p log ++ [item] := by
  unfold sinceLast
  rw [List.reverse_append, List.reverse_singleton, List.singleton_append, List.takeWhile_cons]
  cases p item <;> simp

/-- What precedes the first item that satisfies `q`, in a log that grew by one item. -/
theorem takeWhile_append_singleton (log : List α) (item : α) :
    (log ++ [item]).takeWhile q =
      if ∀ other ∈ log, q other = true then log ++ (if q item then [item] else [])
      else log.takeWhile q := by
  rw [List.takeWhile_append]
  by_cases all : ∀ other ∈ log, q other = true
  · have whole : log.takeWhile q = log := List.takeWhile_eq_self_iff.mpr all
    rw [if_pos all, whole, if_pos rfl, List.takeWhile_cons]
    rfl
  · rw [if_neg all, if_neg]
    intro same
    apply all
    apply List.takeWhile_eq_self_iff.mp
    exact (List.takeWhile_prefix q).eq_of_length same

end ZaofuFormal.Foundation.Recency
