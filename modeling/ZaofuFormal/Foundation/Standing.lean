import Mathlib.Data.List.Basic

/-!
# The last offer that stands

A pass over a list keeps one candidate: an item may offer itself, withdraw the
candidate or leave it, and judging an item may fail.  What remains is the last
offer, if every later item leaves it.
-/

namespace ZaofuFormal.Foundation.Standing

inductive Verdict where
  | leave
  | withdraw
  | offer
  deriving DecidableEq

variable {α ε : Type} (judge : α → Except ε Verdict)

def note (candidate : Option α) (item : α) : Except ε (Option α) :=
  (judge item).map fun verdict =>
    match verdict with
    | .leave => candidate
    | .withdraw => none
    | .offer => some item

/-- The item offers itself, and all later ones leave it. -/
def LastOffer (items : List α) (item : α) : Prop :=
  ∃ before after, items = before ++ item :: after ∧ judge item = .ok .offer ∧
    ∀ other ∈ after, judge other = .ok .leave

variable {judge} {items : List α} {item : α} {candidate result : Option α}

theorem LastOffer.cons (first : α) (last : LastOffer judge items item) :
    LastOffer judge (first :: items) item := by
  obtain ⟨before, after, rfl, offers, left⟩ := last
  exact ⟨first :: before, after, rfl, offers, left⟩

theorem lastOffer_cons_iff (first : α) :
    LastOffer judge (first :: items) item ↔
      LastOffer judge items item ∨
        (item = first ∧ judge first = .ok .offer ∧ ∀ other ∈ items, judge other = .ok .leave) := by
  constructor
  · rintro ⟨before, after, shape, offers, left⟩
    cases before with
    | nil =>
        obtain ⟨rfl, rfl⟩ := List.cons.inj shape
        exact Or.inr ⟨rfl, offers, left⟩
    | cons head before =>
        obtain ⟨_, rest⟩ := List.cons.inj shape
        exact Or.inl ⟨before, after, rest, offers, left⟩
  · rintro (last | ⟨rfl, offers, left⟩)
    · exact last.cons first
    · exact ⟨[], items, rfl, offers, left⟩

/-- The candidate of a whole pass is the last offer that stands, or the one that
it began with if every item leaves it. -/
theorem foldlM_note_iff (passed : items.foldlM (note judge) candidate = .ok result) (item : α) :
    result = some item ↔ LastOffer judge items item ∨
      (candidate = some item ∧ ∀ other ∈ items, judge other = .ok .leave) := by
  induction items generalizing candidate with
  | nil =>
      cases passed
      refine ⟨fun same => Or.inr ⟨same, nofun⟩, ?_⟩
      rintro (⟨before, after, shape, _⟩ | ⟨same, _⟩)
      · exact absurd shape (by simp)
      · exact same
  | cons first rest ih =>
      rw [List.foldlM_cons] at passed
      cases judged : judge first with
      | error error =>
          rw [note, judged] at passed
          cases passed
      | ok verdict =>
          rw [note, judged] at passed
          rw [ih passed, lastOffer_cons_iff, List.forall_mem_cons, judged, or_assoc]
          refine or_congr_right ?_
          cases verdict with
          | leave => simp
          | withdraw => simp
          | offer => simp [eq_comm]

/-- A pass fails where judging an item does. -/
theorem foldlM_note_error_iff :
    (∃ error, items.foldlM (note judge) candidate = .error error) ↔
      ∃ item ∈ items, ∃ error, judge item = .error error := by
  induction items generalizing candidate with
  | nil =>
      refine iff_of_false ?_ ?_
      · rintro ⟨_, impossible⟩
        cases impossible
      · rintro ⟨_, impossible, _⟩
        cases impossible
  | cons first rest ih =>
      rw [List.foldlM_cons]
      cases judged : judge first with
      | error error =>
          refine iff_of_true ⟨error, ?_⟩ ⟨first, List.mem_cons_self, error, judged⟩
          rw [note, judged]
          rfl
      | ok verdict =>
          rw [note, judged]
          refine Iff.trans ih ?_
          constructor
          · rintro ⟨item, member, failed⟩
            exact ⟨item, List.mem_cons_of_mem _ member, failed⟩
          · rintro ⟨item, member, error, failed⟩
            rcases List.mem_cons.mp member with rfl | later
            · rw [judged] at failed
              cases failed
            · exact ⟨item, later, error, failed⟩

/-- A candidate that no item withdraws is replaced at most. -/
theorem isSome_foldlM_note (passed : items.foldlM (note judge) candidate = .ok result)
    (standing : candidate.isSome = true) (kept : ∀ item ∈ items, judge item ≠ .ok .withdraw) :
    result.isSome = true := by
  induction items generalizing candidate with
  | nil =>
      cases passed
      exact standing
  | cons first rest ih =>
      obtain ⟨here, later⟩ := List.forall_mem_cons.mp kept
      rw [List.foldlM_cons, note] at passed
      cases judged : judge first with
      | error error =>
          rw [judged] at passed
          cases passed
      | ok verdict =>
          rw [judged] at passed
          cases verdict with
          | leave => exact ih passed standing later
          | withdraw => exact absurd judged here
          | offer => exact ih passed rfl later

/-- An offer that no later item withdraws leaves a candidate. -/
theorem isSome_of_offer {before after : List α}
    (passed : (before ++ item :: after).foldlM (note judge) candidate = .ok result)
    (offers : judge item = .ok .offer) (kept : ∀ other ∈ after, judge other ≠ .ok .withdraw) :
    result.isSome = true := by
  rw [List.foldlM_append] at passed
  cases reached : before.foldlM (note judge) candidate with
  | error error =>
      rw [reached] at passed
      cases passed
  | ok middle =>
      rw [reached] at passed
      change (item :: after).foldlM (note judge) middle = .ok result at passed
      rw [List.foldlM_cons, note, offers] at passed
      exact isSome_foldlM_note passed rfl kept

end ZaofuFormal.Foundation.Standing
