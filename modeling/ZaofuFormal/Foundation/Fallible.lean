import ZaofuFormal.Foundation.Lists

/-!
# Fallible computations

Inversion of computations that return a value or an error: a sequence succeeds
when each part does, and a map over a list when it does so on every item.
-/

namespace ZaofuFormal.Foundation.Fallible

variable {α β ε : Type}

theorem bind_eq_ok {first : Except ε α} {next : α → Except ε β} {result : β}
    (bound : first >>= next = .ok result) :
    ∃ value, first = .ok value ∧ next value = .ok result := by
  cases first with
  | error error => cases bound
  | ok value => exact ⟨value, rfl, bound⟩

/-- Raise an error in a refused case, and go on otherwise. -/
def refuse (refused : Prop) [Decidable refused] (error : ε) : Except ε Unit :=
  if refused then .error error else .ok ()

theorem refuse_eq_ok_iff {refused : Prop} [Decidable refused] {error : ε} {result : Unit} :
    refuse refused error = .ok result ↔ ¬refused := by
  unfold refuse
  by_cases here : refused
  · simp [here]
  · simp [here]

/-- A value that has to be there. -/
def required (found : Option α) (error : ε) : Except ε α :=
  match found with
  | some value => .ok value
  | none => .error error

theorem required_eq_ok_iff {found : Option α} {error : ε} {value : α} :
    required found error = .ok value ↔ found = some value := by
  cases found with
  | none => simp [required]
  | some other => simp [required]

theorem bind_ok_iff {first : Except ε α} {next : α → Except ε β}
    {succeeds continues : Prop} (firstOk : (∃ value, first = .ok value) ↔ succeeds)
    (nextOk : ∀ value, (∃ result, next value = .ok result) ↔ continues) :
    (∃ result, first >>= next = .ok result) ↔ succeeds ∧ continues := by
  cases first with
  | error error =>
      refine iff_of_false (fun ⟨_, same⟩ => by cases same) fun both => ?_
      obtain ⟨_, same⟩ := firstOk.mpr both.1
      cases same
  | ok value => exact (nextOk value).trans (and_iff_right (firstOk.mp ⟨value, rfl⟩)).symm

/-- A computation whose value has a known reading succeeds. -/
theorem ok_of_toOption_map {computed : Except ε α} {reading : α → β} {result : β}
    (read : computed.toOption.map reading = some result) :
    ∃ value, computed = .ok value ∧ reading value = result := by
  cases computed with
  | error error => cases read
  | ok value => exact ⟨value, rfl, Option.some.inj read⟩

variable {items : List α}

theorem forM_ok_iff {check : α → Except ε Unit} :
    items.forM check = .ok () ↔ ∀ item ∈ items, check item = .ok () := by
  induction items with
  | nil => exact iff_of_true rfl nofun
  | cons item rest ih =>
      change (check item >>= fun _ => rest.forM check) = .ok () ↔ _
      rw [List.forall_mem_cons]
      cases check item with
      | error error => exact iff_of_false nofun fun both => nomatch both.1
      | ok value => exact ih.trans (and_iff_right rfl).symm

/-- An error of a sequence of checks is the error of one of them. -/
theorem exists_of_forM_error {check : α → Except ε Unit} {error : ε}
    (failed : items.forM check = .error error) : ∃ item ∈ items, check item = .error error := by
  induction items with
  | nil => cases failed
  | cons item rest ih =>
      change (check item >>= fun _ => rest.forM check) = .error error at failed
      cases checked : check item with
      | error other =>
          rw [checked] at failed
          cases failed
          exact ⟨item, List.mem_cons_self, checked⟩
      | ok value =>
          rw [checked] at failed
          obtain ⟨other, member, same⟩ := ih failed
          exact ⟨other, List.mem_cons_of_mem _ member, same⟩

theorem mapM_eq_ok_iff (f : α → Except ε β) (items : List α) (results : List β) :
    items.mapM f = .ok results ↔
      List.Forall₂ (fun item result => f item = .ok result) items results := by
  induction items generalizing results with
  | nil =>
      rw [List.mapM_nil, List.forall₂_nil_left_iff]
      exact ⟨fun same => (Except.ok.inj same).symm, fun same => congrArg Except.ok same.symm⟩
  | cons item rest ih =>
      rw [List.mapM_cons, List.forall₂_cons_left_iff]
      cases first : f item with
      | error error =>
          constructor
          · intro impossible
            cases impossible
          · rintro ⟨result, others, same, _⟩
            cases same
      | ok result =>
          cases later : rest.mapM f with
          | error error =>
              constructor
              · intro impossible
                cases impossible
              · rintro ⟨_, others, _, related, _⟩
                rw [later] at ih
                cases (ih others).mpr related
          | ok others =>
              rw [later] at ih
              constructor
              · intro same
                exact ⟨result, others, rfl, (ih others).mp rfl, (Except.ok.inj same).symm⟩
              · rintro ⟨head, tail, same, related, rfl⟩
                obtain rfl := Except.ok.inj same
                obtain rfl := Except.ok.inj ((ih tail).mpr related)
                rfl

/-- A map succeeds when it does so on every item. -/
theorem exists_mapM_eq_ok {f : α → Except ε β}
    (each : ∀ item ∈ items, ∃ result, f item = .ok result) :
    ∃ results, items.mapM f = .ok results := by
  induction items with
  | nil => exact ⟨[], rfl⟩
  | cons item rest ih =>
      obtain ⟨result, first⟩ := each item List.mem_cons_self
      obtain ⟨results, later⟩ := ih fun other member =>
        each other (List.mem_cons_of_mem item member)
      refine ⟨result :: results, (mapM_eq_ok_iff f _ _).mpr ?_⟩
      exact .cons first ((mapM_eq_ok_iff f _ _).mp later)

/-- A map over a list that may come to nothing succeeds item by item. -/
theorem mapM_eq_some_iff (f : α → Option β) (items : List α) (results : List β) :
    items.mapM f = some results ↔
      List.Forall₂ (fun item result => f item = some result) items results := by
  induction items generalizing results with
  | nil => simp [eq_comm]
  | cons item rest ih =>
      rw [List.mapM_cons, List.forall₂_cons_left_iff]
      simp only [Option.bind_eq_bind, Option.bind_eq_some_iff, ih, Option.pure_def,
        Option.some_inj]
      constructor
      · rintro ⟨result, first, others, later, rfl⟩
        exact ⟨result, others, first, later, rfl⟩
      · rintro ⟨result, others, first, later, rfl⟩
        exact ⟨result, first, others, later, rfl⟩

theorem mem_of_mapM_eq_some {f : α → Option β} {results : List β}
    (mapped : items.mapM f = some results) {result : β} (member : result ∈ results) :
    ∃ item ∈ items, f item = some result :=
  Lists.exists_mem_of_forall₂ ((mapM_eq_some_iff f items results).mp mapped) member

theorem exists_of_mapM_eq_some {f : α → Option β} {results : List β}
    (mapped : items.mapM f = some results) {item : α} (member : item ∈ items) :
    ∃ result ∈ results, f item = some result :=
  Lists.exists_mem_of_forall₂ ((mapM_eq_some_iff f items results).mp mapped).flip member

end ZaofuFormal.Foundation.Fallible
