import Mathlib.Algebra.GroupWithZero.Nat
import Mathlib.Data.List.Basic

/-!
# Cumulative counters

A cumulative counter only grows, until it restarts from zero.  What it has
counted is the sum of the last readings before each restart and at the end.  A
meter that passes over quiet readings may miss a restart: it loses what it had
read before, exactly when a counter is zero in a quiet reading and back at its
old height right after it.
-/

namespace ZaofuFormal.Foundation.Counters

/-- What a counter has grown from one reading to the next; a lower reading is a restart. -/
def growth (last current : Nat) : Nat := if current < last then current else current - last

def totalGrowth (last : Nat) : List Nat → Nat
  | [] => 0
  | current :: rest => growth last current + totalGrowth current rest

/-- The last values of the maximal non-decreasing stretches. -/
def stretchEnds : List Nat → List Nat
  | [] => []
  | [value] => [value]
  | value :: next :: rest =>
      if next < value then value :: stretchEnds (next :: rest) else stretchEnds (next :: rest)

theorem totalGrowth_add (last : Nat) (values : List Nat) :
    totalGrowth last values + last = (stretchEnds (last :: values)).sum := by
  induction values generalizing last with
  | nil => exact Nat.zero_add last
  | cons current rest ih =>
      rw [totalGrowth, stretchEnds, growth]
      split
      · rw [List.sum_cons, ← ih current]
        omega
      · rw [← ih current]
        omega

/-- The growth of a counter from zero is the sum of the ends of its stretches. -/
theorem totalGrowth_eq_sum (values : List Nat) :
    totalGrowth 0 values = (stretchEnds values).sum := by
  have counted := totalGrowth_add 0 values
  cases values with
  | nil => rfl
  | cons value rest => exact counted

section Meter

variable {σ : Type} (value : σ → Nat) (Quiet : σ → σ → Prop)

/-- A quiet reading repeats the last one or reads zero, and quiet readings compose. -/
structure Steady : Prop where
  value : ∀ {last current}, Quiet last current → value current = value last ∨ value current = 0
  trans : ∀ {first second third}, Quiet first second → Quiet second third → Quiet first third

/-- Right after quiet readings, the last of them zero, the counter is back. -/
def Returns (last : σ) (items : List σ) : Prop :=
  ∃ middle gone back after, items = middle ++ gone :: back :: after ∧
    (∀ item ∈ middle ++ [gone], Quiet last item) ∧ value gone = 0 ∧ 0 < value last ∧
    value last ≤ value back

/-- The counter returns after one of the readings. -/
def SomeReturn (items : List σ) : Prop :=
  ∃ before last after, items = before ++ last :: after ∧ Returns value Quiet last after

/-- The counter is back at its old height in the next reading. -/
def Back (last : σ) (items : List σ) : Prop :=
  0 < value last ∧ ∃ back after, items = back :: after ∧ value last ≤ value back

variable {value Quiet}

theorem someReturn_cons {item : σ} {rest : List σ} :
    SomeReturn value Quiet (item :: rest) ↔
      Returns value Quiet item rest ∨ SomeReturn value Quiet rest := by
  constructor
  · rintro ⟨before, last, after, shape, returns⟩
    cases before with
    | nil =>
        obtain ⟨rfl, rfl⟩ := List.cons.inj shape
        exact Or.inl returns
    | cons head before =>
        obtain ⟨_, rfl⟩ := List.cons.inj shape
        exact Or.inr ⟨before, last, after, rfl, returns⟩
  · rintro (returns | ⟨before, last, after, rfl, returns⟩)
    · exact ⟨[], item, rest, rfl, returns⟩
    · exact ⟨item :: before, last, after, rfl, returns⟩

theorem returns_cons {last item : σ} {rest : List σ} :
    Returns value Quiet last (item :: rest) ↔ Quiet last item ∧
      ((value item = 0 ∧ Back value last rest) ∨ Returns value Quiet last rest) := by
  constructor
  · rintro ⟨middle, gone, back, after, shape, quiet, zero, positive, reached⟩
    cases middle with
    | nil =>
        obtain ⟨rfl, rfl⟩ := List.cons.inj shape
        exact ⟨quiet item (by simp), Or.inl ⟨zero, positive, back, after, rfl, reached⟩⟩
    | cons head middle =>
        obtain ⟨rfl, rfl⟩ := List.cons.inj shape
        refine ⟨quiet item (by simp), Or.inr ⟨middle, gone, back, after, rfl, ?_, zero, positive,
          reached⟩⟩
        exact fun other member => quiet other (List.mem_cons_of_mem _ member)
  · rintro ⟨quiet, ⟨zero, positive, back, after, rfl, reached⟩ |
      ⟨middle, gone, back, after, rfl, later, zero, positive, reached⟩⟩
    · refine ⟨[], item, back, after, rfl, ?_, zero, positive, reached⟩
      exact fun other member => List.mem_singleton.mp member ▸ quiet
    · refine ⟨item :: middle, gone, back, after, rfl, ?_, zero, positive, reached⟩
      exact List.forall_mem_cons.mpr ⟨quiet, later⟩

/-- A counter that returns after a quiet reading returns after the one before it. -/
theorem Returns.of_quiet (steady : Steady value Quiet) {last item : σ} {items : List σ}
    (quiet : Quiet last item) (returns : Returns value Quiet item items) :
    Returns value Quiet last items := by
  obtain ⟨middle, gone, back, after, shape, later, zero, positive, reached⟩ := returns
  have same : value item = value last := (steady.value quiet).resolve_right (by omega)
  exact ⟨middle, gone, back, after, shape,
    fun other member => steady.trans quiet (later other member), zero, same ▸ positive,
    same ▸ reached⟩

theorem back_cons {last item : σ} {rest : List σ} :
    Back value last (item :: rest) ↔ 0 < value last ∧ value last ≤ value item := by
  refine and_congr_right fun _ => ?_
  constructor
  · rintro ⟨back, after, shape, reached⟩
    cases shape
    exact reached
  · intro reached
    exact ⟨item, rest, rfl, reached⟩

/-- One reading: the meter grows as the counter does, or less by its old height. -/
theorem growth_step {last previous : Nat} (state : previous = last ∨ previous = 0)
    (current : Nat) :
    growth last current ≤ growth previous current ∧
      (growth last current = growth previous current ↔
        ¬(previous = 0 ∧ 0 < last ∧ last ≤ current)) := by
  rcases state with rfl | rfl
  · constructor
    · exact Nat.le_refl _
    · omega
  · have fresh : growth 0 current = current := if_neg (Nat.not_lt_zero current)
    rw [fresh, growth]
    split
    · constructor
      · exact Nat.le_refl _
      · omega
    · constructor
      · exact Nat.sub_le current last
      · omega

theorem add_eq_add_iff {first second third fourth : Nat} (left : first ≤ third)
    (right : second ≤ fourth) :
    first + second = third + fourth ↔ first = third ∧ second = fourth := by
  omega

variable (value Quiet) [DecidableRel Quiet]

/-- The reading that the next one is compared with. -/
def keep (last current : σ) : σ := if Quiet last current then last else current

def metered (last : σ) : List σ → Nat
  | [] => 0
  | current :: rest => growth (value last) (value current) + metered (keep Quiet last current) rest

variable {value Quiet}

/-- The meter misses nothing if and only if no counter returns unseen. -/
theorem metered_eq_iff (steady : Steady value Quiet) {last : σ} {previous : Nat}
    (state : previous = value last ∨ previous = 0) (items : List σ) :
    metered value Quiet last items ≤ totalGrowth previous (items.map value) ∧
      (metered value Quiet last items = totalGrowth previous (items.map value) ↔
        ¬((previous = 0 ∧ Back value last items) ∨ Returns value Quiet last items ∨
          SomeReturn value Quiet items)) := by
  induction items generalizing last previous with
  | nil =>
      refine ⟨Nat.le_refl _, iff_of_true rfl ?_⟩
      rintro (⟨_, _, _, _, shape, _⟩ | ⟨middle, _, _, _, shape, _⟩ | ⟨before, _, _, shape, _⟩)
      · cases shape
      · cases middle <;> cases shape
      · cases before <;> cases shape
  | cons item rest ih =>
      obtain ⟨step, stepEq⟩ := growth_step state (value item)
      rw [List.map_cons, metered, totalGrowth, back_cons, returns_cons, someReturn_cons, keep]
      split
      · rename_i quiet
        obtain ⟨later, laterEq⟩ := ih (steady.value quiet)
        have inherited : Returns value Quiet item rest → Returns value Quiet last rest :=
          Returns.of_quiet steady quiet
        refine ⟨Nat.add_le_add step later, ?_⟩
        rw [add_eq_add_iff step later, stepEq, laterEq, ← not_or]
        refine not_congr ⟨?_, ?_⟩
        · rintro (back | gone | returns | some)
          · exact Or.inl back
          · exact Or.inr (Or.inl ⟨quiet, Or.inl gone⟩)
          · exact Or.inr (Or.inl ⟨quiet, Or.inr returns⟩)
          · exact Or.inr (Or.inr (Or.inr some))
        · rintro (back | ⟨_, gone | returns⟩ | returns | some)
          · exact Or.inl back
          · exact Or.inr (Or.inl gone)
          · exact Or.inr (Or.inr (Or.inl returns))
          · exact Or.inr (Or.inr (Or.inl (inherited returns)))
          · exact Or.inr (Or.inr (Or.inr some))
      · rename_i counted
        obtain ⟨later, laterEq⟩ := ih (Or.inl (Eq.refl (value item)))
        have standing : ¬(value item = 0 ∧ Back value item rest) :=
          fun both => absurd both.2.1 (by omega)
        refine ⟨Nat.add_le_add step later, ?_⟩
        rw [add_eq_add_iff step later, stepEq, laterEq, ← not_or]
        refine not_congr ⟨?_, ?_⟩
        · rintro (back | gone | rest)
          · exact Or.inl back
          · exact absurd gone standing
          · exact Or.inr (Or.inr rest)
        · rintro (back | ⟨quiet, _⟩ | rest)
          · exact Or.inl back
          · exact absurd quiet counted
          · exact Or.inr (Or.inr rest)

/-- A meter that starts from zero counts the stretches of every counter that never
returns unseen, and of no other. -/
theorem metered_eq_sum_iff (steady : Steady value Quiet) {start : σ} (zero : value start = 0)
    (items : List σ) :
    metered value Quiet start items = (stretchEnds (items.map value)).sum ↔
      ¬SomeReturn value Quiet items := by
  rw [← totalGrowth_eq_sum, (metered_eq_iff steady (Or.inr rfl) items).2]
  refine not_congr ⟨?_, fun returns => Or.inr (Or.inr returns)⟩
  rintro (⟨_, positive, _⟩ | ⟨_, _, _, _, _, _, _, positive, _⟩ | returns)
  · omega
  · omega
  · exact returns

end Meter

end ZaofuFormal.Foundation.Counters
