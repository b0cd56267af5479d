import Mathlib.Data.List.Basic

/-!
# Programs over a stored state

A program reads and replaces a stored state and may stop with an error, which
leaves behind whatever was stored last.  `Keeps` states a guarantee about the
whole program, a relation between the states before and after it, together
with a condition on the answer of a program that does not stop.  Both the
relation and the conditions are arbitrary; the rules below follow the shape of
the program.
-/

namespace ZaofuFormal.Foundation

abbrev Program (σ ε α : Type) := ExceptT ε (StateM σ) α

namespace Program

variable {σ ε α β : Type}

/-- The program of an operation given as a function of the stored state. -/
def of (operation : σ → Except ε α × σ) : Program σ ε α := operation

/-- The answer of a program started in `state`, and the state that it leaves behind. -/
def exec (program : Program σ ε α) (state : σ) : Except ε α × σ := program.run state

@[simp] theorem exec_of (operation : σ → Except ε α × σ) (state : σ) :
    (of operation).exec state = operation state := rfl

@[simp] theorem exec_pure (answer : α) (state : σ) :
    (pure answer : Program σ ε α).exec state = (.ok answer, state) := rfl

@[simp] theorem exec_throw (error : ε) (state : σ) :
    (throw error : Program σ ε α).exec state = (.error error, state) := rfl

theorem exec_bind (program : Program σ ε α) (next : α → Program σ ε β) (state : σ) :
    (program >>= next).exec state =
      match program.exec state with
      | (.ok answer, reached) => (next answer).exec reached
      | (.error error, reached) => (.error error, reached) := by
  change (ExceptT.bind program next).run state = _
  simp only [ExceptT.bind, ExceptT.mk, ExceptT.run, exec]
  change StateT.bind program (ExceptT.bindCont next) state = _
  unfold StateT.bind
  change (let result := program state
    ExceptT.bindCont next result.1 result.2) = _
  rcases program state with ⟨error | answer, reached⟩ <;> rfl

/-- Started where `before` holds, the program relates the states around it by
`relation`, and the answer that it returns satisfies `after`. -/
def Keeps (relation : σ → σ → Prop) (before : σ → Prop) (program : Program σ ε α)
    (after : α → σ → Prop) : Prop :=
  ∀ state, before state → relation state (program.exec state).2 ∧
    ∀ answer, (program.exec state).1 = .ok answer → after answer (program.exec state).2

variable {relation : σ → σ → Prop} {before : σ → Prop}

theorem Keeps.pure (reflexive : ∀ state, relation state state) {after : α → σ → Prop}
    {answer : α} (holds : ∀ state, before state → after answer state) :
    Keeps relation before (Pure.pure answer : Program σ ε α) after := by
  intro state start
  refine ⟨reflexive state, ?_⟩
  rintro _ ⟨⟩
  exact holds state start

variable {after : α → σ → Prop} {program : Program σ ε α}

theorem Keeps.throw (reflexive : ∀ state, relation state state)
    {error : ε} : Keeps relation before (throw error : Program σ ε α) after := by
  intro state _
  refine ⟨reflexive state, ?_⟩
  intro answer impossible
  cases impossible

theorem Keeps.bind
    (transitive : ∀ first second third, relation first second → relation second third →
      relation first third) {next : α → Program σ ε β} {middle : α → σ → Prop}
    {after : β → σ → Prop} (first : Keeps relation before program middle)
    (rest : ∀ answer, Keeps relation (middle answer) (next answer) after) :
    Keeps relation before (program >>= next) after := by
  intro state start
  obtain ⟨kept, answered⟩ := first state start
  rw [exec_bind]
  rcases finished : program.exec state with ⟨error | answer, reached⟩
  · rw [finished] at kept
    refine ⟨kept, ?_⟩
    intro _ impossible
    cases impossible
  · rw [finished] at kept answered
    obtain ⟨keptRest, answeredRest⟩ := rest answer reached (answered answer rfl)
    exact ⟨transitive _ _ _ kept keptRest, answeredRest⟩

/-- A stronger start and a weaker end. -/
theorem Keeps.weaken {stronger : σ → Prop}
    {weaker : α → σ → Prop} (keeps : Keeps relation before program after)
    (start : ∀ state, stronger state → before state)
    (finish : ∀ answer state, after answer state → weaker answer state) :
    Keeps relation stronger program weaker := by
  intro state strong
  obtain ⟨kept, answered⟩ := keeps state (start state strong)
  exact ⟨kept, fun answer returned => finish answer _ (answered answer returned)⟩

/-- It is enough to look at each start on its own. -/
theorem Keeps.of_start (each : ∀ start, before start → Keeps relation (· = start) program after) :
    Keeps relation before program after :=
  fun state start => each state start state rfl

theorem Keeps.relax {weaker : σ → σ → Prop} (keeps : Keeps relation before program after)
    (implies : ∀ first second, relation first second → weaker first second) :
    Keeps weaker before program after :=
  fun state start => ⟨implies _ _ (keeps state start).1, (keeps state start).2⟩

/-- What the relation carries on holds afterwards. -/
theorem Keeps.frame {also : σ → Prop} (keeps : Keeps relation before program after)
    (stable : ∀ first second, relation first second → also first → also second) :
    Keeps relation (fun state => before state ∧ also state) program
      fun answer state => after answer state ∧ also state := by
  intro state start
  obtain ⟨kept, answered⟩ := keeps state start.1
  exact ⟨kept, fun answer returned => ⟨answered answer returned, stable _ _ kept start.2⟩⟩

theorem Keeps.ite {condition : Prop} [Decidable condition] {first second : Program σ ε α}
    (yes : condition → Keeps relation before first after)
    (no : ¬condition → Keeps relation before second after) :
    Keeps relation before (if condition then first else second) after := by
  split
  · exact yes ‹_›
  · exact no ‹_›

/-- A loop each round of which carries the invariant on. -/
theorem Keeps.foldlM (reflexive : ∀ state, relation state state)
    (transitive : ∀ first second third, relation first second → relation second third →
      relation first third)
    (invariant : β → σ → Prop) {body : β → α → Program σ ε β} {items : List α}
    (round : ∀ memo item, item ∈ items →
      Keeps relation (invariant memo) (body memo item) invariant) (memo : β) :
    Keeps relation (invariant memo) (items.foldlM body memo) invariant := by
  induction items generalizing memo with
  | nil => exact Keeps.pure reflexive fun _ holds => holds
  | cons item rest ih =>
      rw [List.foldlM_cons]
      apply Keeps.bind transitive (round memo item List.mem_cons_self)
      intro next
      exact ih (fun memo item member => round memo item (List.mem_cons_of_mem _ member)) next

end Program

end ZaofuFormal.Foundation
