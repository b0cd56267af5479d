import Mathlib.Data.List.Infix

/-!
# Runs of a step function

A run folds a step function over a list of actions.  `Along` says that every
action of a run is allowed in the state in which it is taken, and the rules
below turn a property of one step into a property of every state of a run.
-/

namespace ZaofuFormal.Foundation.Runs

variable {σ α : Type}

/-- The state reached from `start` by taking the actions in order. -/
def run (step : σ → α → σ) (start : σ) (actions : List α) : σ :=
  actions.foldl step start

/-- Every action is allowed in the state in which the run takes it. -/
def Along (step : σ → α → σ) (allowed : σ → α → Prop) : σ → List α → Prop
  | _, [] => True
  | state, action :: rest => allowed state action ∧ Along step allowed (step state action) rest

instance decidableAlong (step : σ → α → σ) (allowed : σ → α → Prop)
    [∀ state action, Decidable (allowed state action)] :
    ∀ (start : σ) (actions : List α), Decidable (Along step allowed start actions)
  | _, [] => inferInstanceAs (Decidable True)
  | state, action :: rest =>
      have := decidableAlong step allowed (step state action) rest
      inferInstanceAs (Decidable (allowed state action ∧
        Along step allowed (step state action) rest))

variable {step : σ → α → σ} {allowed : σ → α → Prop}

@[simp] theorem run_nil (start : σ) : run step start [] = start := rfl

@[simp] theorem run_cons (start : σ) (action : α) (rest : List α) :
    run step start (action :: rest) = run step (step start action) rest := rfl

theorem run_append (start : σ) (first second : List α) :
    run step start (first ++ second) = run step (run step start first) second :=
  List.foldl_append

theorem along_append (start : σ) (first second : List α) :
    Along step allowed start (first ++ second) ↔
      Along step allowed start first ∧ Along step allowed (run step start first) second := by
  induction first generalizing start with
  | nil => simp [Along]
  | cons action rest ih => simp [Along, ih, and_assoc]

variable {start : σ} {actions : List α}

/-- An invariant that every step preserves holds at the end of the run. -/
theorem run_invariant (invariant : σ → Prop)
    (preserved : ∀ state action, invariant state → invariant (step state action))
    (initial : invariant start) (actions : List α) :
    invariant (run step start actions) := by
  induction actions generalizing start with
  | nil => exact initial
  | cons action rest ih => exact ih (preserved start action initial)

/-- An invariant that every allowed step preserves holds at the end of the run. -/
theorem Along.invariant (invariant : σ → Prop)
    (preserved : ∀ state action, invariant state → allowed state action →
      invariant (step state action))
    (initial : invariant start) (along : Along step allowed start actions) :
    invariant (run step start actions) := by
  induction actions generalizing start with
  | nil => exact initial
  | cons action rest ih => exact ih (preserved start action initial along.1) along.2

/-- An allowed run stays allowed up to each of the states it passes through. -/
theorem Along.initial {first second : List α} (along : Along step allowed start (first ++ second)) :
    Along step allowed start first :=
  ((along_append start first second).mp along).1

theorem Along.mono {weaker : σ → α → Prop}
    (weaken : ∀ state action, allowed state action → weaker state action)
    (along : Along step allowed start actions) :
    Along step weaker start actions := by
  induction actions generalizing start with
  | nil => exact True.intro
  | cons action rest ih => exact ⟨weaken start action along.1, ih along.2⟩

theorem Along.and {also : σ → α → Prop}
    (along : Along step allowed start actions) (alongAlso : Along step also start actions) :
    Along step (fun state action => allowed state action ∧ also state action) start actions := by
  induction actions generalizing start with
  | nil => exact True.intro
  | cons action rest ih => exact ⟨⟨along.1, alongAlso.1⟩, ih along.2 alongAlso.2⟩

/-- A run that is not allowed has a first action that is not. -/
theorem exists_of_not_along (stopped : ¬Along step allowed start actions) :
    ∃ before action after, actions = before ++ action :: after ∧
      Along step allowed start before ∧ ¬allowed (run step start before) action := by
  induction actions generalizing start with
  | nil => exact absurd True.intro stopped
  | cons action rest ih =>
      by_cases here : allowed start action
      · obtain ⟨before, later, after, rfl, along, refused⟩ :=
          ih fun along => stopped ⟨here, along⟩
        exact ⟨action :: before, later, after, rfl, ⟨here, along⟩, refused⟩
      · exact ⟨[], action, rest, rfl, True.intro, here⟩

/-- What an invariant of every step allows is allowed along every run. -/
theorem along_of_invariant (invariant : σ → Prop)
    (preserved : ∀ state action, invariant state → invariant (step state action))
    (allows : ∀ state action, invariant state → allowed state action) (initial : invariant start)
    (actions : List α) :
    Along step allowed start actions := by
  induction actions generalizing start with
  | nil => exact True.intro
  | cons action rest ih =>
      exact ⟨allows start action initial, ih (preserved start action initial)⟩

/-- Two conditions that agree wherever an invariant holds are met along the same runs. -/
theorem along_congr (invariant : σ → Prop) {other : σ → α → Prop}
    (preserved : ∀ state action, invariant state → allowed state action →
      invariant (step state action))
    (agree : ∀ state action, invariant state → (allowed state action ↔ other state action))
    (initial : invariant start) (actions : List α) :
    Along step allowed start actions ↔ Along step other start actions := by
  induction actions generalizing start with
  | nil => exact Iff.rfl
  | cons action rest ih =>
      constructor
      · rintro ⟨here, later⟩
        exact ⟨(agree start action initial).mp here,
          (ih (preserved start action initial here)).mp later⟩
      · rintro ⟨here, later⟩
        have permitted := (agree start action initial).mpr here
        exact ⟨permitted, (ih (preserved start action initial permitted)).mpr later⟩

/-- A condition on the actions alone is met along every run that takes only them. -/
theorem along_of_forall_mem {admissible : α → Prop}
    (admitted : ∀ action ∈ actions, admissible action) (start : σ) :
    Along step (fun _ action => admissible action) start actions := by
  induction actions generalizing start with
  | nil => exact True.intro
  | cons action rest ih =>
      refine ⟨admitted action List.mem_cons_self, ih (fun other member => ?_) _⟩
      exact admitted other (List.mem_cons_of_mem action member)

end ZaofuFormal.Foundation.Runs
