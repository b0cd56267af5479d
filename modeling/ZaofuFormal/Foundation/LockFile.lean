import Mathlib.Logic.Function.Basic
import ZaofuFormal.Foundation.Runs

/-!
# Advisory locks on a file behind a path

A process acquires a lock in two steps, opening the path and locking the file it
got, and releases it by unlocking, closing and, where the policy says so,
removing the path.  The kernel excludes two locks on one file; opening a path
that names no file creates a new one.  Since a path may come to name another
file, exclusion per file is exclusion per path only while every process that is
about to lock, or holds a lock, has the file that the path names.
-/

namespace ZaofuFormal.Foundation.LockFile

open Runs

/-- How locks on a path are taken and released. -/
structure Policy where
  /-- A process that finds the file locked keeps trying. -/
  waits : Bool
  /-- A release removes the path after closing the file. -/
  removes : Bool

/-- Where a process stands; the number is the file it has open. -/
inductive Phase where
  | idle
  | opened (file : Nat)
  | refused (file : Nat)
  | locked (file : Nat)
  | unlocked (file : Nat)
  | closed
deriving DecidableEq

/-- A phase in which a process neither holds a lock nor may take one without
opening the path again. -/
def Phase.apart : Phase → Prop
  | .opened _ => False
  | .locked _ => False
  | _ => True

/-- The file that the path names, the number of files created so far, the
kernel's lock table and the phase of every process. -/
structure State (ι : Type) where
  path : Option Nat
  created : Nat
  locks : Nat → Option ι
  phase : ι → Phase

inductive Action (ι : Type) where
  | openPath (process : ι)
  | flock (process : ι)
  | giveUp (process : ι)
  | unlock (process : ι)
  | close (process : ι)
  | unlink (process : ι)
  | die (process : ι)

variable {ι : Type}

/-- No process has started, and the path names no file. -/
def initial : State ι := ⟨none, 0, fun _ => none, fun _ => .idle⟩

namespace State

/-- A process holds the lock between locking and unlocking. -/
def Holds (state : State ι) (process : ι) : Prop := ∃ file, state.phase process = .locked file

/-- At most one process holds the lock. -/
def Exclusive (state : State ι) : Prop :=
  ∀ first second, state.Holds first → state.Holds second → first = second

/-- A process that has the file open and may come to lock it, or has locked it. -/
def Engaged (state : State ι) (process : ι) (file : Nat) : Prop :=
  state.phase process = .opened file ∨ state.phase process = .locked file

theorem not_engaged_of_apart {state : State ι} {process : ι} {file : Nat} (phase : Phase)
    (found : state.phase process = phase) (apart : phase.apart) :
    ¬ state.Engaged process file := by
  rintro (opened | locked)
  · rw [← found, opened] at apart
    exact apart
  · rw [← found, locked] at apart
    exact apart

/-- The lock table lists the holders. -/
def Recorded (state : State ι) : Prop :=
  ∀ process file, state.phase process = .locked file ↔ state.locks file = some process

/-- Only files that were created are named or in use. -/
structure Bounded (state : State ι) : Prop where
  path : ∀ file, state.path = some file → file < state.created
  engaged : ∀ process file, state.Engaged process file → file < state.created

/-- Every process that may lock a file has the one that the path names. -/
def Current (state : State ι) : Prop :=
  ∀ process file, state.Engaged process file → state.path = some file

theorem exclusive_of_current {state : State ι} (recorded : state.Recorded)
    (current : state.Current) : state.Exclusive := by
  rintro first second ⟨file, holds⟩ ⟨other, otherHolds⟩
  have here := current first file (.inr holds)
  have there := current second other (.inr otherHolds)
  have same : other = file := Option.some.inj (there.symm.trans here)
  have firstRecord := (recorded first file).mp holds
  have secondRecord := (recorded second file).mp (same ▸ otherHolds)
  exact Option.some.inj (firstRecord.symm.trans secondRecord)

theorem recorded_initial : (initial : State ι).Recorded := by
  intro process file
  constructor <;> intro impossible <;> cases impossible

theorem current_initial : (initial : State ι).Current := by
  rintro process file (opened | locked)
  · cases opened
  · cases locked

theorem bounded_initial : (initial : State ι).Bounded where
  path := by
    intro file named
    cases named
  engaged := by
    rintro process file (opened | locked)
    · cases opened
    · cases locked

section Moves

variable [DecidableEq ι]

/-- Move one process to another phase. -/
def enter (state : State ι) (process : ι) (phase : Phase) : State ι :=
  { state with phase := Function.update state.phase process phase }

/-- Open the path, creating a file when it names none. -/
def openPath (state : State ι) (process : ι) : State ι :=
  let file := state.path.getD state.created
  let created := if state.path.isNone then state.created + 1 else state.created
  State.enter { state with path := some file, created := created } process (.opened file)

def lock (state : State ι) (process : ι) (file : Nat) : State ι :=
  State.enter { state with locks := Function.update state.locks file (some process) } process
    (.locked file)

/-- Give a lock back and go on in another phase. -/
def unlock (state : State ι) (process : ι) (file : Nat) (phase : Phase) : State ι :=
  State.enter { state with locks := Function.update state.locks file none } process phase

def unlink (state : State ι) (process : ι) : State ι :=
  State.enter { state with path := none } process .idle

theorem enter_phase_self (state : State ι) (process : ι) (phase : Phase) :
    (state.enter process phase).phase process = phase := Function.update_self ..

theorem enter_phase_of_ne (state : State ι) {process other : ι} (phase : Phase)
    (different : other ≠ process) :
    (state.enter process phase).phase other = state.phase other :=
  Function.update_of_ne different ..

/-- A process found in a phase after a move of one process is the one that
moved, or was in that phase before. -/
theorem phase_enter_cases {state : State ι} {process other : ι} {phase found : Phase}
    (after : (state.enter process phase).phase other = found) :
    (other = process ∧ phase = found) ∨ (other ≠ process ∧ state.phase other = found) := by
  by_cases same : other = process
  · subst same
    exact .inl ⟨rfl, (state.enter_phase_self other phase).symm.trans after⟩
  · exact .inr ⟨same, (state.enter_phase_of_ne phase same).symm.trans after⟩

end Moves

end State

section Steps

variable [DecidableEq ι] (policy : Policy)

/-- One step; a step that the process cannot take leaves the state as it is. -/
def step (state : State ι) : Action ι → State ι
  | .openPath process =>
      match state.phase process with
      | .idle => state.openPath process
      | _ => state
  | .flock process =>
      match state.phase process with
      | .opened file =>
          if state.locks file = none then state.lock process file
          else if policy.waits then state
          else state.enter process (.refused file)
      | _ => state
  | .giveUp process =>
      match state.phase process with
      | .opened file => if policy.waits then state.enter process (.refused file) else state
      | _ => state
  | .unlock process =>
      match state.phase process with
      | .locked file => state.unlock process file (.unlocked file)
      | _ => state
  | .close process =>
      match state.phase process with
      | .refused _ => state.enter process .idle
      | .unlocked _ => state.enter process (if policy.removes then .closed else .idle)
      | _ => state
  | .unlink process =>
      match state.phase process with
      | .closed => state.unlink process
      | _ => state
  -- the kernel closes the files of a process that dies, which gives its locks back
  | .die process =>
      match state.phase process with
      | .locked file => state.unlock process file .idle
      | _ => state.enter process .idle

/-- What one step can do. -/
inductive Moved (state : State ι) : Action ι → State ι → Prop where
  | stay (action : Action ι) : Moved state action state
  | opens (process : ι) (idle : state.phase process = .idle) :
      Moved state (.openPath process) (state.openPath process)
  | locks (process : ι) (file : Nat) (opened : state.phase process = .opened file)
      (free : state.locks file = none) : Moved state (.flock process) (state.lock process file)
  | leaves (action : Action ι) (process : ι) (phase : Phase)
      (unheld : ∀ file, state.phase process ≠ .locked file)
      (apart : phase.apart) (removing : phase = .closed → policy.removes = true) :
      Moved state action (state.enter process phase)
  | unlocks (action : Action ι) (process : ι) (file : Nat) (phase : Phase)
      (locked : state.phase process = .locked file) (apart : phase.apart)
      (kept : phase ≠ .closed) : Moved state action (state.unlock process file phase)
  | unlinks (process : ι) (closed : state.phase process = .closed) :
      Moved state (.unlink process) (state.unlink process)

variable {policy} in
theorem step_moved (state : State ι) (action : Action ι) :
    Moved policy state action (step policy state action) := by
  cases action with
  | openPath process =>
      simp only [step]
      split
      case h_1 idle => exact .opens process idle
      case h_2 => exact .stay _
  | flock process =>
      simp only [step]
      split
      case h_1 file opened =>
        split
        case isTrue free => exact .locks process file opened free
        case isFalse =>
          split
          case isTrue => exact .stay _
          case isFalse =>
            exact .leaves _ process _ (by simp [opened]) trivial (by simp)
      case h_2 => exact .stay _
  | giveUp process =>
      simp only [step]
      split
      case h_1 file opened =>
        split
        case isTrue => exact .leaves _ process _ (by simp [opened]) trivial (by simp)
        case isFalse => exact .stay _
      case h_2 => exact .stay _
  | unlock process =>
      simp only [step]
      split
      case h_1 file locked => exact .unlocks _ process file _ locked trivial (by simp)
      case h_2 => exact .stay _
  | close process =>
      simp only [step]
      split
      case h_1 file refused => exact .leaves _ process _ (by simp [refused]) trivial (by simp)
      case h_2 file unlocked =>
        refine .leaves _ process _ (by simp [unlocked]) ?_ ?_
        · split <;> trivial
        · split
          case isTrue removes => exact fun _ => removes
          case isFalse => simp
      case h_3 => exact .stay _
  | unlink process =>
      simp only [step]
      split
      case h_1 closed => exact .unlinks process closed
      case h_2 => exact .stay _
  | die process =>
      simp only [step]
      split
      case h_1 file locked => exact .unlocks _ process file _ locked trivial (by simp)
      case h_2 unheld => exact .leaves _ process _ unheld trivial (by simp)

variable {policy} {state next : State ι} {action : Action ι}

variable {phase : Phase} {process : ι} {file : Nat}

theorem apart_ne_locked (apart : phase.apart) (file : Nat) : phase ≠ .locked file := by
  rintro rfl
  exact apart

/-- Moving a process that neither held nor takes a lock changes no record. -/
theorem recorded_enter (unheld : ∀ file, state.phase process ≠ .locked file)
    (unlocked : ∀ file, phase ≠ .locked file) (recorded : state.Recorded) :
    (state.enter process phase).Recorded := by
  intro other file
  refine Iff.trans ?_ (recorded other file)
  by_cases same : other = process
  · subst same
    rw [state.enter_phase_self]
    exact iff_of_false (unlocked file) (unheld file)
  · rw [state.enter_phase_of_ne phase same]

theorem recorded_lock (unheld : ∀ file, state.phase process ≠ .locked file)
    (free : state.locks file = none) (recorded : state.Recorded) :
    (state.lock process file).Recorded := by
  intro other taken
  change _ ↔ Function.update state.locks file (some process) taken = some other
  by_cases same : other = process
  · subst same
    rw [State.lock, State.enter_phase_self]
    by_cases here : taken = file
    · subst here
      rw [Function.update_self]
      exact iff_of_true rfl rfl
    · rw [Function.update_of_ne here, ← recorded other taken]
      refine iff_of_false (fun locked => here (Phase.locked.inj locked).symm) (unheld taken)
  · rw [State.lock, State.enter_phase_of_ne _ _ same]
    by_cases here : taken = file
    · subst here
      rw [Function.update_self]
      refine (recorded other taken).trans (iff_of_false ?_ ?_)
      · rw [free]
        exact (Option.some_ne_none other).symm
      · exact fun equal => same (Option.some.inj equal).symm
    · rw [Function.update_of_ne here]
      exact recorded other taken

theorem recorded_unlock
    (locked : state.phase process = .locked file) (unlocked : ∀ file, phase ≠ .locked file)
    (recorded : state.Recorded) : (state.unlock process file phase).Recorded := by
  intro other taken
  change _ ↔ Function.update state.locks file none taken = some other
  have record := (recorded process file).mp locked
  by_cases here : taken = file
  · subst here
    rw [Function.update_self]
    refine iff_of_false ?_ (Option.some_ne_none other).symm
    intro holds
    obtain ⟨-, found⟩ | ⟨different, before⟩ := State.phase_enter_cases holds
    · exact unlocked taken found
    · have other := (recorded other taken).mp before
      exact different (Option.some.inj (other.symm.trans record))
  · rw [Function.update_of_ne here, ← recorded other taken]
    by_cases same : other = process
    · subst same
      rw [State.unlock, State.enter_phase_self]
      refine iff_of_false (unlocked taken) fun holds => here ?_
      exact (Phase.locked.inj (locked.symm.trans holds)).symm
    · rw [State.unlock, State.enter_phase_of_ne _ _ same]

theorem Moved.recorded (moved : Moved policy state action next) (recorded : state.Recorded) :
    next.Recorded := by
  cases moved with
  | stay => exact recorded
  | opens process idle =>
      exact recorded_enter (fun file => by simp [idle]) (fun file => Phase.noConfusion) recorded
  | locks process taken opened free =>
      exact recorded_lock (fun file => by simp [opened]) free recorded
  | leaves _ process phase unheld apart =>
      exact recorded_enter unheld (apart_ne_locked apart) recorded
  | unlocks _ process freed phase locked apart =>
      exact recorded_unlock locked (apart_ne_locked apart) recorded
  | unlinks process closed =>
      exact recorded_enter (fun file => by simp [closed]) (fun file => Phase.noConfusion) recorded

/-- No process is engaged with the file of the path when the path is removed. -/
def Unengaged (state : State ι) : Action ι → Prop
  | .unlink process =>
      state.phase process = .closed →
        ∀ other file, state.path = some file → ¬ state.Engaged other file
  | _ => True

theorem engaged_enter_cases {state : State ι} {other : ι}
    (engaged : (state.enter process phase).Engaged other file) :
    (other = process ∧ (phase = .opened file ∨ phase = .locked file)) ∨
      state.Engaged other file := by
  rcases engaged with opened | locked
  · obtain ⟨same, found⟩ | ⟨-, before⟩ := State.phase_enter_cases opened
    · exact .inl ⟨same, .inl found⟩
    · exact .inr (.inl before)
  · obtain ⟨same, found⟩ | ⟨-, before⟩ := State.phase_enter_cases locked
    · exact .inl ⟨same, .inr found⟩
    · exact .inr (.inr before)

theorem engaged_of_apart {state : State ι} {other : ι}
    (apart : phase.apart) (engaged : (state.enter process phase).Engaged other file) :
    state.Engaged other file := by
  obtain ⟨-, found⟩ | before := engaged_enter_cases engaged
  · rcases found with rfl | rfl <;> exact apart.elim
  · exact before

theorem Moved.current (moved : Moved policy state action next) (unengaged : Unengaged state action)
    (current : state.Current) : next.Current := by
  intro other file engaged
  cases moved with
  | stay => exact current other file engaged
  | opens process idle =>
      obtain ⟨-, found⟩ | before := engaged_enter_cases engaged
      · rcases found with found | found
        · exact congrArg some (Phase.opened.inj found)
        · cases found
      · -- a path that some process is engaged with names a file already
        have named := current other file before
        simp [State.openPath, State.enter, named]
  | locks process taken opened free =>
      obtain ⟨rfl, found⟩ | before := engaged_enter_cases engaged
      · rcases found with found | found
        · cases found
        · cases found
          exact current other file (.inl opened)
      · exact current other file before
  | leaves _ process phase unheld apart =>
      exact current other file (engaged_of_apart apart engaged)
  | unlocks _ process freed phase locked apart =>
      exact current other file (engaged_of_apart apart engaged)
  | unlinks process closed =>
      have idleApart : Phase.idle.apart := True.intro
      have before := engaged_of_apart idleApart engaged
      exact absurd before (unengaged closed other file (current other file before))

theorem Moved.bounded (moved : Moved policy state action next) (bounded : state.Bounded) :
    next.Bounded := by
  cases moved with
  | stay => exact bounded
  | opens process idle =>
      have named : state.path.getD state.created <
          if state.path.isNone then state.created + 1 else state.created := by
        cases path : state.path with
        | none => simp
        | some file => simpa using bounded.path file path
      refine ⟨fun file found => ?_, fun other file engaged => ?_⟩
      · have same : state.path.getD state.created = file := Option.some.inj found
        rw [← same]
        exact named
      · obtain ⟨-, found⟩ | before := engaged_enter_cases engaged
        · rcases found with found | found
          · cases found
            exact named
          · cases found
        · refine (bounded.engaged other file before).trans_le ?_
          change _ ≤ if state.path.isNone then state.created + 1 else state.created
          split <;> omega
  | locks process taken opened free =>
      refine ⟨bounded.path, fun other file engaged => ?_⟩
      obtain ⟨-, found⟩ | before := engaged_enter_cases engaged
      · rcases found with found | found
        · cases found
        · rw [← Phase.locked.inj found]
          exact bounded.engaged process taken (.inl opened)
      · exact bounded.engaged other file before
  | leaves _ process phase unheld apart =>
      exact ⟨bounded.path, fun other file engaged =>
        bounded.engaged other file (engaged_of_apart apart engaged)⟩
  | unlocks _ process freed phase locked apart =>
      exact ⟨bounded.path, fun other file engaged =>
        bounded.engaged other file (engaged_of_apart apart engaged)⟩
  | unlinks process closed =>
      have idleApart : Phase.idle.apart := True.intro
      exact ⟨fun file named => absurd named (Option.some_ne_none file).symm,
        fun other file engaged =>
          bounded.engaged other file (engaged_of_apart idleApart engaged)⟩

/-- What holds in every state of a run in which removals find nobody engaged. -/
structure Sound (state : State ι) : Prop where
  recorded : state.Recorded
  bounded : state.Bounded
  current : state.Current

theorem sound_of_unengaged {actions : List (Action ι)}
    (guarded : Along (step policy) Unengaged initial actions) :
    Sound (run (step policy) initial actions) :=
  guarded.invariant Sound
    (fun state action before unengaged =>
      ⟨(step_moved state action).recorded before.recorded,
        (step_moved state action).bounded before.bounded,
        (step_moved state action).current unengaged before.current⟩)
    ⟨State.recorded_initial, State.bounded_initial, State.current_initial⟩

/-- A run that removes the path only while nobody is engaged with its file keeps
the lock exclusive. -/
theorem exclusive_of_unengaged {actions : List (Action ι)}
    (guarded : Along (step policy) Unengaged initial actions) :
    (run (step policy) initial actions).Exclusive :=
  State.exclusive_of_current (sound_of_unengaged guarded).recorded
    (sound_of_unengaged guarded).current

theorem Moved.not_closed (keeps : policy.removes = false) (moved : Moved policy state action next)
    (unclosed : ∀ process, state.phase process ≠ .closed) :
    ∀ process, next.phase process ≠ .closed := by
  intro other found
  have rest : ∀ {base : State ι} {process : ι} {phase : Phase}, base.phase = state.phase →
      phase ≠ .closed → (base.enter process phase).phase other ≠ .closed := by
    intro base process phase same different after
    obtain ⟨-, closed⟩ | ⟨-, closed⟩ := State.phase_enter_cases after
    · exact different closed
    · exact unclosed other (same ▸ closed)
  cases moved with
  | stay => exact unclosed other found
  | opens process idle => exact rest rfl Phase.noConfusion found
  | locks process taken opened free => exact rest rfl Phase.noConfusion found
  | leaves _ process phase unheld apart removing =>
      refine rest rfl (fun closed => ?_) found
      rw [keeps] at removing
      exact Bool.false_ne_true (removing closed)
  | unlocks _ process freed phase locked apart kept => exact rest rfl kept found
  | unlinks process closed => exact unclosed process closed

/-- Where a release leaves the path in place the lock is exclusive in every run. -/
theorem exclusive_of_keeps (keeps : policy.removes = false) (actions : List (Action ι)) :
    (run (step policy) initial actions).Exclusive := by
  refine exclusive_of_unengaged (along_of_invariant
    (fun state : State ι => ∀ process, state.phase process ≠ .closed)
    (fun state action before => (step_moved state action).not_closed keeps before)
    (fun state action before => ?_) (fun process => Phase.noConfusion) actions)
  cases action with
  | unlink process => exact fun closed => absurd closed (before process)
  | _ => exact True.intro

theorem step_flock_of_free (opened : state.phase process = .opened file)
    (free : state.locks file = none) :
    step policy state (.flock process) = state.lock process file := by
  simp [step, opened, free]

/-- With the path gone, an idle process locks a new file beside any holder. -/
theorem not_exclusive_of_reopened {other : ι} (removed : state.path = none)
    (idle : state.phase process = .idle) (unused : state.locks state.created = none)
    (holds : state.phase other = .locked file) :
    ¬ (run (step policy) state [.openPath process, .flock process]).Exclusive := by
  have different : other ≠ process := by
    rintro rfl
    rw [idle] at holds
    cases holds
  let reopened : State ι :=
    State.enter { state with path := some state.created, created := state.created + 1 } process
      (.opened state.created)
  have opens : step policy state (.openPath process) = reopened := by
    simp [step, idle, State.openPath, removed, reopened]
  have locks : step policy reopened (.flock process) = reopened.lock process state.created :=
    step_flock_of_free (State.enter_phase_self ..) unused
  rw [run_cons, opens, run_cons, locks, run_nil]
  intro exclusive
  refine different (exclusive other process ⟨file, ?_⟩ ⟨state.created, State.enter_phase_self ..⟩)
  calc (reopened.lock process state.created).phase other
      = reopened.phase other := State.enter_phase_of_ne _ _ different
    _ = state.phase other := State.enter_phase_of_ne _ _ different
    _ = .locked file := holds

variable (policy) in
/-- A removal that finds a process engaged with the file of the path can be
continued to a state with two holders. -/
theorem exclusion_lost {other : ι} (sound : Sound state)
    (closed : state.phase process = .closed) (named : state.path = some file)
    (engaged : state.Engaged other file) :
    ∃ actions, ¬ (run (step policy) state (.unlink process :: actions)).Exclusive := by
  have removed : step policy state (.unlink process) = state.unlink process := by
    simp [step, closed]
  have unused : state.locks state.created = none := by
    rw [Option.eq_none_iff_forall_ne_some]
    intro holder record
    have locked := (sound.recorded holder state.created).mpr record
    exact absurd (sound.bounded.engaged holder _ (.inr locked)) (lt_irrefl _)
  have idle : (state.unlink process).phase process = .idle := State.enter_phase_self ..
  have kept : ∀ holder found, state.phase holder = found → found ≠ .closed →
      (state.unlink process).phase holder = found := by
    intro holder found before different
    refine (State.enter_phase_of_ne _ _ ?_).trans before
    rintro rfl
    exact different (before.symm.trans closed)
  by_cases free : state.locks file = none
  · -- the engaged process still waits for the lock; it takes it on the removed file
    have opened : state.phase other = .opened file := by
      refine engaged.resolve_right fun locked => ?_
      rw [(sound.recorded other file).mp locked] at free
      cases free
    have different : process ≠ other := by
      rintro rfl
      rw [closed] at opened
      cases opened
    have elsewhere : state.created ≠ file := (sound.bounded.path file named).ne'
    refine ⟨[.flock other, .openPath process, .flock process], ?_⟩
    have locks : step policy (state.unlink process) (.flock other) =
        (state.unlink process).lock other file :=
      step_flock_of_free (kept other _ opened Phase.noConfusion) free
    rw [run_cons, removed, run_cons, locks]
    refine not_exclusive_of_reopened rfl ?_ ?_ (State.enter_phase_self ..)
    · exact (State.enter_phase_of_ne _ _ different).trans idle
    · exact (Function.update_of_ne elsewhere ..).trans unused
  · obtain ⟨holder, record⟩ := Option.ne_none_iff_exists'.mp free
    have locked := (sound.recorded holder file).mpr record
    refine ⟨[.openPath process, .flock process], ?_⟩
    rw [run_cons, removed]
    exact not_exclusive_of_reopened rfl idle unused (kept holder _ locked Phase.noConfusion)

end Steps

end ZaofuFormal.Foundation.LockFile
