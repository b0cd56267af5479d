import Mathlib.Data.List.Perm.Basic
import ZaofuFormal.Pipeline.DispatchPlan

/-!
# The order of rework and fresh candidates

The implementation stage takes turns between candidates with a rework count and candidates
without one.  The result is a fair order of the candidates.  A negative count would be of
neither kind, and its candidate lost where both kinds wait; the views of a pass have none.
-/

namespace ZaofuFormal.Pipeline

section Turns

variable {α : Type}

/-- The loop of the source: the preference is flipped at every step, and an empty list
leaves the turn to the other. -/
def alternate : Bool → List α → List α → List α
  | _, [], [] => []
  | true, item :: first, second => item :: alternate false first second
  | true, [], item :: second => item :: alternate false [] second
  | false, first, item :: second => item :: alternate true first second
  | false, item :: first, [] => item :: alternate true first []
termination_by _ first second => first.length + second.length

theorem takeTurns_nil_right (items : List α) : takeTurns items [] = items := by
  cases items <;> rfl

/-- After the first item the second list has its turn. -/
theorem takeTurns_cons (item : α) (rest second : List α) :
    takeTurns (item :: rest) second = item :: takeTurns second rest := by
  induction second generalizing item rest with
  | nil => rw [takeTurns_nil_right, takeTurns]
  | cons other others ih =>
      rw [takeTurns]
      cases rest with
      | nil => rw [takeTurns, takeTurns_nil_right]
      | cons next rest => rw [ih, takeTurns]

theorem alternate_eq_takeTurns (prefersFirst : Bool) (first second : List α) :
    alternate prefersFirst first second =
      if prefersFirst then takeTurns first second else takeTurns second first := by
  induction prefersFirst, first, second using alternate.induct with
  | case1 prefersFirst => cases prefersFirst <;> rw [alternate] <;> rfl
  | case2 item first second ih => rw [alternate, ih, if_neg nofun, if_pos rfl, takeTurns_cons]
  | case3 item second ih =>
      rw [alternate, ih, if_neg nofun, if_pos rfl, takeTurns_nil_right, takeTurns]
  | case4 first item second ih =>
      rw [alternate, ih, if_pos rfl, if_neg nofun, takeTurns_cons]
  | case5 item first ih =>
      rw [alternate, ih, if_pos rfl, if_neg nofun, takeTurns_nil_right, takeTurns]

/-- Taking turns keeps the order of each list, when a predicate tells them apart. -/
theorem takeTurns_filter {kind : α → Bool} {first second : List α}
    (own : ∀ item ∈ first, kind item = true) (foreign : ∀ item ∈ second, kind item = false) :
    (takeTurns first second).filter kind = first ∧
      (takeTurns second first).filter kind = first := by
  induction first generalizing second with
  | nil =>
      have none : second.filter kind = [] :=
        List.filter_eq_nil_iff.mpr fun item member => by rw [foreign item member]; nofun
      rw [takeTurns, takeTurns_nil_right, none]
      exact ⟨rfl, rfl⟩
  | cons item first ih =>
      obtain ⟨kept, others⟩ := List.forall_mem_cons.mp own
      cases second with
      | nil =>
          have all : (item :: first).filter kind = item :: first := List.filter_eq_self.mpr own
          rw [takeTurns, takeTurns_nil_right, all]
          exact ⟨rfl, rfl⟩
      | cons other second =>
          obtain ⟨dropped, rest⟩ := List.forall_mem_cons.mp foreign
          obtain ⟨left, right⟩ := ih others rest
          rw [takeTurns, takeTurns, List.filter_cons_of_pos kept, List.filter_cons_of_neg (by
            rw [dropped]; nofun), left, List.filter_cons_of_neg (by rw [dropped]; nofun),
            List.filter_cons_of_pos kept, right]
          exact ⟨rfl, rfl⟩

/-- In every two turns each list is served once. -/
theorem take_sublist_takeTurns (first second : List α) (turns : Nat) :
    (first.take turns).Sublist ((takeTurns first second).take (2 * turns)) ∧
      (second.take turns).Sublist ((takeTurns first second).take (2 * turns)) := by
  induction turns generalizing first second with
  | zero => exact ⟨List.nil_sublist _, List.nil_sublist _⟩
  | succ turns ih =>
      have longer : turns + 1 ≤ 2 * (turns + 1) := by omega
      cases first with
      | nil =>
          rw [takeTurns, List.take_nil]
          exact ⟨List.nil_sublist _, (List.take_prefix_take_left longer).sublist⟩
      | cons item first =>
          cases second with
          | nil =>
              rw [takeTurns_nil_right, List.take_nil]
              exact ⟨(List.take_prefix_take_left longer).sublist, List.nil_sublist _⟩
          | cons other second =>
              obtain ⟨left, right⟩ := ih first second
              rw [takeTurns, Nat.mul_succ, List.take_succ_cons, List.take_succ_cons,
                List.take_succ_cons, List.take_succ_cons]
              exact ⟨(left.cons other).cons_cons item, (right.cons_cons other).cons item⟩

end Turns

def IsRework (candidate : Placed) : Bool := 0 < candidate.1.reworkCount

def IsFresh (candidate : Placed) : Bool := candidate.1.reworkCount = 0

theorem isFresh_of_isRework {candidate : Placed} (rework : IsRework candidate = true) :
    IsFresh candidate = false := by
  simp only [IsRework, IsFresh, decide_eq_true_eq, decide_eq_false_iff_not] at *
  omega

theorem isRework_of_isFresh {candidate : Placed} (fresh : IsFresh candidate = true) :
    IsRework candidate = false := by
  simp only [IsRework, IsFresh, decide_eq_true_eq, decide_eq_false_iff_not] at *
  omega

theorem not_isRework_eq {candidate : Placed} (counted : 0 ≤ candidate.1.reworkCount) :
    (!IsRework candidate) = IsFresh candidate := by
  rw [IsRework, IsFresh, ← decide_not]
  exact decide_eq_decide.mpr (by omega)

/-- The preference of the loop is the kind of the first candidate. -/
theorem boundedReworkOrder_eq (candidates : List Placed) :
    boundedReworkOrder candidates =
      if candidates.filter IsRework = [] ∨ candidates.filter IsFresh = [] then candidates
      else alternate (candidates.head?.any IsRework) (candidates.filter IsRework)
        (candidates.filter IsFresh) := by
  cases candidates with
  | nil => rfl
  | cons first rest =>
      have head : first ∈ (first :: rest).filter IsRework ↔ IsRework first = true := by
        rw [List.mem_filter]
        exact and_iff_right List.mem_cons_self
      rw [alternate_eq_takeTurns, List.head?_cons, Option.any_some]
      refine if_congr Iff.rfl rfl ?_
      exact if_congr head rfl rfl

/-- The same candidates, with the order of each kind, and in every two places one for each
kind that still waits. -/
structure FairOrder (candidates ordered : List Placed) : Prop where
  perm : ordered.Perm candidates
  rework : ordered.filter IsRework = candidates.filter IsRework
  fresh : ordered.filter IsFresh = candidates.filter IsFresh
  reworkServed : ∀ turns, min turns (candidates.countP IsRework) ≤
    (ordered.take (2 * turns)).countP IsRework
  freshServed : ∀ turns, min turns (candidates.countP IsFresh) ≤
    (ordered.take (2 * turns)).countP IsFresh

theorem min_le_countP_of_sublist {kind : Placed → Bool} {own part : List Placed} {turns : Nat}
    (all : ∀ candidate ∈ own, kind candidate = true) (served : (own.take turns).Sublist part) :
    min turns own.length ≤ part.countP kind := by
  have whole : (own.take turns).countP kind = (own.take turns).length :=
    List.countP_eq_length.mpr fun candidate member => all candidate (List.mem_of_mem_take member)
  calc min turns own.length = (own.take turns).countP kind := by rw [whole, List.length_take]
    _ ≤ part.countP kind := served.countP_le

/-- Turns between the two kinds are fair when there is no third one. -/
theorem fairOrder_alternate {candidates : List Placed} (prefersRework : Bool)
    (counted : ∀ candidate ∈ candidates, 0 ≤ candidate.1.reworkCount) :
    FairOrder candidates (alternate prefersRework (candidates.filter IsRework)
      (candidates.filter IsFresh)) := by
  have reworks : ∀ candidate ∈ candidates.filter IsRework, IsRework candidate = true :=
    fun _ member => (List.mem_filter.mp member).2
  have freshes : ∀ candidate ∈ candidates.filter IsFresh, IsFresh candidate = true :=
    fun _ member => (List.mem_filter.mp member).2
  have split : (candidates.filter IsRework ++ candidates.filter IsFresh).Perm candidates := by
    have others : candidates.filter IsFresh = candidates.filter (!IsRework ·) :=
      List.filter_congr fun candidate member => (not_isRework_eq (counted candidate member)).symm
    rw [others]
    exact List.filter_append_perm IsRework candidates
  have keepsRework := takeTurns_filter reworks fun candidate member =>
    isRework_of_isFresh (freshes candidate member)
  have keepsFresh := takeTurns_filter freshes fun candidate member =>
    isFresh_of_isRework (reworks candidate member)
  have sizes : ∀ kind : Placed → Bool, candidates.countP kind = (candidates.filter kind).length :=
    fun _ => List.countP_eq_length_filter
  rw [alternate_eq_takeTurns]
  cases prefersRework with
  | true =>
      rw [if_pos rfl]
      exact ⟨(takeTurns_perm _ _).trans split, keepsRework.1, keepsFresh.2,
        fun turns => sizes IsRework ▸
          min_le_countP_of_sublist reworks (take_sublist_takeTurns _ _ turns).1,
        fun turns => sizes IsFresh ▸
          min_le_countP_of_sublist freshes (take_sublist_takeTurns _ _ turns).2⟩
  | false =>
      rw [if_neg nofun]
      exact ⟨(takeTurns_perm _ _).trans (List.perm_append_comm.trans split), keepsRework.2,
        keepsFresh.1,
        fun turns => sizes IsRework ▸
          min_le_countP_of_sublist reworks (take_sublist_takeTurns _ _ turns).2,
        fun turns => sizes IsFresh ▸
          min_le_countP_of_sublist freshes (take_sublist_takeTurns _ _ turns).1⟩

/-- A list of one kind is in a fair order as it stands. -/
theorem fairOrder_single {candidates : List Placed}
    (counted : ∀ candidate ∈ candidates, 0 ≤ candidate.1.reworkCount)
    (single : candidates.filter IsRework = [] ∨ candidates.filter IsFresh = []) :
    FairOrder candidates candidates := by
  have served {kind other : Placed → Bool} (none : candidates.filter other = [])
      (kinds : ∀ candidate ∈ candidates, (!other candidate) = kind candidate) (turns : Nat) :
      min turns (candidates.countP other) ≤ (candidates.take (2 * turns)).countP other ∧
        min turns (candidates.countP kind) ≤ (candidates.take (2 * turns)).countP kind := by
    have all : ∀ candidate ∈ candidates, kind candidate = true := by
      intro candidate member
      rw [← kinds candidate member, Bool.not_eq_true', ← Bool.not_eq_true]
      exact List.filter_eq_nil_iff.mp none candidate member
    have front : (candidates.take turns).Sublist (candidates.take (2 * turns)) :=
      (List.take_prefix_take_left (by omega)).sublist
    constructor
    · rw [List.countP_eq_length_filter, none, List.length_nil, Nat.min_zero]
      exact Nat.zero_le _
    · rw [List.countP_eq_length.mpr all]
      exact min_le_countP_of_sublist all front
  have freshes : ∀ candidate ∈ candidates, (!IsRework candidate) = IsFresh candidate :=
    fun candidate member => not_isRework_eq (counted candidate member)
  have reworks : ∀ candidate ∈ candidates, (!IsFresh candidate) = IsRework candidate :=
    fun candidate member => by rw [← freshes candidate member, Bool.not_not]
  rcases single with none | none
  · exact ⟨List.Perm.refl _, rfl, rfl, fun turns => (served none freshes turns).1,
      fun turns => (served none freshes turns).2⟩
  · exact ⟨List.Perm.refl _, rfl, rfl, fun turns => (served none reworks turns).2,
      fun turns => (served none reworks turns).1⟩

/-- Candidates with counts of reworks are served in a fair order. -/
theorem bounded_rework_order_fair {candidates : List Placed}
    (counted : ∀ candidate ∈ candidates, 0 ≤ candidate.1.reworkCount) :
    FairOrder candidates (boundedReworkOrder candidates) := by
  rw [boundedReworkOrder_eq]
  by_cases single : candidates.filter IsRework = [] ∨ candidates.filter IsFresh = []
  · rw [if_pos single]
    exact fairOrder_single counted single
  · rw [if_neg single]
    exact fairOrder_alternate _ counted

/-- A candidate of the implementation stage. -/
def waiting (taskId : String) (reworkCount : Int) : TaskView where
  taskId
  stage := .implReworkReady
  status := "backlog"
  entryMode := .standard
  blockedBy := []
  blockers := []
  requiredCapabilities := []
  nextOperationGeneration := reworkCount + 1
  reworkCount
  semanticBlocker := none
  implReworkRequest := none

theorem waiting_order_fair :
    FairOrder [(waiting "T1" 1, 0), (waiting "T2" 2, 1), (waiting "T3" 0, 2)]
      (boundedReworkOrder [(waiting "T1" 1, 0), (waiting "T2" 2, 1), (waiting "T3" 0, 2)]) :=
  bounded_rework_order_fair (by decide)

-- A negative count is of neither kind.
example : (boundedReworkOrder
    [(waiting "T1" 1, 0), (waiting "T2" (-1), 1), (waiting "T3" 0, 2)]).map
      (fun candidate => candidate.1.taskId) = ["T1", "T3"] := by decide +kernel

theorem reworkCount_at (stage : Stage) (generation : Int) :
    0 ≤ (Derived.at stage generation).reworkCount := le_max_left _ _

theorem reworkCount_rework (policy : Policy) {generation : Int} (known : 0 ≤ generation) :
    0 ≤ (Derived.rework policy generation).reworkCount := by
  unfold Derived.rework
  split <;> exact known

theorem reworkCount_deriveIntegration (current : CurrentOperations) (generation : Int) :
    0 ≤ (deriveIntegration current generation).reworkCount := by
  have counted := le_max_left 0 (generation - 1)
  unfold deriveIntegration
  dsimp only
  split
  · exact counted
  · split
    · exact counted
    · split
      all_goals first | exact counted | (split <;> exact counted)

theorem reworkCount_derivePostVerificationStage (current : CurrentOperations) (task : TaskRow)
    (policy : Policy) (generation : Int) (allowImplRework : Bool) :
    0 ≤ (derivePostVerificationStage current task policy generation
      allowImplRework).reworkCount := by
  have known : 0 ≤ verifiedGeneration generation :=
    zero_le_one.trans (le_max_left 1 _)
  rcases derivePostVerificationStage_cases current task policy generation allowImplRework with
    ⟨integration, _⟩ | ⟨_, rework⟩ | ⟨stage, _, stops⟩
  · rw [integration]
    exact reworkCount_deriveIntegration current _
  · rw [rework]
    exact reworkCount_rework policy known
  · rw [stops]
    exact reworkCount_at stage _

theorem reworkCount_deriveVerification (verify : PipelineOperation) {rejected passed : Derived}
    (rejection : 0 ≤ rejected.reworkCount) (passing : 0 ≤ passed.reworkCount) :
    0 ≤ ((deriveVerification verify rejected).getD passed).reworkCount := by
  rcases deriveVerification_cases verify rejected with
    ⟨passes, _⟩ | stops | ⟨stage, _, stops⟩
  · rwa [passes]
  · rwa [stops]
  · rw [stops]
    exact reworkCount_at stage _

section Views

variable {current : CurrentOperations}
  (known : ∀ stage operation, current.get? stage = some operation →
    0 ≤ operation.currentGeneration)

include known

theorem reworkCount_deriveImplemented (task : TaskRow) (policy : Policy) (generation : Int) :
    0 ≤ (deriveImplemented current task policy generation).reworkCount := by
  unfold deriveImplemented
  split
  · exact reworkCount_at _ _
  · rename_i verify found
    dsimp only
    split
    · exact reworkCount_at _ _
    · exact reworkCount_deriveVerification verify (reworkCount_rework policy (known _ _ found))
        (reworkCount_derivePostVerificationStage _ _ _ _ _)

theorem reworkCount_deriveStage (task : TaskRow) (policy : Policy)
    (request : Option ReworkRequest) :
    0 ≤ (deriveStage current task policy request).reworkCount := by
  unfold deriveStage
  split
  · exact le_rfl
  · rename_i impl found
    dsimp only
    rcases deriveImplementation_cases impl with ⟨passes, _⟩ | ⟨stage, _, stops⟩
    · rw [passes, Option.getD_none]
      split
      · exact reworkCount_rework policy (known _ _ found)
      · exact reworkCount_deriveImplemented known task policy _
    · rw [stops]
      exact reworkCount_at stage _

theorem reworkCount_deriveEntryStage (task : TaskRow) (given : Surroundings) :
    0 ≤ (deriveEntryStage current task given).reworkCount := by
  unfold deriveEntryStage
  split
  · exact reworkCount_derivePostVerificationStage _ _ _ _ _
  · unfold deriveVerifyOnlyStage
    split
    · exact le_rfl
    · exact reworkCount_deriveVerification _ (reworkCount_at _ _)
        (reworkCount_derivePostVerificationStage _ _ _ _ _)
  · exact reworkCount_deriveStage known task _ _

end Views

/-- The views of a pass have counts of reworks, since generations are not negative. -/
theorem reworkCount_taskView (task : TaskRow) {given : Surroundings}
    (known : ∀ operation ∈ given.operations, 0 ≤ operation.currentGeneration) :
    0 ≤ (taskView task given).reworkCount := by
  unfold taskView
  dsimp only
  split
  · exact le_rfl
  split
  · exact le_rfl
  split
  · exact le_rfl
  refine reworkCount_deriveEntryStage (fun stage operation found => ?_) task given
  exact known operation (highest_of_current (mem_allowed_of_current found) found).1

end ZaofuFormal.Pipeline
