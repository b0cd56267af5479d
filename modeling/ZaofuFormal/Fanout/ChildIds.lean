import ZaofuFormal.Foundation.Json
import ZaofuFormal.Foundation.Occurrences
import ZaofuFormal.Foundation.Regex

/-!
# Child ids of a fanout

A fanout expects one child for every role instance in its list.  A child's id is the name
of its role instance, made safe for files, with a number behind it when the instance stood
in the list before.  Making a name safe forgets characters, and a safe name can itself end
with a number: exactly then two children of different role instances share an id.
-/

namespace ZaofuFormal.Fanout

open Foundation
open Occurrences (dashed dashed_inj ne_dashed occurrencesFrom map_occurrences_nodup_iff)

/-- The complement of `[A-Za-z0-9._-]`. -/
def isUnsafe (char : Char) : Bool :=
  !(char.isAlphanum || char == '.' || char == '_' || char == '-')

/-- `_SAFE_RE`, which matches no text between two characters. -/
def safeRe : Regex := .many true 1 isUnsafe

def safeId (value : String) : String :=
  let replaced := Regex.sub (fun _ => false) [safeRe] (fun _ => ['-']) (PyString.strip value)
  let safe := String.ofList
    ((replaced.toList.dropWhile (· == '-')).rdropWhile (· == '-'))
  if safe = "" then "unknown" else safe

attribute [irreducible] safeId

structure FanoutChild where
  childId : String
  roleInstance : String
  targetRef : String := ""
  payload : Dict String Json := ∅

structure FanoutContext where
  fanoutId : String
  stageId : String
  topology : String
  traceId : String
  triggerEventId : String
  targetRef : String
  expectedChildren : List FanoutChild := []

namespace FanoutContext

def childId (roleInstance : String) (ordinal : Nat) (scope : String) : String :=
  let base := safeId roleInstance
  let base := if scope = "" then base else base ++ "-" ++ safeId scope
  if ordinal = 0 then base else base ++ "-" ++ toString (ordinal + 1)

/-- The loop over the role instances; `seen` counts how often each stood before. -/
def children (targetRef : String) (seen : Dict String Nat) : List String → List FanoutChild
  | [] => []
  | roleInstance :: rest =>
      let childId := childId roleInstance ((seen.get? roleInstance).getD 0) ""
      let seen := seen.insert roleInstance ((seen.get? roleInstance).getD 0 + 1)
      { childId, roleInstance, targetRef } :: children targetRef seen rest

section Create

variable (fanoutIdentityScopeDigest : String → String → String)

def create (stageId topology traceId triggerEventId targetRef : String)
    (roleInstances : List String) (identityScope : String) : FanoutContext :=
  let safeStage := safeId stageId
  let safeTrigger := String.ofList ((safeId triggerEventId).toList.take 12)
  let safeTrigger :=
    if identityScope = "" then safeTrigger
    else safeTrigger ++ "-" ++ fanoutIdentityScopeDigest triggerEventId identityScope
  { fanoutId := "fanout-" ++ safeStage ++ "-" ++ safeTrigger
    stageId
    topology
    traceId
    triggerEventId
    targetRef
    expectedChildren := children targetRef ∅ roleInstances }

end Create

/-- The ids follow the ordinals of the role instances in the list. -/
theorem childIds_children (targetRef : String) (seen : Dict String Nat) (roles : List String) :
    (children targetRef seen roles).map FanoutChild.childId =
      (occurrencesFrom seen roles).map fun place => childId place.1 place.2 "" := by
  induction roles generalizing seen with
  | nil => rfl
  | cons role rest ih => exact congrArg _ (ih _)

theorem childId_zero (role : String) : childId role 0 "" = safeId role := by
  rw [childId, if_pos rfl, if_pos rfl]

theorem childId_succ (role : String) (ordinal : Nat) :
    childId role (ordinal + 1) "" = dashed (safeId role) (ordinal + 2) := by
  rw [childId, if_neg (Nat.succ_ne_zero ordinal), if_pos rfl, dashed]

/-- The ids of one role instance differ by their numbers. -/
theorem childId_injective {role : String} {ordinal later : Nat}
    (same : childId role ordinal "" = childId role later "") : ordinal = later := by
  cases ordinal with
  | zero =>
      cases later with
      | zero => rfl
      | succ later =>
          rw [childId_zero, childId_succ] at same
          exact absurd same (ne_dashed _ _)
  | succ ordinal =>
      cases later with
      | zero =>
          rw [childId_zero, childId_succ] at same
          exact absurd same.symm (ne_dashed _ _)
      | succ later =>
          rw [childId_succ, childId_succ] at same
          have numbers := (dashed_inj same).2
          omega

/-- No role instance has the safe name of another, nor its safe name with a number behind
that one of the repetitions of the other gets. -/
def NamesApart (roleInstances : List String) : Prop :=
  ∀ role ∈ roleInstances, ∀ other ∈ roleInstances, role ≠ other →
    safeId role ≠ safeId other ∧
      ∀ number, 2 ≤ number → number ≤ roleInstances.count other →
        safeId role ≠ dashed (safeId other) number

/-- Where the names are apart, an id determines its role instance. -/
theorem role_eq_of_childId_eq {roles : List String} (apart : NamesApart roles)
    {role other : String} {ordinal later : Nat} (here : ordinal < roles.count role)
    (there : later < roles.count other)
    (same : childId role ordinal "" = childId other later "") : role = other := by
  have inside : role ∈ roles := List.count_pos_iff.mp (by omega)
  have insideOther : other ∈ roles := List.count_pos_iff.mp (by omega)
  by_contra different
  have behind := apart role inside other insideOther different
  have before := apart other insideOther role inside (Ne.symm different)
  cases ordinal with
  | zero =>
      cases later with
      | zero =>
          rw [childId_zero, childId_zero] at same
          exact behind.1 same
      | succ later =>
          rw [childId_zero, childId_succ] at same
          exact behind.2 (later + 2) (by omega) (by omega) same
  | succ ordinal =>
      cases later with
      | zero =>
          rw [childId_zero, childId_succ] at same
          exact before.2 (ordinal + 2) (by omega) (by omega) same.symm
      | succ later =>
          rw [childId_succ, childId_succ] at same
          exact behind.1 (dashed_inj same).1

/-- The children of a fanout have distinct ids exactly when the names of its role instances
are apart. -/
theorem child_ids_nodup_iff (fanoutIdentityScopeDigest : String → String → String)
    (stageId topology traceId triggerEventId targetRef : String) (roleInstances : List String)
    (identityScope : String) :
    ((create fanoutIdentityScopeDigest stageId topology traceId triggerEventId targetRef
        roleInstances identityScope).expectedChildren.map FanoutChild.childId).Nodup ↔
      NamesApart roleInstances := by
  rw [create, childIds_children]
  refine (map_occurrences_nodup_iff _ roleInstances).trans ⟨fun injective => ?_, fun apart => ?_⟩
  · intro role inside other insideOther different
    have here : 0 < roleInstances.count role := List.count_pos_iff.mpr inside
    have there : 0 < roleInstances.count other := List.count_pos_iff.mpr insideOther
    refine ⟨fun same => ?_, fun number least bound same => ?_⟩
    · rw [← childId_zero, ← childId_zero other] at same
      exact different (injective role other 0 0 here there same).1
    · obtain ⟨later, rfl⟩ := Nat.exists_eq_add_of_le' least
      have repeated : later + 1 < roleInstances.count other := by omega
      rw [← childId_zero, ← childId_succ] at same
      exact different (injective role other 0 (later + 1) here repeated same).1
  · intro role other ordinal later here there same
    obtain rfl := role_eq_of_childId_eq apart here there same
    exact ⟨rfl, childId_injective same⟩

/-- A repetition gets the id of another role instance, or two safe names are the same. -/
theorem repetition_shares_id :
    (children "main" ∅ ["review", "review", "review-2"]).map FanoutChild.childId =
        ["review", "review-2", "review-2"] ∧
      (children "main" ∅ ["review a", "review-a"]).map FanoutChild.childId =
        ["review-a", "review-a"] ∧
      ¬ ∀ fanoutIdentityScopeDigest stageId topology traceId triggerEventId targetRef
          roleInstances identityScope,
        ((create fanoutIdentityScopeDigest stageId topology traceId triggerEventId targetRef
          roleInstances identityScope).expectedChildren.map FanoutChild.childId).Nodup := by
  have shared : (children "main" ∅ ["review a", "review-a"]).map FanoutChild.childId =
      ["review-a", "review-a"] := by decide +kernel
  refine ⟨by decide +kernel, shared, fun every => ?_⟩
  have distinct := every (fun _ _ => "") "stage" "parallel" "trace" "trigger" "main"
    ["review a", "review-a"] ""
  rw [create, shared] at distinct
  exact absurd distinct (by decide)

end FanoutContext

end ZaofuFormal.Fanout
