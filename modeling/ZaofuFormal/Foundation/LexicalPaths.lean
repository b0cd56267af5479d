import Mathlib.Data.List.Infix
import Mathlib.Data.List.TakeWhile

/-!
# Lexical resolution of paths

A path is resolved component by component: a component that climbs takes the last one
away, or leaves the base when none is left.  A checker that compares unresolved paths
with scopes knows of a path only its components before the first one that climbs or
that it cannot read.  What such a checker accepts is compared here with where the
resolved paths lie.
-/

namespace ZaofuFormal.Foundation.LexicalPaths

variable {α : Type}

/-- A path from a base: so many directories up, and then down along the components. -/
structure Resolved (α : Type) where
  up : Nat
  down : List α
  deriving DecidableEq

section Resolve

variable [DecidableEq α]

def resolveStep (climb : α) (path : Resolved α) (part : α) : Resolved α :=
  if part = climb then
    if path.down = [] then { path with up := path.up + 1 }
    else { path with down := path.down.dropLast }
  else { path with down := path.down ++ [part] }

def resolve (climb : α) (parts : List α) : Resolved α :=
  parts.foldl (resolveStep climb) ⟨0, []⟩

end Resolve

namespace Resolved

/-- The scope or something inside it. -/
def AtOrBelow (path : Resolved α) (scope : List α) : Prop := path.up = 0 ∧ scope <+: path.down

/-- The scope or a directory that holds it. -/
def AtOrAbove (path : Resolved α) (scope : List α) : Prop :=
  path.down <+: scope ∧ (path.up = 0 ∨ path.down = [])

def Related (path : Resolved α) (scope : List α) : Prop :=
  path.AtOrBelow scope ∨ path.AtOrAbove scope

section Decide

variable [DecidableEq α] (path : Resolved α) (scope : List α)

instance : Decidable (path.AtOrBelow scope) := inferInstanceAs (Decidable (_ ∧ _))

instance : Decidable (path.AtOrAbove scope) := inferInstanceAs (Decidable (_ ∧ (_ ∨ _)))

instance : Decidable (path.Related scope) := inferInstanceAs (Decidable (_ ∨ _))

end Decide

theorem AtOrAbove.extended {path : Resolved α} {scope longer : List α}
    (above : path.AtOrAbove scope) (extends' : scope <+: longer) : path.AtOrAbove longer :=
  ⟨above.1.trans extends', above.2⟩

/-- What is related to a scope is related to the scopes that hold it. -/
theorem Related.shortened {path : Resolved α} {scope shorter : List α}
    (related : path.Related scope) (shortens : shorter <+: scope) : path.Related shorter := by
  rcases related with ⟨inside, below⟩ | ⟨above, inside⟩
  · exact Or.inl ⟨inside, shortens.trans below⟩
  · rcases inside with level | empty
    · rcases List.prefix_or_prefix_of_prefix above shortens with before | behind
      · exact Or.inr ⟨before, Or.inl level⟩
      · exact Or.inl ⟨level, behind⟩
    · exact Or.inr ⟨by rw [empty]; exact List.nil_prefix, Or.inr empty⟩

end Resolved

/-- What a checker knows of a path: its components up to where it stops reading, and whether
it stops there because the path climbs. -/
structure Reading (α : Type) where
  head : List α
  climbs : Prop

/-- The scope holds what was read, or is held by it. -/
def Reading.Accepts (reading : Reading α) (scope : List α) : Prop :=
  scope <+: reading.head ∨ ¬reading.climbs ∧ reading.head <+: scope

theorem Reading.Accepts.shortened {reading : Reading α} {scope shorter : List α}
    (accepts : reading.Accepts scope) (shortens : shorter <+: scope) : reading.Accepts shorter := by
  rcases accepts with inside | ⟨level, holds⟩
  · exact Or.inl (shortens.trans inside)
  · rcases List.prefix_or_prefix_of_prefix holds shortens with before | behind
    · exact Or.inr ⟨level, before⟩
    · exact Or.inl behind

section Checkers

variable {clean : α → Prop} {readings : List (Reading α)} {paths : List (Resolved α)}

/-- Every accepted scope is related to a resolved path exactly when this is so for the heads,
and a head that was read to a component other than a climbing one is reached by a path. -/
theorem accepts_related_iff (fresh : ∀ parts : List α, ∃ part, clean part ∧ part ∉ parts)
    (heads : ∀ reading ∈ readings, ∀ part ∈ reading.head, clean part) :
    (∀ scope : List α, (∀ part ∈ scope, clean part) →
        (∃ reading ∈ readings, reading.Accepts scope) → ∃ path ∈ paths, path.Related scope) ↔
      ∀ reading ∈ readings, ∃ path ∈ paths, path.AtOrAbove reading.head ∨
        reading.climbs ∧ path.AtOrBelow reading.head := by
  constructor
  · intro sound reading member
    by_cases climbs : reading.climbs
    · obtain ⟨path, inside, below | above⟩ := sound reading.head (heads reading member)
        ⟨reading, member, Or.inl List.prefix_rfl⟩
      · exact ⟨path, inside, Or.inr ⟨climbs, below⟩⟩
      · exact ⟨path, inside, Or.inl above⟩
    · -- a scope below the head that no resolved path enters
      obtain ⟨part, cleanPart, absent⟩ := fresh (paths.flatMap Resolved.down)
      have missing : ∀ path ∈ paths, part ∉ path.down := fun path inside listed =>
        absent (List.mem_flatMap.mpr ⟨path, inside, listed⟩)
      obtain ⟨path, inside, ⟨_, below⟩ | above⟩ := sound (reading.head ++ [part])
        (fun other listed => (List.mem_append.mp listed).elim (heads reading member other)
          fun last => List.mem_singleton.mp last ▸ cleanPart)
        ⟨reading, member, Or.inr ⟨climbs, List.prefix_append _ _⟩⟩
      · have listed := below.subset (List.mem_append_right _ (List.mem_singleton_self part))
        exact absurd listed (missing path inside)
      · refine ⟨path, inside, Or.inl ⟨?_, above.2⟩⟩
        rcases List.prefix_concat_iff.mp above.1 with whole | shorter
        · refine absurd ?_ (missing path inside)
          rw [whole]
          exact List.mem_append_right _ (List.mem_singleton_self part)
        · exact shorter
  · rintro reached scope _ ⟨reading, member, accepts⟩
    obtain ⟨path, inside, above | ⟨climbs, below⟩⟩ := reached reading member
    · refine ⟨path, inside, ?_⟩
      rcases accepts with held | ⟨_, holds⟩
      · exact Resolved.Related.shortened (Or.inr above) held
      · exact Or.inr (above.extended holds)
    · refine ⟨path, inside, ?_⟩
      rcases accepts with held | ⟨level, _⟩
      · exact Resolved.Related.shortened (Or.inl below) held
      · exact absurd climbs level

/-- Every scope that holds a resolved path is accepted exactly when the longest one is. -/
theorem below_accepts_iff [DecidablePred clean] :
    (∀ scope : List α, (∀ part ∈ scope, clean part) → ∀ path ∈ paths, path.AtOrBelow scope →
        ∃ reading ∈ readings, reading.Accepts scope) ↔
      ∀ path ∈ paths, path.up = 0 →
        ∃ reading ∈ readings, reading.Accepts (path.down.takeWhile fun part => clean part) := by
  constructor
  · intro complete path member level
    refine complete _ (fun part listed => ?_) path member ⟨level, List.takeWhile_prefix _⟩
    have kept := List.mem_takeWhile_imp listed
    exact of_decide_eq_true kept
  · rintro longest scope cleanScope path member ⟨level, below⟩
    obtain ⟨reading, inside, accepts⟩ := longest path member level
    refine ⟨reading, inside, accepts.shortened ?_⟩
    obtain ⟨rest, shape⟩ := below
    rw [← shape, List.takeWhile_append_of_pos fun part listed =>
      decide_eq_true (cleanScope part listed)]
    exact List.prefix_append _ _

end Checkers

end ZaofuFormal.Foundation.LexicalPaths
