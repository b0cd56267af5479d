import Mathlib.Data.List.Nodup
import Mathlib.Data.List.Perm.Subperm
import Mathlib.Logic.Relation

/-!
# Lineages

Every node has at most one parent.  The walk to the ancestors ends at a node without a parent
and at a node that it saw before; whatever the parent relation is, cyclic ones included, it
sees exactly the node and its ancestors.
-/

namespace ZaofuFormal.Foundation.Lineages

variable {α : Type} (parent : α → Option α)

/-- One step to the parent. -/
def Child (node other : α) : Prop := parent node = some other

/-- The nodes that the walk sees, in order; the bound counts the steps. -/
def lineage [DecidableEq α] : Nat → List α → α → List α
  | 0, seen, _ => seen
  | fuel + 1, seen, node =>
      if node ∈ seen then seen
      else
        match parent node with
        | none => seen ++ [node]
        | some other => lineage fuel (seen ++ [node]) other

variable {parent} [DecidableEq α]

theorem mem_lineage_of_seen {fuel : Nat} {seen : List α} {node other : α} (member : other ∈ seen) :
    other ∈ lineage parent fuel seen node := by
  induction fuel generalizing seen node with
  | zero => exact member
  | succ fuel ih =>
      rw [lineage]
      split
      · exact member
      · split
        · exact List.mem_append_left _ member
        · exact ih (List.mem_append_left _ member)

/-- What the walk sees is an ancestor of the node or was seen before. -/
theorem reaches_of_mem_lineage {fuel : Nat} {seen : List α} {node other : α}
    (member : other ∈ lineage parent fuel seen node) :
    other ∈ seen ∨ Relation.ReflTransGen (Child parent) node other := by
  induction fuel generalizing seen node with
  | zero => exact .inl member
  | succ fuel ih =>
      rw [lineage] at member
      split at member
      · exact .inl member
      · split at member
        · rcases List.mem_append.mp member with before | here
          · exact .inl before
          · exact .inr (List.mem_singleton.mp here ▸ .refl)
        · rename_i next step
          rcases ih member with before | onward
          · rcases List.mem_append.mp before with before | here
            · exact .inl before
            · exact .inr (List.mem_singleton.mp here ▸ .refl)
          · exact .inr (.head step onward)

/-- The parents of the seen nodes are seen, but for the parent that the walk stands at. -/
def Closed (parent : α → Option α) (seen : List α) (node : α) : Prop :=
  ∀ child ∈ seen, ∀ other, parent child = some other → other ∈ seen ∨ other = node

/-- The walk ends with its node and all parents seen, when the bound exceeds the number of
nodes that have a parent. -/
theorem lineage_closed {nodes : List α} (cover : ∀ node other, parent node = some other →
    node ∈ nodes) {fuel : Nat} {seen : List α} {node : α} (distinct : seen.Nodup)
    (inside : seen ⊆ nodes) (closed : Closed parent seen node)
    (enough : nodes.length < fuel + seen.length) :
    node ∈ lineage parent fuel seen node ∧
      ∀ child ∈ lineage parent fuel seen node, ∀ other, parent child = some other →
        other ∈ lineage parent fuel seen node := by
  induction fuel generalizing seen node with
  | zero =>
      have short := (List.subperm_of_subset distinct inside).length_le
      omega
  | succ fuel ih =>
      rw [lineage]
      split
      · rename_i again
        refine ⟨again, fun child member other step => ?_⟩
        rcases closed child member other step with before | rfl
        · exact before
        · exact again
      · rename_i fresh
        cases step : parent node with
        | none =>
            refine ⟨List.mem_append_right _ (List.mem_singleton_self _),
              fun child member other stepped => ?_⟩
            rcases List.mem_append.mp member with before | here
            · rcases closed child before other stepped with earlier | rfl
              · exact List.mem_append_left _ earlier
              · exact List.mem_append_right _ (List.mem_singleton_self _)
            · rw [List.mem_singleton.mp here, step] at stepped
              cases stepped
        | some next =>
            have onward := @ih (seen ++ [node]) next
              (List.nodup_append.mpr ⟨distinct, List.nodup_singleton _, by
                rintro first before second here rfl
                exact fresh (List.mem_singleton.mp here ▸ before)⟩)
              (List.append_subset.mpr ⟨inside, fun other here =>
                List.mem_singleton.mp here ▸ cover node next step⟩)
              (by
                intro child member other stepped
                rcases List.mem_append.mp member with before | here
                · rcases closed child before other stepped with earlier | rfl
                  · exact .inl (List.mem_append_left _ earlier)
                  · exact .inl (List.mem_append_right _ (List.mem_singleton_self _))
                · rw [List.mem_singleton.mp here, step] at stepped
                  exact .inr (Option.some.inj stepped).symm)
              (by
                rw [List.length_append, List.length_singleton]
                omega)
            exact ⟨mem_lineage_of_seen (List.mem_append_right _ (List.mem_singleton_self _)),
              onward.2⟩

/-- The walk sees the node and its ancestors, and nothing else. -/
theorem mem_lineage_iff {nodes : List α} (cover : ∀ node other, parent node = some other →
    node ∈ nodes) {fuel : Nat} (enough : nodes.length < fuel) {node other : α} :
    other ∈ lineage parent fuel [] node ↔ Relation.ReflTransGen (Child parent) node other := by
  have whole := @lineage_closed α parent _ nodes cover fuel [] node List.nodup_nil
    (List.nil_subset _) (fun _ impossible => nomatch impossible) (by simpa using enough)
  constructor
  · intro member
    exact (reaches_of_mem_lineage member).resolve_left List.not_mem_nil
  · intro reaches
    induction reaches with
    | refl => exact whole.1
    | tail _ step ih => exact whole.2 _ ih _ step

end ZaofuFormal.Foundation.Lineages
