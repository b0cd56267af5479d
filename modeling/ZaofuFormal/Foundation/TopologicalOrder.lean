import Mathlib.Data.Fintype.Card
import Mathlib.Data.Set.Finite.Basic
import ZaofuFormal.Foundation.GraphWalks

/-!
# Topological orders

An order that takes, at each position, the first of the nodes whose needs all stand in it
already.  When no node can be taken any more, all nodes have been taken exactly when no
node needs itself through others.
-/

namespace ZaofuFormal.Foundation.TopologicalOrder

open GraphWalks (Edge Grounded Acyclic)

variable {α : Type}

/-- Not yet in the order, and everything it needs is. -/
structure Available (nodes : List α) (needs : α → List α) (order : List α) (node : α) : Prop where
  known : node ∈ nodes
  fresh : node ∉ order
  ready : needs node ⊆ order

/-- The order takes the lowest of the available nodes at each position. -/
inductive Greedy (nodes : List α) (needs : α → List α) (rank : α → Nat) : List α → Prop
  | nil : Greedy nodes needs rank []
  | snoc {order : List α} {node : α} (greedy : Greedy nodes needs rank order)
      (available : Available nodes needs order node)
      (lowest : ∀ other, Available nodes needs order other → rank node ≤ rank other) :
      Greedy nodes needs rank (order ++ [node])

section Orders

variable {nodes : List α} {needs : α → List α} {rank : α → Nat} {order : List α}

theorem Greedy.nodup (greedy : Greedy nodes needs rank order) : order.Nodup := by
  induction greedy with
  | nil => exact List.nodup_nil
  | snoc greedy available lowest ih =>
      refine List.nodup_append.mpr ⟨ih, List.nodup_singleton _, fun node member other last => ?_⟩
      rintro rfl
      rw [List.mem_singleton.mp last] at member
      exact available.fresh member

theorem Greedy.subset (greedy : Greedy nodes needs rank order) : order ⊆ nodes := by
  induction greedy with
  | nil => exact List.nil_subset _
  | snoc greedy available lowest ih =>
      refine List.append_subset.mpr ⟨ih, fun node member => ?_⟩
      rw [List.mem_singleton.mp member]
      exact available.known

theorem Greedy.length_le (greedy : Greedy nodes needs rank order) :
    order.length ≤ nodes.length :=
  (greedy.nodup.subperm greedy.subset).length_le

/-- What is taken at a position was available there, and nothing lower was. -/
theorem Greedy.at_position (greedy : Greedy nodes needs rank order) {before after : List α}
    {node : α} (shape : order = before ++ node :: after) :
    Available nodes needs before node ∧
      ∀ other, Available nodes needs before other → rank node ≤ rank other := by
  induction greedy generalizing before after with
  | nil => exact absurd shape.symm (List.append_ne_nil_of_right_ne_nil _ (List.cons_ne_nil _ _))
  | @snoc order last greedy available lowest ih =>
      rcases List.eq_nil_or_concat after with rfl | ⟨earlier, final, rfl⟩
      · obtain ⟨rfl, same⟩ := List.append_inj' shape rfl
        cases same
        exact ⟨available, lowest⟩
      · rw [List.concat_eq_append, ← List.cons_append, ← List.append_assoc] at shape
        exact ih (List.append_inj' shape rfl).1

/-- The needs of a node in the order stand in it. -/
theorem Greedy.closed (greedy : Greedy nodes needs rank order) {node : α} (member : node ∈ order) :
    needs node ⊆ order := by
  obtain ⟨before, after, rfl⟩ := List.append_of_mem member
  exact List.Subset.trans (greedy.at_position rfl).1.ready (List.subset_append_left _ _)

/-- Nothing in the order needs itself through others. -/
theorem Greedy.grounded (greedy : Greedy nodes needs rank order) :
    ∀ node ∈ order, Grounded needs node := by
  induction greedy with
  | nil => exact fun node member => absurd member List.not_mem_nil
  | snoc greedy available lowest ih =>
      intro node member
      rcases List.mem_append.mp member with earlier | last
      · exact ih node earlier
      · rw [List.mem_singleton.mp last]
        exact Acc.intro _ fun other edge => ih other (available.ready edge)

/-- Without cycles, every walk along the needs ends. -/
theorem grounded_of_acyclic (known : ∀ node other, other ∈ needs node → other ∈ nodes)
    (acyclic : Acyclic needs) {node : α} (member : node ∈ nodes) : Grounded needs node := by
  have transitive : IsTrans {node // node ∈ nodes} fun other node =>
      Relation.TransGen (Edge needs) node.1 other.1 := ⟨fun _ _ _ first second => second.trans first⟩
  have irreflexive : Std.Irrefl fun other node : {node // node ∈ nodes} =>
      Relation.TransGen (Edge needs) node.1 other.1 := ⟨fun node => acyclic node.1⟩
  have finite : Finite {node // node ∈ nodes} := (nodes : Multiset α).finite_toSet
  have accessible := (Finite.wellFounded_of_trans_of_irrefl
    fun other node : {node // node ∈ nodes} =>
      Relation.TransGen (Edge needs) node.1 other.1).apply ⟨node, member⟩
  have every : ∀ found : {node // node ∈ nodes}, Acc (fun other node : {node // node ∈ nodes} =>
      Relation.TransGen (Edge needs) node.1 other.1) found → Grounded needs found.1 := by
    intro found accessible
    induction accessible with
    | intro found _ ih =>
        exact Acc.intro _ fun other edge =>
          ih ⟨other, known found.1 other edge⟩ (Relation.TransGen.single edge)
  exact every ⟨node, member⟩ accessible

/-- When nothing is available any more, all nodes have been taken exactly when the needs have
no cycle. -/
theorem Greedy.complete_iff (greedy : Greedy nodes needs rank order)
    (exhausted : ∀ node, ¬Available nodes needs order node)
    (known : ∀ node other, other ∈ needs node → node ∈ nodes ∧ other ∈ nodes) :
    nodes ⊆ order ↔ Acyclic needs := by
  constructor
  · intro covered node cycle
    obtain ⟨other, edge, _⟩ := Relation.TransGen.head'_iff.mp cycle
    exact (greedy.grounded node (covered (known node other edge).1)).not_cycle cycle
  · intro acyclic node member
    have grounded := grounded_of_acyclic (fun node other edge => (known node other edge).2)
      acyclic member
    induction grounded with
    | intro node _ ih =>
        by_contra fresh
        refine exhausted node ⟨member, fresh, fun other edge => ?_⟩
        exact ih other edge (known node other edge).2

theorem Greedy.perm (greedy : Greedy nodes needs rank order) (distinct : nodes.Nodup)
    (covered : nodes ⊆ order) : order.Perm nodes :=
  (List.perm_ext_iff_of_nodup greedy.nodup distinct).mpr fun _ =>
    ⟨fun member => greedy.subset member, fun member => covered member⟩

end Orders

end ZaofuFormal.Foundation.TopologicalOrder
