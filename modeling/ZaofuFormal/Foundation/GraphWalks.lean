import Mathlib.Data.List.Nodup
import Mathlib.Data.List.Perm.Subperm
import Mathlib.Logic.Relation
import ZaofuFormal.Foundation.Lists

/-!
# Walks over a finite graph

A coloured depth-first walk reports a cycle when it comes back to an open node.
It ends without a report exactly when the graph has no cycle.  A chain of links
is followed until it stops or comes back to a node it has seen.
-/

namespace ZaofuFormal.Foundation.GraphWalks

variable {α : Type}

def Edge (next : α → List α) (node other : α) : Prop := other ∈ next node

/-- Every walk along the edges from the node ends. -/
def Grounded (next : α → List α) (node : α) : Prop :=
  Acc (fun other node => Edge next node other) node

def Acyclic (next : α → List α) : Prop := ∀ node, ¬Relation.TransGen (Edge next) node node

theorem Grounded.not_cycle {next : α → List α} {node : α} (grounded : Grounded next node) :
    ¬Relation.TransGen (Edge next) node node := by
  have accessible := Acc.transGen grounded
  induction accessible with
  | intro node _ ih =>
      intro cycle
      have swapped : Relation.TransGen (fun other node => Edge next node other) node node :=
        Relation.transGen_swap.mp cycle
      exact ih node swapped grounded cycle

/-- The open nodes, the innermost first, and the finished ones. -/
structure Colours (α : Type) where
  visiting : List α
  visited : List α

inductive WalkError (α : Type) where
  | cycle (node : α)
  | fuel
  deriving DecidableEq

/-- The finished nodes are grounded. -/
def Explored (next : α → List α) (colours : Colours α) : Prop :=
  ∀ node ∈ colours.visited, Grounded next node

/-- A part of the walk keeps the open nodes and the finished ones. -/
structure Advances (next : α → List α) (before after : Colours α) : Prop where
  visiting : after.visiting = before.visiting
  visited : before.visited ⊆ after.visited
  explored : Explored next before → Explored next after

theorem Advances.refl {next : α → List α} (colours : Colours α) : Advances next colours colours :=
  ⟨rfl, List.Subset.refl _, id⟩

theorem Advances.trans {next : α → List α} {first second third : Colours α}
    (start : Advances next first second) (rest : Advances next second third) :
    Advances next first third :=
  ⟨rest.visiting.trans start.visiting, List.Subset.trans start.visited rest.visited,
    fun explored => rest.explored (start.explored explored)⟩

/-- A run of steps that each advance and finish their node does so for all its nodes. -/
theorem foldlM_advances {next : α → List α}
    {step : Colours α → α → Except (WalkError α) (Colours α)}
    (advances : ∀ before node after, step before node = .ok after →
      Advances next before after ∧ node ∈ after.visited)
    {nodes : List α} {before after : Colours α} (walked : nodes.foldlM step before = .ok after) :
    Advances next before after ∧ ∀ node ∈ nodes, node ∈ after.visited := by
  induction nodes generalizing before with
  | nil =>
      cases walked
      exact ⟨Advances.refl _, nofun⟩
  | cons node rest ih =>
      rw [List.foldlM_cons] at walked
      cases stepped : step before node with
      | error error =>
          rw [stepped] at walked
          cases walked
      | ok middle =>
          rw [stepped] at walked
          obtain ⟨first, finished⟩ := advances before node middle stepped
          obtain ⟨second, others⟩ := ih walked
          refine ⟨first.trans second, ?_⟩
          exact List.forall_mem_cons.mpr ⟨second.visited finished, others⟩

/-- The open nodes of a walk are distinct nodes of the graph, and each leads to
the node that is visited next. -/
structure Trail (next : α → List α) (nodes visiting : List α) (node : α) : Prop where
  distinct : visiting.Nodup
  inside : visiting ⊆ nodes
  member : node ∈ nodes
  leads : ∀ opened ∈ visiting, Relation.TransGen (Edge next) opened node

theorem Trail.length_le {next : α → List α} {nodes visiting : List α} {node : α}
    (trail : Trail next nodes visiting node) : visiting.length ≤ nodes.length :=
  (List.subperm_of_subset trail.distinct trail.inside).length_le

theorem Trail.cons {next : α → List α} {nodes visiting : List α} {node other : α}
    (trail : Trail next nodes visiting node) (fresh : node ∉ visiting)
    (closed : ∀ node ∈ nodes, next node ⊆ nodes) (edge : other ∈ next node) :
    Trail next nodes (node :: visiting) other where
  distinct := List.nodup_cons.mpr ⟨fresh, trail.distinct⟩
  inside := List.cons_subset.mpr ⟨trail.member, trail.inside⟩
  member := closed node trail.member edge
  leads := by
    refine List.forall_mem_cons.mpr ⟨Relation.TransGen.single edge, fun opened member => ?_⟩
    exact (trail.leads opened member).tail edge

section Visits

variable [DecidableEq α] (next : α → List α)

def visit : Nat → Colours α → α → Except (WalkError α) (Colours α)
  | 0, _, _ => .error .fuel
  | fuel + 1, colours, node =>
      if node ∈ colours.visited then .ok colours
      else if node ∈ colours.visiting then .error (.cycle node)
      else
        ((next node).foldlM (visit fuel)
            { colours with visiting := node :: colours.visiting }).map fun walked =>
          { visiting := walked.visiting.erase node, visited := node :: walked.visited }

variable {next}

theorem visit_advances {fuel : Nat} {before after : Colours α} {node : α}
    (visited : visit next fuel before node = .ok after) :
    Advances next before after ∧ node ∈ after.visited := by
  induction fuel generalizing before after node with
  | zero => cases visited
  | succ fuel ih =>
      rw [visit] at visited
      split at visited
      · rename_i finished
        cases visited
        exact ⟨Advances.refl _, finished⟩
      split at visited
      · cases visited
      cases walked : (next node).foldlM (visit next fuel)
          { before with visiting := node :: before.visiting } with
      | error error =>
          rw [walked] at visited
          cases visited
      | ok reached =>
          rw [walked] at visited
          cases visited
          obtain ⟨advances, finished⟩ :=
            foldlM_advances (fun _ _ _ visited => ih visited) walked
          refine ⟨⟨?_, ?_, ?_⟩, List.mem_cons_self⟩
          · change reached.visiting.erase node = before.visiting
            rw [advances.visiting, List.erase_cons_head]
          · exact List.Subset.trans advances.visited (List.subset_cons_self _ _)
          · intro explored
            have grounded := advances.explored explored
            refine List.forall_mem_cons.mpr ⟨?_, grounded⟩
            exact Acc.intro node fun other edge => grounded other (finished other edge)

/-- A failed run fails at one of its nodes, from colours with the same open nodes. -/
theorem foldlM_fails {fuel : Nat} {nodes : List α} {before : Colours α} {error : WalkError α}
    (failed : nodes.foldlM (visit next fuel) before = .error error) :
    ∃ node ∈ nodes, ∃ middle : Colours α, middle.visiting = before.visiting ∧
      visit next fuel middle node = .error error := by
  induction nodes generalizing before with
  | nil => cases failed
  | cons node rest ih =>
      rw [List.foldlM_cons] at failed
      cases visited : visit next fuel before node with
      | error other =>
          rw [visited] at failed
          cases failed
          exact ⟨node, List.mem_cons_self, before, rfl, visited⟩
      | ok middle =>
          rw [visited] at failed
          obtain ⟨other, member, reached, same, fails⟩ := ih failed
          refine ⟨other, List.mem_cons_of_mem _ member, reached, ?_, fails⟩
          exact same.trans (visit_advances visited).1.visiting

/-- With fuel for every node, a failed visit has found a cycle. -/
theorem cycle_of_visit {nodes : List α} (closed : ∀ node ∈ nodes, next node ⊆ nodes) {fuel : Nat}
    {colours : Colours α} {node : α} {error : WalkError α}
    (trail : Trail next nodes colours.visiting node)
    (enough : nodes.length < fuel + colours.visiting.length)
    (failed : visit next fuel colours node = .error error) :
    ∃ looped, error = .cycle looped ∧ Relation.TransGen (Edge next) looped looped := by
  induction fuel generalizing colours node with
  | zero =>
      have short := trail.length_le
      omega
  | succ fuel ih =>
      rw [visit] at failed
      split at failed
      · cases failed
      split at failed
      · rename_i opened
        cases failed
        exact ⟨node, rfl, trail.leads node opened⟩
      rename_i fresh
      cases walked : (next node).foldlM (visit next fuel)
          { colours with visiting := node :: colours.visiting } with
      | ok reached =>
          rw [walked] at failed
          cases failed
      | error other =>
          rw [walked] at failed
          cases failed
          obtain ⟨later, edge, middle, same, fails⟩ := foldlM_fails walked
          have onward : Trail next nodes middle.visiting later := by
            rw [same]
            exact trail.cons fresh closed edge
          refine ih onward ?_ fails
          rw [same, List.length_cons]
          omega

section Walk

variable {roots nodes : List α} {fuel : Nat} (closed : ∀ node ∈ nodes, next node ⊆ nodes)
  (inside : roots ⊆ nodes) (enough : nodes.length < fuel)

include closed inside enough

theorem cycle_of_walk {error : WalkError α}
    (failed : roots.foldlM (visit next fuel) ⟨[], []⟩ = .error error) :
    ∃ looped, error = .cycle looped ∧ Relation.TransGen (Edge next) looped looped := by
  obtain ⟨node, member, middle, same, fails⟩ := foldlM_fails failed
  have empty : middle.visiting = [] := same
  have trail : Trail next nodes middle.visiting node := by
    rw [empty]
    exact ⟨List.nodup_nil, List.nil_subset _, inside member, nofun⟩
  exact cycle_of_visit closed trail (by omega) fails

/-- A walk from roots that have all edges passes exactly on a graph without cycles. -/
theorem walk_ok_iff (cover : ∀ node other, Edge next node other → node ∈ roots) :
    (∃ colours, roots.foldlM (visit next fuel) ⟨[], []⟩ = .ok colours) ↔ Acyclic next := by
  constructor
  · rintro ⟨colours, walked⟩ node cycle
    obtain ⟨advances, finished⟩ :=
      foldlM_advances (fun _ _ _ visited => visit_advances visited) walked
    have grounded : Grounded next node := by
      obtain ⟨other, edge, _⟩ := Relation.TransGen.head'_iff.mp cycle
      exact advances.explored nofun node (finished node (cover node other edge))
    exact grounded.not_cycle cycle
  · intro acyclic
    cases walked : roots.foldlM (visit next fuel) ⟨[], []⟩ with
    | ok colours => exact ⟨colours, rfl⟩
    | error error =>
        obtain ⟨looped, _, cycle⟩ := cycle_of_walk closed inside enough walked
        exact absurd cycle (acyclic looped)

end Walk

end Visits

/-- What a node says: the end of the chain with its verdict, or the node it points to. -/
inductive Link (α : Type) where
  | stop (settled : Bool)
  | follow (next : α)
  deriving DecidableEq

/-- One link of a chain inside the graph. -/
def Follows (nodes : List α) (link : α → Link α) (node other : α) : Prop :=
  node ∈ nodes ∧ link node = .follow other

/-- The chain from the node ends at a settled one. -/
def Settles (nodes : List α) (link : α → Link α) (node : α) : Prop :=
  ∃ last, Relation.ReflTransGen (Follows nodes link) node last ∧ last ∈ nodes ∧
    link last = .stop true

/-- A chain that ends has no way back to any of its nodes. -/
theorem Settles.not_cycle {nodes : List α} {link : α → Link α} {node : α}
    (settles : Settles nodes link node) :
    ¬Relation.TransGen (Follows nodes link) node node := by
  obtain ⟨last, chain, _, stops⟩ := settles
  induction chain using Relation.ReflTransGen.head_induction_on with
  | refl =>
      intro cycle
      obtain ⟨other, ⟨_, follows⟩, _⟩ := Relation.TransGen.head'_iff.mp cycle
      rw [stops] at follows
      cases follows
  | head step _ ih =>
      rename_i node other
      intro cycle
      obtain ⟨again, second, back⟩ := Relation.TransGen.head'_iff.mp cycle
      cases step.2.symm.trans second.2
      exact ih (Relation.TransGen.tail' back step)

section Chains

variable [DecidableEq α] (nodes : List α) (link : α → Link α)

theorem countP_unseen_lt {nodes seen : List α} {node : α} (fresh : node ∉ seen)
    (member : node ∈ nodes) :
    nodes.countP (fun other => decide (other ∉ node :: seen)) <
      nodes.countP fun other => decide (other ∉ seen) := by
  refine Lists.countP_lt (fun other _ unseen => ?_) member (decide_eq_true fresh) (by simp)
  exact decide_eq_true fun before =>
    of_decide_eq_true unseen (List.mem_cons_of_mem _ before)

/-- Follow the chain; a node that was seen, or that is none of the graph, does not settle it. -/
def follow (seen : List α) (node : α) : Bool :=
  if _ : node ∈ seen then false
  else if _ : node ∈ nodes then
    match link node with
    | .stop settled => settled
    | .follow next => follow (node :: seen) next
  else false
termination_by nodes.countP fun node => decide (node ∉ seen)
decreasing_by exact countP_unseen_lt (by assumption) (by assumption)

variable {nodes link}

/-- Following the chain decides whether it ends at a settled node. -/
theorem follow_iff {seen : List α} {node : α}
    (leads : ∀ earlier ∈ seen, Relation.TransGen (Follows nodes link) earlier node) :
    follow nodes link seen node = true ↔ Settles nodes link node := by
  induction seen, node using follow.induct nodes link with
  | case1 seen node opened =>
      rw [follow, dif_pos opened]
      exact iff_of_false nofun fun settles => settles.not_cycle (leads node opened)
  | case2 seen node fresh member settled stops =>
      rw [follow, dif_neg fresh, dif_pos member, stops]
      constructor
      · intro passed
        exact ⟨node, Relation.ReflTransGen.refl, member, stops.trans (congrArg _ passed)⟩
      · rintro ⟨last, chain, _, ends⟩
        rcases Relation.ReflTransGen.cases_head chain with rfl | ⟨other, step, _⟩
        · exact Link.stop.inj (stops.symm.trans ends)
        · cases stops.symm.trans step.2
  | case3 seen node fresh member next points ih =>
      rw [follow, dif_neg fresh, dif_pos member, points]
      have step : Follows nodes link node next := ⟨member, points⟩
      have onward : ∀ earlier ∈ node :: seen,
          Relation.TransGen (Follows nodes link) earlier next :=
        List.forall_mem_cons.mpr ⟨Relation.TransGen.single step,
          fun earlier seenBefore => (leads earlier seenBefore).tail step⟩
      refine (ih onward).trans ⟨?_, ?_⟩
      · rintro ⟨last, chain, inside, stops⟩
        exact ⟨last, chain.head step, inside, stops⟩
      · rintro ⟨last, chain, inside, stops⟩
        rcases Relation.ReflTransGen.cases_head chain with rfl | ⟨other, first, rest⟩
        · cases points.symm.trans stops
        · cases points.symm.trans first.2
          exact ⟨last, rest, inside, stops⟩
  | case4 seen node fresh outside =>
      rw [follow, dif_neg fresh, dif_neg outside]
      refine iff_of_false nofun ?_
      rintro ⟨last, chain, inside, _⟩
      rcases Relation.ReflTransGen.cases_head chain with rfl | ⟨other, step, _⟩
      · exact outside inside
      · exact outside step.1

end Chains

end ZaofuFormal.Foundation.GraphWalks
