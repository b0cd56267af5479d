import ZaofuFormal.Foundation.GraphWalks

/-!
# Walks along chosen edges

From every node at most one edge is chosen, and the choice can fail.  The walk follows the
chosen edges until it reaches its target; a node without a choice and a node that was seen
before end it without a result.  A walk with a result is a chain of chosen edges to the
target on which no node stands twice.
-/

namespace ZaofuFormal.Foundation.ChosenWalks

variable {α β ε : Type}

/-- Every step of the list leads from the node before it over its label. -/
def IsChain (link : α → β → α → Prop) : α → List (β × α) → Prop
  | _, [] => True
  | node, (label, other) :: rest => link node label other ∧ IsChain link other rest

/-- The nodes of a chain. -/
def visited (start : α) (steps : List (β × α)) : List α := start :: steps.map Prod.snd

def finish : α → List (β × α) → α
  | node, [] => node
  | _, (_, other) :: rest => finish other rest

theorem IsChain.mono {link other : α → β → α → Prop} {start : α} {steps : List (β × α)}
    (chain : IsChain link start steps)
    (weaker : ∀ node label next, link node label next → other node label next) :
    IsChain other start steps := by
  induction steps generalizing start with
  | nil => trivial
  | cons step rest ih => exact ⟨weaker _ _ _ chain.1, ih chain.2⟩

section Reaches

variable (choose : α → Except ε (Option (α × β))) (target : α)

/-- The steps lead over chosen edges to the target and come to no node that was seen. -/
structure Reaches (seen : List α) (node : α) (steps : List (β × α)) : Prop where
  chain : IsChain (fun node label other => choose node = .ok (some (other, label))) node steps
  finish : finish node steps = target
  distinct : (visited node steps).Nodup
  fresh : ∀ head ∈ visited node steps, head ∈ seen → head = target

variable {choose target}

theorem Reaches.cons {seen : List α} {node other : α} {label : β} {rest : List (β × α)}
    (reaches : Reaches choose target (node :: seen) other rest) (short : node ≠ target)
    (unseen : node ∉ seen) (chosen : choose node = .ok (some (other, label))) :
    Reaches choose target seen node ((label, other) :: rest) where
  chain := ⟨chosen, reaches.chain⟩
  finish := reaches.finish
  distinct := List.nodup_cons.mpr
    ⟨fun again => short (reaches.fresh node again List.mem_cons_self), reaches.distinct⟩
  fresh := by
    intro head member before
    rcases List.mem_cons.mp member with rfl | later
    · exact absurd before unseen
    · exact reaches.fresh head later (List.mem_cons_of_mem node before)

end Reaches

section Walk

variable [DecidableEq α] (nodes : List α) (choose : α → Except ε (Option (α × β))) (target : α)

/-- The steps to the target; only the given nodes have edges. -/
def walk (seen : List α) (node : α) : Except ε (Option (List (β × α))) :=
  if node = target then .ok (some [])
  else if _ : node ∈ seen then .ok none
  else if _ : node ∈ nodes then
    match choose node with
    | .error error => .error error
    | .ok none => .ok none
    | .ok (some (other, label)) =>
        (walk (node :: seen) other).map fun found => found.map ((label, other) :: ·)
  else .ok none
termination_by nodes.countP fun node => decide (node ∉ seen)
decreasing_by exact GraphWalks.countP_unseen_lt (by assumption) (by assumption)

variable {nodes choose target}

theorem walk_reaches {seen : List α} {node : α} {steps : List (β × α)}
    (walked : walk nodes choose target seen node = .ok (some steps)) :
    Reaches choose target seen node steps := by
  induction seen, node using walk.induct nodes choose target generalizing steps with
  | case1 seen =>
      rw [walk, if_pos rfl] at walked
      cases walked
      exact ⟨trivial, rfl, List.nodup_singleton _, fun _ member _ => List.mem_singleton.mp member⟩
  | case2 seen node short before =>
      rw [walk, if_neg short, dif_pos before] at walked
      cases walked
  | case3 seen node short unseen inside error failed =>
      rw [walk, if_neg short, dif_neg unseen, dif_pos inside, failed] at walked
      cases walked
  | case4 seen node short unseen inside none =>
      rw [walk, if_neg short, dif_neg unseen, dif_pos inside, none] at walked
      cases walked
  | case5 seen node short unseen inside other label chosen ih =>
      rw [walk, if_neg short, dif_neg unseen, dif_pos inside, chosen] at walked
      change Except.map _ (walk nodes choose target (node :: seen) other) = _ at walked
      cases onward : walk nodes choose target (node :: seen) other with
      | error error =>
          rw [onward] at walked
          cases walked
      | ok found =>
          rw [onward] at walked
          cases found with
          | none => cases walked
          | some rest =>
              cases walked
              exact (ih onward).cons short unseen chosen
  | case6 seen node short unseen outside =>
      rw [walk, if_neg short, dif_neg unseen, dif_neg outside] at walked
      cases walked

end Walk

end ZaofuFormal.Foundation.ChosenWalks
