import Mathlib.Data.List.Nodup
import ZaofuFormal.Foundation.Runs
import ZaofuFormal.Tasks.Store

/-!
# The board invariant

The active file holds no terminal task, no id twice, and no id that the
terminal index still lists.  Every operation rewrites one record in place,
retires one record, or publishes new records, and each of these three moves
keeps the board under a condition on the record that it leaves on it.

`ensure` and the contract update of an active task write whatever status they
are given without retiring the record, and no operation guards a changed id.
`Operation.Allowed` says when a call stays clear of both.
-/

namespace ZaofuFormal.Tasks

open Foundation

def TerminalStatus (status : Json) : Prop := status ∈ terminalStates.map Json.str

instance (status : Json) : Decidable (TerminalStatus status) :=
  inferInstanceAs (Decidable (_ ∈ _))

/-- The terminal index has no entry for the id; only texts are indexed. -/
def Unindexed (index : Dict String String) : Json → Prop
  | .str taskId => index.get? taskId = none
  | _ => True

instance decidableUnindexed (index : Dict String String) :
    ∀ id, Decidable (Unindexed index id)
  | .str taskId => inferInstanceAs (Decidable (index.get? taskId = none))
  | .null => .isTrue trivial
  | .bool _ => .isTrue trivial
  | .int _ => .isTrue trivial
  | .float _ _ => .isTrue trivial
  | .arr _ => .isTrue trivial
  | .obj _ => .isTrue trivial

structure Board (disk : Disk) : Prop where
  nonTerminal : ∀ record ∈ disk.active, ¬ TerminalStatus (record.get "status")
  distinct : (disk.active.map fun record => record.get "id").Nodup
  apart : ∀ record ∈ disk.active, Unindexed disk.terminalIndex (record.get "id")

/-- Neither the board nor the terminal index knows the id. -/
def Unused (disk : Disk) (id : Json) : Prop :=
  (id ∉ disk.active.map fun record => record.get "id") ∧ Unindexed disk.terminalIndex id

instance (disk : Disk) (id : Json) : Decidable (Unused disk id) :=
  inferInstanceAs (Decidable (_ ∧ _))

theorem board_empty : Board Disk.empty where
  nonTerminal := fun _ member => nomatch member
  distinct := List.nodup_nil
  apart := fun _ member => nomatch member

theorem unindexed_erase {index : Dict String String} {id : Json} (taskId : String)
    (unindexed : Unindexed index id) : Unindexed (index.erase taskId) id := by
  cases id with
  | str other =>
      change (index.erase taskId).get? other = none
      rw [Dict.get?_erase]
      split
      · rfl
      · exact unindexed
  | _ => trivial

theorem unindexed_insert {index : Dict String String} {id : Json} {taskId : String}
    (date : String) (different : id ≠ .str taskId) (unindexed : Unindexed index id) :
    Unindexed (index.insert taskId date) id := by
  cases id with
  | str other =>
      have otherId : other ≠ taskId := fun same => different (congrArg Json.str same)
      change (index.insert taskId date).get? other = none
      rw [Dict.get?_insert_ne index date otherId]
      exact unindexed
  | _ => trivial

theorem Board.forget {disk : Disk} (board : Board disk) (taskId : String) :
    Board { disk with terminalIndex := disk.terminalIndex.erase taskId } where
  nonTerminal := board.nonTerminal
  distinct := board.distinct
  apart := fun record member => unindexed_erase taskId (board.apart record member)

/-- Publish a record under an unused id. -/
theorem Board.publish {disk : Disk} (board : Board disk) {record : Record}
    (nonTerminal : ¬ TerminalStatus (record.get "status"))
    (unused : Unused disk (record.get "id")) :
    Board { disk with active := disk.active ++ [record] } := by
  constructor
  · intro other member
    rcases List.mem_append.mp member with present | added
    · exact board.nonTerminal other present
    · rw [List.mem_singleton.mp added]
      exact nonTerminal
  · rw [List.map_append, List.nodup_append]
    refine ⟨board.distinct, List.nodup_singleton _, ?_⟩
    intro id present other added same
    rw [List.map_singleton, List.mem_singleton] at added
    exact unused.1 (added ▸ same ▸ present)
  · intro other member
    rcases List.mem_append.mp member with present | added
    · exact board.apart other present
    · rw [List.mem_singleton.mp added]
      exact unused.2

section Located

variable {disk : Disk} {before after : List Record} {record : Record}

/-- Take a record off the board. -/
theorem Board.remove (board : Board disk) (located : disk.active = before ++ record :: after) :
    Board { disk with active := before ++ after } := by
  have kept : (before ++ after).Sublist disk.active := by
    rw [located]
    exact (List.sublist_cons_self record after).append_left before
  constructor
  · exact fun other member => board.nonTerminal other (kept.subset member)
  · exact board.distinct.sublist (kept.map _)
  · exact fun other member => board.apart other (kept.subset member)

theorem Board.id_unique (board : Board disk) (located : disk.active = before ++ record :: after)
    {other : Record} (member : other ∈ before ++ after) :
    other.get "id" ≠ record.get "id" := by
  intro same
  have distinct := board.distinct
  rw [located, List.map_append, List.map_cons] at distinct
  have notMember := (List.nodup_middle.mp distinct).notMem
  rw [← List.map_append] at notMember
  exact notMember (List.mem_map.mpr ⟨other, member, same⟩)

/-- Archive a record under the id that it had on the board. -/
theorem Board.retire (board : Board disk) (located : disk.active = before ++ record :: after)
    {taskId : String} (identified : record.get "id" = .str taskId)
    (date : String) (changed : Record) :
    Board (retire disk taskId date changed (before ++ after)) := by
  have removed := board.remove located
  constructor
  · exact removed.nonTerminal
  · exact removed.distinct
  · intro other member
    apply unindexed_insert date
    · rw [← identified]
      exact board.id_unique located member
    · exact removed.apart other member

/-- Rewrite a record in place, under its own id or an unused one. -/
theorem Board.rewrite (board : Board disk) (located : disk.active = before ++ record :: after)
    {changed : Record} (nonTerminal : ¬ TerminalStatus (changed.get "status"))
    (identified : changed.get "id" = record.get "id" ∨ Unused disk (changed.get "id")) :
    Board { disk with active := before ++ changed :: after } := by
  have removed := board.remove located
  have member {other : Record} : other ∈ before ++ changed :: after →
      other = changed ∨ other ∈ before ++ after := by
    simp only [List.mem_append, List.mem_cons]
    tauto
  have fresh : changed.get "id" ∉ (before ++ after).map fun other => other.get "id" := by
    intro hit
    obtain ⟨other, present, same⟩ := List.mem_map.mp hit
    rcases identified with kept | unused
    · exact board.id_unique located present (same.trans kept)
    · apply unused.1
      rw [located, ← same]
      apply List.mem_map_of_mem
      simp only [List.mem_append, List.mem_cons] at present ⊢
      tauto
  constructor
  · intro other present
    rcases member present with rfl | elsewhere
    · exact nonTerminal
    · exact removed.nonTerminal other elsewhere
  · rw [List.map_append, List.map_cons, List.nodup_middle, ← List.map_append]
    exact List.nodup_cons.mpr ⟨fresh, removed.distinct⟩
  · intro other present
    rcases member present with rfl | elsewhere
    · rcases identified with kept | unused
      · rw [kept]
        exact board.apart record (by rw [located]; exact List.mem_append_right _ List.mem_cons_self)
      · exact unused.2
    · exact removed.apart other elsewhere

end Located

end ZaofuFormal.Tasks
