import ZaofuFormal.Foundation.Digest
import ZaofuFormal.Integration.Queue

/-!
# Derived identities

The id of a queue entry and the logical key of a fanout join the components of an
identity, with the empty ones left out.  The join can be taken apart again, but not
into places: two identities whose components that are not empty are the same, in one
order and at different places, get one id or one key.
-/

namespace ZaofuFormal.Integration

open Foundation Workflow
open Fanout (LogicalScope logicalKey)

/-- Parts that are not empty and do not contain the separator. -/
def Separable (separator : Char) (parts : List String) : Prop :=
  ∀ part ∈ parts, part ≠ "" ∧ separator ∉ part.toList

theorem join_singleton (separator : Char) (part : String) :
    PyString.join separator [part] = part := by
  simp [PyString.join]

theorem separator_mem_join (separator : Char) (first next : String) (rest : List String) :
    separator ∈ (PyString.join separator (first :: next :: rest)).toList := by
  rw [PyString.join, String.toList_ofList, List.map_cons, List.map_cons,
    List.intercalate_cons_cons]
  exact List.mem_append_left _ (List.mem_append_right _ (List.mem_singleton_self separator))

theorem join_ne_empty {separator : Char} {first : String} {rest : List String}
    (separable : Separable separator (first :: rest)) :
    PyString.join separator (first :: rest) ≠ "" := by
  cases rest with
  | nil =>
      rw [join_singleton]
      exact (separable first List.mem_cons_self).1
  | cons next rest =>
      intro empty
      have inside := separator_mem_join separator first next rest
      rw [empty] at inside
      exact absurd inside List.not_mem_nil

/-- Separable parts are determined by their join. -/
theorem join_injective {separator : Char} {first second : List String}
    (separable : Separable separator first) (separableSecond : Separable separator second)
    (same : PyString.join separator first = PyString.join separator second) : first = second := by
  induction first generalizing second with
  | nil =>
      cases second with
      | nil => rfl
      | cons part rest => exact absurd same.symm (join_ne_empty separableSecond)
  | cons part rest ih =>
      have clean := (separable part List.mem_cons_self).2
      cases second with
      | nil => exact absurd same (join_ne_empty separable)
      | cons other others =>
          have cleanOther := (separableSecond other List.mem_cons_self).2
          cases rest with
          | nil =>
              cases others with
              | nil =>
                  rw [join_singleton, join_singleton] at same
                  rw [same]
              | cons next others =>
                  -- the part of one join is the other join, which has a separator
                  rw [join_singleton] at same
                  rw [same] at clean
                  exact absurd (separator_mem_join separator other next others) clean
          | cons next rest =>
              cases others with
              | nil =>
                  rw [join_singleton] at same
                  rw [← same] at cleanOther
                  exact absurd (separator_mem_join separator part next rest) cleanOther
              | cons another others =>
                  obtain ⟨heads, tails⟩ := PyString.join_cons_cons_inj clean cleanOther same
                  have later := ih (fun part member =>
                    separable part (List.mem_cons_of_mem _ member)) (fun part member =>
                      separableSecond part (List.mem_cons_of_mem _ member)) tails
                  rw [heads, later]

/-- The components that count. -/
def present (components : List String) : List String := components.filter fun part => part ≠ ""

/-- No component contains the separator. -/
def Clean (components : List String) : Prop := ∀ part ∈ components, '|' ∉ part.toList

theorem Clean.separable {components : List String} (clean : Clean components) :
    Separable '|' (present components) := by
  intro part member
  obtain ⟨inside, filled⟩ := List.mem_filter.mp member
  exact ⟨of_decide_eq_true filled, clean part inside⟩

/-- Task, fanout instance, source, base, handoff, and product document or feature. -/
def identityTuple (event : ZfEvent) : List String :=
  let payload := event.body
  let pddId := if (payload.get "pdd_id").truthy then payload.textAt "pdd_id"
    else payload.textAt "feature_id"
  [Fanout.eventTaskId event, payload.textAt "fanout_instance_id", sourceRef payload,
    payload.textAt "base_ref", payload.textAt "handoff_ref", pddId]

theorem identityParts_eq (event : ZfEvent) : identityParts event = present (identityTuple event) :=
  rfl

/-- Stage, target, task, product document and feature. -/
def scopeTuple (scope : LogicalScope) : List String :=
  [scope.stageId, scope.targetRef, scope.taskId, scope.pddId, scope.featureId]

/-- The digits of a digest that an id keeps. -/
def shortDigest (sha1 : String → String) (text : String) : List Char := (sha1 text).toList.take 12

variable {sha1 : String → String}

theorem entryId_of_parts {event : ZfEvent}
    (derived : explicitEntryId event.body = "") (filled : identityParts event ≠ []) :
    entryIdForEvent sha1 event = "iq-" ++
      String.ofList (shortDigest sha1 (PyString.join '|' (identityParts event))) := by
  rw [entryIdForEvent, if_neg (not_not_intro derived), if_neg filled, shortDigest]

theorem entryId_of_nothing {event : ZfEvent}
    (derived : explicitEntryId event.body = "") (empty : identityParts event = []) :
    entryIdForEvent sha1 event = "" := by
  rw [entryIdForEvent, if_neg (not_not_intro derived), if_pos empty]

theorem entryId_ne_empty {event : ZfEvent}
    (derived : explicitEntryId event.body = "") (filled : identityParts event ≠ []) :
    entryIdForEvent sha1 event ≠ "" := by
  rw [entryId_of_parts derived filled]
  intro empty
  have chars := congrArg String.toList empty
  rw [String.toList_append] at chars
  exact absurd (List.append_eq_nil_iff.mp chars).1 (by decide)

/-- Two derived entry ids are one exactly where the components that are not empty are the
same in one order. -/
theorem entryId_eq_iff {first second : ZfEvent}
    (derived : explicitEntryId first.body = "") (derivedSecond : explicitEntryId second.body = "")
    (clean : Clean (identityTuple first)) (cleanSecond : Clean (identityTuple second))
    (apart : shortDigest sha1 (PyString.join '|' (identityParts first)) =
        shortDigest sha1 (PyString.join '|' (identityParts second)) →
      PyString.join '|' (identityParts first) = PyString.join '|' (identityParts second)) :
    entryIdForEvent sha1 first = entryIdForEvent sha1 second ↔
      present (identityTuple first) = present (identityTuple second) := by
  rw [← identityParts_eq, ← identityParts_eq]
  constructor
  · intro same
    by_cases empty : identityParts first = []
    · by_cases emptySecond : identityParts second = []
      · rw [empty, emptySecond]
      · rw [entryId_of_nothing derived empty] at same
        exact absurd same.symm (entryId_ne_empty derivedSecond emptySecond)
    · by_cases emptySecond : identityParts second = []
      · rw [entryId_of_nothing derivedSecond emptySecond] at same
        exact absurd same (entryId_ne_empty derived empty)
      · rw [entryId_of_parts derived empty, entryId_of_parts derivedSecond emptySecond] at same
        have chars := congrArg String.toList same
        rw [String.toList_append, String.toList_append] at chars
        have digests := String.ofList_injective (String.toList_injective
          (List.append_cancel_left chars))
        exact join_injective clean.separable cleanSecond.separable (apart digests)
  · intro same
    rw [entryIdForEvent, entryIdForEvent, derived, derivedSecond, same]

/-- The key of an identity without components, and that of the one component `global`. -/
def BothGlobal (first second : List String) : Prop :=
  first = [] ∧ second = ["global"] ∨ first = ["global"] ∧ second = []

instance (first second : List String) : Decidable (BothGlobal first second) :=
  inferInstanceAs (Decidable (_ ∨ _))

theorem logicalKey_eq (scope : LogicalScope) :
    logicalKey scope = if present (scopeTuple scope) = [] then "global"
      else PyString.join '|' (present (scopeTuple scope)) := rfl

theorem join_eq_global_iff {parts : List String} (separable : Separable '|' parts) :
    PyString.join '|' parts = "global" ↔ parts = ["global"] := by
  have alone : Separable '|' ["global"] := by
    intro part member
    rw [List.mem_singleton.mp member]
    decide
  constructor
  · intro same
    exact join_injective separable alone (same.trans (join_singleton '|' "global").symm)
  · intro shape
    rw [shape, join_singleton]

/-- Two logical keys are one exactly where the components that are not empty are the same
in one order, or there is none on one side and the default key on the other. -/
theorem logicalKey_eq_iff {first second : LogicalScope} (clean : Clean (scopeTuple first))
    (cleanSecond : Clean (scopeTuple second)) :
    logicalKey first = logicalKey second ↔
      present (scopeTuple first) = present (scopeTuple second) ∨
        BothGlobal (present (scopeTuple first)) (present (scopeTuple second)) := by
  rw [logicalKey_eq, logicalKey_eq]
  have separable := clean.separable
  have separableSecond := cleanSecond.separable
  generalize present (scopeTuple first) = parts at separable ⊢
  generalize present (scopeTuple second) = others at separableSecond ⊢
  by_cases empty : parts = []
  · by_cases emptySecond : others = []
    · rw [empty, emptySecond]
      exact iff_of_true rfl (Or.inl rfl)
    · rw [if_pos empty, if_neg emptySecond, eq_comm, join_eq_global_iff separableSecond]
      constructor
      · exact fun shape => Or.inr (Or.inl ⟨empty, shape⟩)
      · rintro (same | ⟨_, shape⟩ | ⟨_, nothing⟩)
        · exact absurd (same.symm.trans empty) emptySecond
        · exact shape
        · exact absurd nothing emptySecond
  · by_cases emptySecond : others = []
    · rw [if_neg empty, if_pos emptySecond, join_eq_global_iff separable]
      constructor
      · exact fun shape => Or.inr (Or.inr ⟨shape, emptySecond⟩)
      · rintro (same | ⟨nothing, _⟩ | ⟨shape, _⟩)
        · exact absurd (same.trans emptySecond) empty
        · exact absurd nothing empty
        · exact shape
    · rw [if_neg empty, if_neg emptySecond]
      constructor
      · exact fun same => Or.inl (join_injective separable separableSecond same)
      · rintro (same | ⟨nothing, _⟩ | ⟨_, nothing⟩)
        · rw [same]
        · exact absurd nothing empty
        · exact absurd nothing emptySecond

/-- Different identities get different entry ids, and different logical keys, exactly where
they differ in the sequence of their components that are not empty; a logical key has the
default of an empty identity besides. -/
theorem derived_identities_differ_iff {sha1 : String → String} {first second : ZfEvent}
    (derived : explicitEntryId first.body = "") (derivedSecond : explicitEntryId second.body = "")
    (clean : Clean (identityTuple first)) (cleanSecond : Clean (identityTuple second))
    (apart : shortDigest sha1 (PyString.join '|' (identityParts first)) =
        shortDigest sha1 (PyString.join '|' (identityParts second)) →
      PyString.join '|' (identityParts first) = PyString.join '|' (identityParts second))
    {scope other : LogicalScope} (cleanScope : Clean (scopeTuple scope))
    (cleanOther : Clean (scopeTuple other)) :
    (entryIdForEvent sha1 first ≠ entryIdForEvent sha1 second ↔
        present (identityTuple first) ≠ present (identityTuple second)) ∧
      (logicalKey scope ≠ logicalKey other ↔
        present (scopeTuple scope) ≠ present (scopeTuple other) ∧
          ¬BothGlobal (present (scopeTuple scope)) (present (scopeTuple other))) := by
  constructor
  · exact not_congr (entryId_eq_iff derived derivedSecond clean cleanSecond apart)
  · exact (not_congr (logicalKey_eq_iff cleanScope cleanOther)).trans not_or

def handoffEvent (task fanout source : String) : ZfEvent where
  type := "task.integration_enqueued"
  id := "evt-1"
  ts := "2026-07-03T10:00:00+00:00"
  taskId := optional task
  payload := .obj [("fanout_instance_id", .str fanout), ("source_ref", .str source)]

def handoffSha1 : String → String :=
  Digest.tableDigest
    [("T1|fan-1|refs/heads/a", "245772e6ab26705173cead9e57bce6a38911b6f8"),
      ("T1|fan-1|refs/heads/b", "9d436f0fd6bf5931764be0b0e70a5712bab5b7e0")]

/-- Two branches of one task get two entries, and two tasks of one stage get two keys. -/
theorem branches_differ :
    entryIdForEvent handoffSha1 (handoffEvent "T1" "fan-1" "refs/heads/a") = "iq-245772e6ab26" ∧
      entryIdForEvent handoffSha1 (handoffEvent "T1" "fan-1" "refs/heads/a") ≠
        entryIdForEvent handoffSha1 (handoffEvent "T1" "fan-1" "refs/heads/b") ∧
      logicalKey ⟨"build", "", "T1", "F1", ""⟩ ≠ logicalKey ⟨"build", "", "T2", "F1", ""⟩ := by
  have cleanFirst : Clean (identityTuple (handoffEvent "T1" "fan-1" "refs/heads/a")) :=
    Lists.forall_mem_of_all (by decide)
  have cleanSecond : Clean (identityTuple (handoffEvent "T1" "fan-1" "refs/heads/b")) :=
    Lists.forall_mem_of_all (by decide)
  have cleanScope : Clean (scopeTuple ⟨"build", "", "T1", "F1", ""⟩) :=
    Lists.forall_mem_of_all (by decide)
  have cleanOther : Clean (scopeTuple ⟨"build", "", "T2", "F1", ""⟩) :=
    Lists.forall_mem_of_all (by decide)
  have differ := @derived_identities_differ_iff handoffSha1 _ _ (by decide) (by decide)
    cleanFirst cleanSecond (fun same => absurd same (by decide +kernel)) _ _ cleanScope cleanOther
  exact ⟨by decide +kernel, differ.1.mpr (by decide), differ.2.mpr (by decide)⟩

/-- A task and a fanout instance of one name, and a stage and a target of one name. -/
theorem shifted_component :
    ¬ (∀ sha1 first second, explicitEntryId first.body = "" → explicitEntryId second.body = "" →
        Clean (identityTuple first) → Clean (identityTuple second) →
        (shortDigest sha1 (PyString.join '|' (identityParts first)) =
            shortDigest sha1 (PyString.join '|' (identityParts second)) →
          PyString.join '|' (identityParts first) = PyString.join '|' (identityParts second)) →
        identityTuple first ≠ identityTuple second →
          entryIdForEvent sha1 first ≠ entryIdForEvent sha1 second) ∧
      ¬ (∀ first second, Clean (scopeTuple first) → Clean (scopeTuple second) →
        scopeTuple first ≠ scopeTuple second → logicalKey first ≠ logicalKey second) := by
  have parts : identityParts (handoffEvent "a" "" "") = identityParts (handoffEvent "" "a" "") := by
    decide
  constructor
  · intro every
    refine every handoffSha1 (handoffEvent "a" "" "") (handoffEvent "" "a" "") (by decide)
      (by decide) ?_ ?_ (fun _ => by rw [parts]) (by decide) ?_
    · exact Lists.forall_mem_of_all (by decide)
    · exact Lists.forall_mem_of_all (by decide)
    · have explicit : explicitEntryId (handoffEvent "a" "" "").body = "" ∧
          explicitEntryId (handoffEvent "" "a" "").body = "" := by decide
      rw [entryIdForEvent, entryIdForEvent, explicit.1, explicit.2, parts]
  · intro every
    refine every ⟨"build", "", "", "", ""⟩ ⟨"", "build", "", "", ""⟩ ?_ ?_ (by decide) ?_
    · exact Lists.forall_mem_of_all (by decide)
    · exact Lists.forall_mem_of_all (by decide)
    · decide

end ZaofuFormal.Integration
