import ZaofuFormal.Foundation.JsonOrder
import ZaofuFormal.Foundation.TopologicalOrder
import ZaofuFormal.TaskMap.Validation

/-!
# The stable order of a task map

The tasks are ordered by counting down, for every task, the dependencies that have not
been emitted; the ready tasks wait in the order of the input.  The dependencies of a task
are the known ids in its `blocked_by`.
-/

namespace ZaofuFormal.TaskMap

open Foundation
open GraphWalks (Edge Acyclic)
open TopologicalOrder (Available Greedy)

/-- The texts of a list, or of one value, trimmed; each one once. -/
def strings (value : Json) : List String :=
  let raw := match value with
    | .arr items => items
    | other => if other.truthy then [other] else []
  ((raw.map fun item => PyString.strip item.pyStr).filter fun text => text ≠ "").eraseDups

/-- The tasks that are objects; there are none when the tasks cannot be iterated. -/
def taskItems (taskMap : Json) : Option (List Json) :=
  match Dict.find "tasks" taskMap.fields with
  | none => some []
  | some (.arr items) => some (items.filter Json.isObject)
  | some (.str _) => some []
  | some (.obj _) => some []
  | some _ => none

def orderedIds (items : List Json) : List String := (items.map taskId).filter fun id => id ≠ ""

def dependenciesOf (items : List Json) : Dict String (List String) :=
  Dict.ofEntries ((items.filter fun item => taskId item ≠ "").map fun item =>
    (taskId item, strings (item.get "blocked_by")))

/-- The position of an id in the input. -/
def inputIndex (ids : List String) (id : String) : Nat :=
  ((Dict.ofEntries ids.zipIdx).get? id).getD 0

/-- Is the dependency another task of the map? -/
def counts (dependencies : Dict String (List String)) (task dependency : String) : Bool :=
  dependencies.contains dependency && decide (dependency ≠ task)

def indegrees (dependencies : Dict String (List String)) : Dict String Int :=
  Dict.ofEntries (dependencies.entries.map fun entry =>
    (entry.1, ((entry.2.countP (counts dependencies entry.1) : Nat) : Int)))

/-- Note a task under each of its dependencies. -/
def noteDependents (task : String) (dependencies : List String)
    (dependents : Dict String (List String)) : Dict String (List String) :=
  dependencies.foldl (fun out dependency =>
    if out.contains dependency && decide (dependency ≠ task) then
      out.insert dependency ((out.get? dependency).getD [] ++ [task])
    else out) dependents

def dependentsOf (dependencies : Dict String (List String)) : Dict String (List String) :=
  dependencies.entries.foldl (fun out entry => noteDependents entry.1 entry.2 out)
    (Dict.ofEntries (dependencies.keys.map fun task => (task, [])))

structure OrderState where
  ready : List String
  indegree : Dict String Int
  result : List String

/-- Count a dependent down; at zero it is ready. -/
def countDown (index : String → Nat) (state : OrderState) (dependent : String) : OrderState :=
  let degree := (state.indegree.get? dependent).getD 0 - 1
  { state with
    indegree := state.indegree.insert dependent degree
    ready := if degree = 0 then Sorting.sortedBy index (state.ready ++ [dependent])
      else state.ready }

def emit (index : String → Nat) (dependents : Dict String (List String)) (state : OrderState)
    (task : String) (rest : List String) : OrderState :=
  (Sorting.sortedBy index ((dependents.get? task).getD [])).foldl (countDown index)
    { state with ready := rest, result := state.result ++ [task] }

def emitReady (index : String → Nat) (dependents : Dict String (List String)) :
    Nat → OrderState → Option OrderState
  | 0, _ => none
  | fuel + 1, state =>
      match state.ready with
      | [] => some state
      | task :: rest =>
          emitReady index dependents fuel (emit index dependents state task rest)

def selfCycleErrors (dependencies : Dict String (List String)) : List String :=
  (dependencies.entries.filter fun entry => decide (entry.1 ∈ entry.2)).map fun entry =>
    entry.1 ++ ".blocked_by contains a self-cycle"

def cycleErrors (ids result : List String) : List String :=
  let cyclic := ids.filter fun id => id ∉ result
  if cyclic = [] then [] else ["task dependency cycle: " ++ String.intercalate " -> " cyclic]

def startState (ids : List String) (dependencies : Dict String (List String)) : OrderState where
  ready := Sorting.sortedBy (inputIndex ids)
    (((indegrees dependencies).entries.filter fun entry => entry.2 = 0).map Prod.fst)
  indegree := indegrees dependencies
  result := []

/-- The order and the errors; nothing without fuel or when the tasks cannot be iterated. -/
def stableTopologicalOrder (fuel : Nat) (taskMap : Json) : Option (List String × List String) :=
  (taskItems taskMap).bind fun items =>
    let ids := orderedIds items
    let dependencies := dependenciesOf items
    (emitReady (inputIndex ids) (dependentsOf dependencies) fuel (startState ids dependencies)).map
      fun final => (final.result, selfCycleErrors dependencies ++ cycleErrors ids final.result)

/-- The known ids in the `blocked_by` of a task. -/
def blockedBy (items : List Json) (task : String) : List String :=
  (((dependenciesOf items).get? task).getD []).filter fun dependency =>
    (dependenciesOf items).contains dependency

/-- Those that are counted. -/
def needsOf (dependencies : Dict String (List String)) (task : String) : List String :=
  ((dependencies.get? task).getD []).filter (counts dependencies task)

theorem strings_nodup (value : Json) : (strings value).Nodup := Lists.nodup_eraseDups _

variable {items : List Json} {result : List String}

theorem dependencies_keys (distinct : (orderedIds items).Nodup) :
    (dependenciesOf items).keys = orderedIds items := by
  have texts : ((items.filter fun item => taskId item ≠ "").map fun item =>
      (taskId item, strings (item.get "blocked_by"))).map Prod.fst = orderedIds items := by
    rw [List.map_map, orderedIds, List.filter_map]
    rfl
  rw [Dict.keys, dependenciesOf, Dict.entries_ofEntries (by rw [texts]; exact distinct), texts]

theorem dependencies_nodup {task : String} {texts : List String}
    (found : (dependenciesOf items).get? task = some texts) : texts.Nodup := by
  have member := Dict.mem_of_mem_ofEntries ((Dict.get?_eq_some_iff _ _ _).mp found)
  obtain ⟨item, _, same⟩ := List.mem_map.mp member
  rw [← (Prod.mk.inj same).2]
  exact strings_nodup _

theorem inputIndex_eq {ids : List String} (distinct : ids.Nodup) {id : String} (member : id ∈ ids) :
    inputIndex ids id = ids.idxOf id := by
  have found : ∀ start, Dict.find id (ids.zipIdx start) = some (start + ids.idxOf id) := by
    clear distinct
    induction ids with
    | nil => cases member
    | cons first rest ih =>
        intro start
        rw [List.zipIdx_cons, Dict.find]
        by_cases here : first = id
        · rw [if_pos here, here, List.idxOf_cons_self]
          rfl
        · have later : id ∈ rest := (List.mem_cons.mp member).resolve_left (Ne.symm here)
          rw [if_neg here, ih later, List.idxOf_cons_ne rest here]
          exact congrArg some (by omega)
  have keys : (ids.zipIdx.map Prod.fst).Nodup := by
    rw [List.zipIdx_map_fst]
    exact distinct
  rw [inputIndex, Dict.get?_ofEntries keys, found 0, Option.getD_some, Nat.zero_add]

theorem needs_nodup (task : String) : (needsOf (dependenciesOf items) task).Nodup := by
  refine List.Nodup.filter _ ?_
  cases found : (dependenciesOf items).get? task with
  | none => exact List.nodup_nil
  | some texts => exact dependencies_nodup found

section Graph

variable {dependencies : Dict String (List String)} {ids : List String}

theorem needs_known (keys : dependencies.keys = ids) {task dependency : String}
    (member : dependency ∈ needsOf dependencies task) : task ∈ ids ∧ dependency ∈ ids := by
  obtain ⟨listed, counted⟩ := List.mem_filter.mp member
  rw [← keys]
  constructor
  · cases found : dependencies.get? task with
    | none =>
        rw [found] at listed
        cases listed
    | some texts =>
        exact (Dict.contains_iff_mem_keys _ _).mp (by rw [Dict.contains, found]; rfl)
  · exact (Dict.contains_iff_mem_keys _ _).mp (Bool.and_eq_true _ _ ▸ counted).1

theorem self_notMem_needs (task : String) : task ∉ needsOf dependencies task := by
  intro member
  have counted := (Bool.and_eq_true _ _ ▸ (List.mem_filter.mp member).2).2
  exact of_decide_eq_true counted rfl

theorem get?_indegrees (task : String) :
    (indegrees dependencies).get? task = (dependencies.get? task).map fun texts =>
      ((texts.countP (counts dependencies task) : Nat) : Int) := by
  have keys : ((dependencies.entries.map fun entry =>
      (entry.1, ((entry.2.countP (counts dependencies entry.1) : Nat) : Int))).map
        Prod.fst).Nodup := by
    rw [List.map_map]
    exact dependencies.nodupKeys
  rw [indegrees, Dict.get?_ofEntries keys]
  exact Dict.find_map (fun task (texts : List String) =>
    ((texts.countP (counts dependencies task) : Nat) : Int)) task dependencies.entries

theorem get?_noteDependents {task : String} {texts : List String} (distinct : texts.Nodup)
    (dependents : Dict String (List String)) (id : String) :
    (noteDependents task texts dependents).get? id =
      (dependents.get? id).map fun noted =>
        noted ++ if id ∈ texts ∧ id ≠ task then [task] else [] := by
  induction texts generalizing dependents with
  | nil => simp [noteDependents]
  | cons dependency rest ih =>
      obtain ⟨absent, distinctRest⟩ := List.nodup_cons.mp distinct
      rw [noteDependents, List.foldl_cons]
      refine (ih distinctRest _).trans ?_
      by_cases counted : (dependents.contains dependency && decide (dependency ≠ task)) = true
      · obtain ⟨known, other⟩ := Bool.and_eq_true _ _ ▸ counted
        rw [if_pos counted, Dict.get?_insert]
        by_cases here : id = dependency
        · obtain ⟨noted, found⟩ := Option.isSome_iff_exists.mp known
          rw [if_pos here, here, found]
          simp [absent, of_decide_eq_true other]
        · simp [here]
      · rw [if_neg counted]
        cases found : dependents.get? id with
        | none => rfl
        | some noted =>
            have other : ¬(id = dependency ∧ id ≠ task) := by
              rintro ⟨rfl, different⟩
              refine counted ((Bool.and_eq_true _ _).mpr ⟨?_, decide_eq_true different⟩)
              rw [Dict.contains, found]
              rfl
            have same : id ∈ dependency :: rest ∧ id ≠ task ↔ id ∈ rest ∧ id ≠ task := by
              rw [List.mem_cons]
              tauto
            simp only [Option.map_some, same]

theorem get?_foldl_noteDependents {entries : List (String × List String)}
    (distinct : ∀ entry ∈ entries, entry.2.Nodup) (dependents : Dict String (List String))
    (id : String) :
    (entries.foldl (fun out entry => noteDependents entry.1 entry.2 out) dependents).get? id =
      (dependents.get? id).map fun noted => noted ++
        (entries.filter fun entry => decide (id ∈ entry.2 ∧ id ≠ entry.1)).map Prod.fst := by
  induction entries generalizing dependents with
  | nil => simp
  | cons entry rest ih =>
      rw [List.foldl_cons, ih fun other member => distinct other (List.mem_cons_of_mem _ member),
        get?_noteDependents (distinct entry List.mem_cons_self), List.filter_cons]
      cases dependents.get? id with
      | none => rfl
      | some noted =>
          by_cases needed : id ∈ entry.2 ∧ id ≠ entry.1
          · simp [needed]
          · simp [needed]

/-- The dependents of a known task are the tasks that count it among their needs. -/
theorem dependents_spec (distinct : ∀ entry ∈ dependencies.entries, entry.2.Nodup) {id : String}
    (member : id ∈ dependencies.keys) :
    ∃ noted, (dependentsOf dependencies).get? id = some noted ∧ noted.Nodup ∧
      ∀ task, task ∈ noted ↔ id ∈ needsOf dependencies task := by
  have start : (Dict.ofEntries (dependencies.keys.map fun task =>
      (task, ([] : List String)))).get? id = some [] := by
    rw [Dict.ofEntries, Dict.get?_insertAll_map, if_pos member]
  refine ⟨_, by rw [dependentsOf, get?_foldl_noteDependents distinct, start]; rfl, ?_, ?_⟩
  · exact (List.filter_sublist.map _).nodup dependencies.nodupKeys
  · intro task
    have known : dependencies.contains id = true := (Dict.contains_iff_mem_keys _ _).mpr member
    simp only [List.nil_append, List.mem_map]
    constructor
    · rintro ⟨⟨other, texts⟩, inside, rfl⟩
      obtain ⟨listed, needed⟩ := List.mem_filter.mp inside
      obtain ⟨present, different⟩ := of_decide_eq_true needed
      have found := (Dict.get?_eq_some_iff dependencies other texts).mpr listed
      refine List.mem_filter.mpr ⟨by rw [found]; exact present, ?_⟩
      exact (Bool.and_eq_true _ _).mpr ⟨known, decide_eq_true different⟩
    · intro needed
      obtain ⟨listed, counted⟩ := List.mem_filter.mp needed
      cases found : dependencies.get? task with
      | none =>
          rw [found] at listed
          cases listed
      | some texts =>
          rw [found] at listed
          refine ⟨(task, texts), List.mem_filter.mpr
            ⟨(Dict.get?_eq_some_iff dependencies task texts).mp found, ?_⟩, rfl⟩
          exact decide_eq_true
            ⟨listed, of_decide_eq_true (Bool.and_eq_true _ _ ▸ counted).2⟩

/-- What counting down a list of dependents makes of a state. -/
structure CountedDown (index : String → Nat) (counted : List String) (before after : OrderState) :
    Prop where
  result : after.result = before.result
  indegree : ∀ id, after.indegree.get? id =
    if id ∈ counted then some ((before.indegree.get? id).getD 0 - 1) else before.indegree.get? id
  ready : after.ready.Perm
    (before.ready ++ counted.filter fun id => (before.indegree.get? id).getD 0 = 1)
  sorted : (before.ready.Pairwise fun first second => index first ≤ index second) →
    after.ready.Pairwise fun first second => index first ≤ index second

theorem foldl_countDown_result (index : String → Nat) (counted : List String)
    (before : OrderState) : (counted.foldl (countDown index) before).result = before.result := by
  induction counted generalizing before with
  | nil => rfl
  | cons first rest ih => exact ih (countDown index before first)

theorem emit_result (index : String → Nat) (dependents : Dict String (List String))
    (state : OrderState) (task : String) (rest : List String) :
    (emit index dependents state task rest).result = state.result ++ [task] :=
  foldl_countDown_result index _ _

theorem countDown_all (index : String → Nat) {counted : List String} (distinct : counted.Nodup)
    (before : OrderState) :
    CountedDown index counted before (counted.foldl (countDown index) before) := by
  induction counted generalizing before with
  | nil => exact ⟨rfl, fun id => by simp, by simp, id⟩
  | cons first rest ih =>
      obtain ⟨absent, distinctRest⟩ := List.nodup_cons.mp distinct
      have later := ih distinctRest (countDown index before first)
      rw [List.foldl_cons]
      have others : ∀ id, id ≠ first →
          (countDown index before first).indegree.get? id = before.indegree.get? id := fun id other =>
        Dict.get?_insert_ne _ _ other
      refine ⟨foldl_countDown_result index rest _, fun id => ?_, ?_,
        fun sorted => later.sorted ?_⟩
      · rw [later.indegree id]
        by_cases here : id = first
        · rw [here, if_neg absent, if_pos List.mem_cons_self]
          exact (Dict.get?_insert _ _ _ _).trans (if_pos rfl)
        · simp [here, others id here]
      · have kept : (rest.filter fun id =>
            ((countDown index before first).indegree.get? id).getD 0 = 1) =
              rest.filter fun id => (before.indegree.get? id).getD 0 = 1 := by
          refine List.filter_congr fun id member => ?_
          rw [others id fun same => absent (same ▸ member)]
        refine later.ready.trans ?_
        rw [kept, List.filter_cons]
        by_cases zero : (before.indegree.get? first).getD 0 = 1
        · have ready : (countDown index before first).ready =
              Sorting.sortedBy index (before.ready ++ [first]) := if_pos (by omega)
          rw [ready, if_pos (decide_eq_true zero)]
          refine ((Sorting.sortedBy_perm index _).append_right _).trans ?_
          rw [List.append_assoc, List.singleton_append]
        · have ready : (countDown index before first).ready = before.ready := if_neg (by omega)
          rw [ready, if_neg (by simpa using zero)]
      · by_cases zero : (before.indegree.get? first).getD 0 - 1 = 0
        · have ready : (countDown index before first).ready =
              Sorting.sortedBy index (before.ready ++ [first]) := if_pos zero
          rw [ready]
          exact Sorting.sortedBy_pairwise index _
        · have ready : (countDown index before first).ready = before.ready := if_neg zero
          rw [ready]
          exact sorted

end Graph

/-- The emitted tasks are a greedy order, the degrees count what is missing, and the ready
tasks are those that are available, in the order of the input. -/
structure Tracks (dependencies : Dict String (List String)) (ids : List String)
    (index : String → Nat) (state : OrderState) : Prop where
  greedy : Greedy ids (needsOf dependencies) index state.result
  indegree : ∀ id ∈ ids, state.indegree.get? id =
    some (((needsOf dependencies id).countP fun need => need ∉ state.result : Nat) : Int)
  ready : ∀ id, id ∈ state.ready ↔ Available ids (needsOf dependencies) state.result id
  distinct : state.ready.Nodup
  sorted : state.ready.Pairwise fun first second => index first ≤ index second

/-- Emitting one of the needs lowers their number by one. -/
theorem countP_emitted {needs : List String} (distinct : needs.Nodup) {task : String}
    (fresh : task ∉ result) :
    (needs.countP fun need => need ∉ result) =
      (needs.countP fun need => need ∉ result ++ [task]) + if task ∈ needs then 1 else 0 := by
  induction needs with
  | nil => rfl
  | cons need rest ih =>
      obtain ⟨absent, distinctRest⟩ := List.nodup_cons.mp distinct
      rw [List.countP_cons, List.countP_cons, ih distinctRest]
      by_cases here : need = task
      · subst here
        simp [fresh, absent]
      · by_cases emitted : need ∈ result
        · simp [here, Ne.symm here, emitted]
        · simp only [List.mem_append, List.mem_cons, List.not_mem_nil, or_false, here,
            Ne.symm here, emitted, false_or]
          simp only [not_false_eq_true, decide_true, if_true]
          omega

theorem countP_eq_zero_iff {needs : List String} :
    (needs.countP fun need => need ∉ result) = 0 ↔ needs ⊆ result := by
  rw [List.countP_eq_zero]
  constructor
  · intro none need member
    by_contra missing
    exact none need member (decide_eq_true missing)
  · intro covered need member missing
    exact of_decide_eq_true missing (covered member)

section Loop

variable {dependencies : Dict String (List String)} {ids : List String} {index : String → Nat}

theorem tracks_emit (keys : dependencies.keys = ids)
    (unique : ∀ entry ∈ dependencies.entries, entry.2.Nodup)
    (needsDistinct : ∀ task, (needsOf dependencies task).Nodup) {state : OrderState}
    (tracks : Tracks dependencies ids index state) {task : String} {rest : List String}
    (shape : state.ready = task :: rest) :
    Tracks dependencies ids index (emit index (dependentsOf dependencies) state task rest) := by
  have available := (tracks.ready task).mp (shape ▸ List.mem_cons_self)
  have sorted := shape ▸ tracks.sorted
  obtain ⟨lowest, sortedRest⟩ := List.pairwise_cons.mp sorted
  obtain ⟨absent, distinctRest⟩ := List.nodup_cons.mp (shape ▸ tracks.distinct)
  obtain ⟨noted, found, notedDistinct, member⟩ := dependents_spec unique
    (keys ▸ available.known : task ∈ dependencies.keys)
  have perm := Sorting.sortedBy_perm index noted
  obtain ⟨result, indegree, ready, keeps⟩ := countDown_all index
    (perm.nodup_iff.mpr notedDistinct)
    { state with ready := rest, result := state.result ++ [task] }
  have same : emit index (dependentsOf dependencies) state task rest =
      (Sorting.sortedBy index noted).foldl (countDown index)
        { state with ready := rest, result := state.result ++ [task] } := by
    rw [emit, found, Option.getD_some]
  rw [same]
  change _ = state.result ++ [task] at result
  have counted : ∀ id, id ∈ Sorting.sortedBy index noted ↔ task ∈ needsOf dependencies id :=
    fun id => perm.mem_iff.trans (member id)
  have last : ∀ id ∈ ids, task ∈ needsOf dependencies id →
      ((state.indegree.get? id).getD 0 = 1 ↔
        needsOf dependencies id ⊆ state.result ++ [task]) := by
    intro id known needed
    have emitted := countP_emitted (needsDistinct id) available.fresh
    rw [if_pos needed] at emitted
    rw [tracks.indegree id known, Option.getD_some, ← countP_eq_zero_iff]
    omega
  refine ⟨?_, fun id known => ?_, fun id => ?_, ?_, keeps sortedRest⟩
  · rw [result]
    refine Greedy.snoc tracks.greedy available fun other free => ?_
    rcases List.mem_cons.mp (shape ▸ (tracks.ready other).mpr free) with rfl | inside
    · exact Nat.le_refl _
    · exact lowest other inside
  · have emitted := countP_emitted (needsDistinct id) available.fresh
    rw [indegree id, result]
    by_cases needed : task ∈ needsOf dependencies id
    · rw [if_pos needed] at emitted
      rw [if_pos ((counted id).mpr needed), tracks.indegree id known, Option.getD_some]
      exact congrArg some (by omega)
    · rw [if_neg needed, Nat.add_zero] at emitted
      rw [if_neg fun inside => needed ((counted id).mp inside), tracks.indegree id known, emitted]
  · rw [ready.mem_iff, List.mem_append, List.mem_filter, result, counted id]
    constructor
    · rintro (inside | ⟨needed, one⟩)
      · have before := (tracks.ready id).mp (shape ▸ List.mem_cons_of_mem _ inside)
        refine ⟨before.known, fun emitted => ?_, fun need member =>
          List.mem_append_left _ (before.ready member)⟩
        rcases List.mem_append.mp emitted with earlier | now
        · exact before.fresh earlier
        · rw [List.mem_singleton.mp now] at inside
          exact absent inside
      · have known := (needs_known keys needed).1
        refine ⟨known, fun emitted => ?_, (last id known needed).mp (of_decide_eq_true one)⟩
        rcases List.mem_append.mp emitted with earlier | now
        · exact available.fresh (tracks.greedy.closed earlier needed)
        · rw [List.mem_singleton.mp now] at needed
          exact self_notMem_needs task needed
    · intro free
      by_cases needed : task ∈ needsOf dependencies id
      · exact Or.inr ⟨needed, decide_eq_true ((last id free.known needed).mpr free.ready)⟩
      · have before : Available ids (needsOf dependencies) state.result id := by
          refine ⟨free.known, fun emitted => free.fresh (List.mem_append_left _ emitted),
            fun need member => ?_⟩
          rcases List.mem_append.mp (free.ready member) with earlier | now
          · exact earlier
          · exact absurd (List.mem_singleton.mp now ▸ member) needed
        rcases List.mem_cons.mp (shape ▸ (tracks.ready id).mpr before) with rfl | inside
        · exact absurd (List.mem_append_right _ (List.mem_singleton_self id)) free.fresh
        · exact Or.inl inside
  · refine ready.nodup_iff.mpr (List.nodup_append.mpr ⟨distinctRest, ?_, ?_⟩)
    · exact (perm.nodup_iff.mpr notedDistinct).filter _
    · rintro id inside other later rfl
      have waiting := (tracks.ready id).mp (shape ▸ List.mem_cons_of_mem _ inside)
      have needed := (counted id).mp (List.mem_filter.mp later).1
      exact available.fresh (waiting.ready needed)

/-- With fuel for every task that is left, the loop ends with nothing ready. -/
theorem emitReady_ends (keys : dependencies.keys = ids)
    (unique : ∀ entry ∈ dependencies.entries, entry.2.Nodup)
    (needsDistinct : ∀ task, (needsOf dependencies task).Nodup) {fuel : Nat} {state : OrderState}
    (tracks : Tracks dependencies ids index state)
    (enough : ids.length < fuel + state.result.length) :
    ∃ final, (∀ more, emitReady index (dependentsOf dependencies) (fuel + more) state =
        some final) ∧ Tracks dependencies ids index final ∧ final.ready = [] := by
  induction fuel generalizing state with
  | zero => exact absurd tracks.greedy.length_le (by omega)
  | succ fuel ih =>
      cases shape : state.ready with
      | nil =>
          refine ⟨state, fun more => ?_, tracks, shape⟩
          rw [Nat.succ_add, emitReady, shape]
      | cons task rest =>
          have next := tracks_emit keys unique needsDistinct tracks shape
          have longer : (emit index (dependentsOf dependencies) state task rest).result.length =
              state.result.length + 1 := by
            rw [emit_result, List.length_append]
            rfl
          obtain ⟨final, runs, tracked, done⟩ := ih next (by omega)
          refine ⟨final, fun more => ?_, tracked, done⟩
          rw [Nat.succ_add, emitReady, shape]
          exact runs more

theorem tracks_start (keys : dependencies.keys = ids) :
    Tracks dependencies ids (inputIndex ids) (startState ids dependencies) := by
  have degree : ∀ id ∈ ids, (indegrees dependencies).get? id =
      some (((needsOf dependencies id).length : Nat) : Int) := by
    intro id known
    obtain ⟨texts, found⟩ := Option.isSome_iff_exists.mp
      ((Dict.contains_iff_mem_keys dependencies id).mpr (keys ▸ known))
    rw [get?_indegrees, found, Option.map_some, needsOf, found, Option.getD_some,
      List.countP_eq_length_filter]
  have startKeys : (indegrees dependencies).keys = ids := by
    rw [← keys, Dict.keys, indegrees, Dict.entries_ofEntries, List.map_map]
    · rfl
    · rw [List.map_map]
      exact dependencies.nodupKeys
  have perm := Sorting.sortedBy_perm (inputIndex ids)
    (((indegrees dependencies).entries.filter fun entry => entry.2 = 0).map Prod.fst)
  refine ⟨Greedy.nil, fun id known => ?_, fun id => ?_, ?_, Sorting.sortedBy_pairwise _ _⟩
  · rw [startState, degree id known]
    simp
  · rw [startState, perm.mem_iff, List.mem_map]
    constructor
    · rintro ⟨⟨other, degrees⟩, inside, rfl⟩
      obtain ⟨listed, zero⟩ := List.mem_filter.mp inside
      have known : other ∈ ids := by
        rw [← startKeys]
        exact List.mem_map_of_mem listed
      have found := (Dict.get?_eq_some_iff _ _ _).mpr listed
      have zero' : degrees = 0 := of_decide_eq_true zero
      rw [degree other known, Option.some.injEq, zero'] at found
      have none : needsOf dependencies other = [] := List.length_eq_zero_iff.mp (by omega)
      exact ⟨known, List.not_mem_nil, by rw [none]; exact List.nil_subset _⟩
    · intro free
      refine ⟨(id, 0), List.mem_filter.mpr ⟨?_, decide_eq_true rfl⟩, rfl⟩
      refine (Dict.get?_eq_some_iff _ _ _).mp ?_
      rw [degree id free.known, List.subset_nil.mp free.ready]
      rfl
  · refine perm.nodup_iff.mpr ((List.filter_sublist.map _).nodup ?_)
    exact (indegrees dependencies).nodupKeys

end Loop

theorem selfCycleErrors_eq_nil_iff :
    selfCycleErrors (dependenciesOf items) = [] ↔ ∀ task, task ∉ blockedBy items task := by
  rw [selfCycleErrors, List.map_eq_nil_iff, List.filter_eq_nil_iff]
  constructor
  · intro none task member
    obtain ⟨listed, known⟩ := List.mem_filter.mp member
    obtain ⟨texts, found⟩ := Option.isSome_iff_exists.mp known
    rw [found] at listed
    exact none (task, texts) ((Dict.get?_eq_some_iff _ _ _).mp found) (decide_eq_true listed)
  · rintro none ⟨task, texts⟩ listed looping
    have found := (Dict.get?_eq_some_iff (dependenciesOf items) task texts).mpr listed
    refine none task (List.mem_filter.mpr ⟨?_, ?_⟩)
    · rw [found]
      exact of_decide_eq_true looping
    · rw [Dict.contains, found]
      rfl

/-- Without tasks that block themselves, the known dependencies are those that are counted. -/
theorem needsOf_eq_blockedBy (none : ∀ task, task ∉ blockedBy items task) :
    needsOf (dependenciesOf items) = blockedBy items := by
  funext task
  refine List.filter_congr fun dependency listed => ?_
  rw [counts]
  cases known : (dependenciesOf items).contains dependency with
  | false => rfl
  | true =>
      rw [Bool.true_and, decide_eq_true]
      rintro rfl
      exact none dependency (List.mem_filter.mpr ⟨listed, known⟩)

theorem cycleErrors_eq_nil_iff {ids : List String} :
    cycleErrors ids result = [] ↔ ids ⊆ result := by
  have shape : cycleErrors ids result = [] ↔ (ids.filter fun id => id ∉ result) = [] := by
    rw [cycleErrors]
    split
    · rename_i nothing
      exact iff_of_true rfl nothing
    · rename_i cyclic
      exact iff_of_false (List.cons_ne_nil _ _) cyclic
  rw [shape, List.filter_eq_nil_iff]
  constructor
  · intro none id member
    by_contra missing
    exact none id member (decide_eq_true missing)
  · intro covered id member missing
    exact of_decide_eq_true missing (covered member)

/-- The order of the tasks of a map with distinct ids: it is found, there are no errors exactly
when no task blocks itself through others, and then it is an order of all tasks that takes, at
each position, the first task of the input whose dependencies stand before it. -/
theorem stable_topological_order {taskMap : Json} {items : List Json}
    (listed : taskItems taskMap = some items) (distinct : (orderedIds items).Nodup) :
    ∃ order errors,
      (∀ fuel, (orderedIds items).length < fuel →
        stableTopologicalOrder fuel taskMap = some (order, errors)) ∧
      (errors = [] ↔ Acyclic (blockedBy items)) ∧
      (errors = [] → order.Perm (orderedIds items) ∧
        ∀ before task after, order = before ++ task :: after →
          blockedBy items task ⊆ before ∧
            ∀ other ∈ orderedIds items, other ∉ before → blockedBy items other ⊆ before →
              (orderedIds items).idxOf task ≤ (orderedIds items).idxOf other) := by
  have keys := dependencies_keys distinct
  have unique : ∀ entry ∈ (dependenciesOf items).entries, entry.2.Nodup := fun entry member =>
    dependencies_nodup ((Dict.get?_eq_some_iff _ entry.1 entry.2).mpr member)
  obtain ⟨final, runs, tracks, done⟩ := emitReady_ends keys unique needs_nodup
    (tracks_start keys) (Nat.lt_add_right _ (Nat.lt_succ_self (orderedIds items).length))
  have exhausted : ∀ task, ¬Available (orderedIds items) (needsOf (dependenciesOf items))
      final.result task := by
    intro task free
    have waiting := (tracks.ready task).mpr free
    rw [done] at waiting
    exact absurd waiting List.not_mem_nil
  have complete := tracks.greedy.complete_iff exhausted fun _ _ => needs_known keys
  refine ⟨final.result, selfCycleErrors (dependenciesOf items) ++
    cycleErrors (orderedIds items) final.result, ?_, ?_, ?_⟩
  · intro fuel enough
    obtain ⟨more, rfl⟩ := Nat.exists_eq_add_of_le enough
    have ran := runs more
    rw [stableTopologicalOrder, listed, Option.bind_some]
    change (emitReady _ _ _ _).map _ = _
    rw [ran]
    rfl
  · rw [List.append_eq_nil_iff, selfCycleErrors_eq_nil_iff, cycleErrors_eq_nil_iff, complete]
    constructor
    · rintro ⟨none, acyclic⟩
      rw [← needsOf_eq_blockedBy none]
      exact acyclic
    · intro acyclic
      have none : ∀ task, task ∉ blockedBy items task := fun task member =>
        acyclic task (Relation.TransGen.single member)
      rw [needsOf_eq_blockedBy none]
      exact ⟨none, acyclic⟩
  · intro clean
    obtain ⟨loops, cycles⟩ := List.append_eq_nil_iff.mp clean
    have same := needsOf_eq_blockedBy (selfCycleErrors_eq_nil_iff.mp loops)
    refine ⟨tracks.greedy.perm distinct (cycleErrors_eq_nil_iff.mp cycles), ?_⟩
    intro before task after shape
    obtain ⟨free, lowest⟩ := tracks.greedy.at_position shape
    rw [← same]
    refine ⟨free.ready, fun other known fresh ready => ?_⟩
    rw [← inputIndex_eq distinct free.known, ← inputIndex_eq distinct known]
    exact lowest other ⟨known, fresh, ready⟩

def blockedTask (id : String) (blockedBy : List String) : Json :=
  .obj [("task_id", .str id), ("blocked_by", .arr (blockedBy.map Json.str))]

def deliveryTasks : List Json :=
  [blockedTask "ship" ["build", "test", "sign-off"], blockedTask "build" [],
    blockedTask "test" ["build", "build"]]

def deliveryMap : Json := .obj [("tasks", .arr deliveryTasks)]

/-- A task is emitted behind what it waits for, and an unknown dependency does not count. -/
theorem delivery_ordered :
    stableTopologicalOrder 4 deliveryMap = some (["build", "test", "ship"], []) ∧
      ["build", "test", "ship"].Perm (orderedIds deliveryTasks) ∧
      Acyclic (blockedBy deliveryTasks) := by
  obtain ⟨order, errors, runs, acyclic, sound⟩ :=
    stable_topological_order (by rfl : taskItems deliveryMap = some deliveryTasks)
      (by decide +kernel)
  have found := runs 4 (by decide +kernel)
  have computed : stableTopologicalOrder 4 deliveryMap =
      some (["build", "test", "ship"], []) := by decide +kernel
  obtain ⟨rfl, rfl⟩ := Prod.mk.inj (Option.some.inj (computed.symm.trans found))
  exact ⟨computed, (sound rfl).1, acyclic.mp rfl⟩

end ZaofuFormal.TaskMap
