import ZaofuFormal.Events.TaskIndex

/-!
# What the task index lists

The index and its file list identifiers of events of the log, each under its task and at most
once, and an instance holds events of the log.  An answer of the index is therefore made of
events of the task.
-/

namespace ZaofuFormal.Events.TaskIndex

open Foundation Foundation.Runs

def ids (events : List ZfEvent) : List String := events.map ZfEvent.id

/-- The identifiers of the events that are listed under a task. -/
def taskIds (events : List ZfEvent) (task : String) : List String :=
  ids (events.filter fun event => indexedTask event == some task)

def listed (lists : TaskIds) (task : String) : List String := (lists.get? task).getD []

/-- Lists of distinct identifiers of events of their tasks. -/
def Known (events : List ZfEvent) (lists : TaskIds) : Prop :=
  ∀ task list, lists.get? task = some list →
    task ≠ "" ∧ list.Nodup ∧ ∀ id ∈ list, id ∈ taskIds events task

variable {events : List ZfEvent}

theorem mem_ids_of_mem_taskIds {task id : String}
    (member : id ∈ taskIds events task) : id ∈ ids events := by
  obtain ⟨event, inside, rfl⟩ := List.mem_map.mp member
  exact List.mem_map_of_mem (List.mem_of_mem_filter inside)

theorem Known.listed {events : List ZfEvent} {lists : TaskIds} (known : Known events lists)
    (task : String) : (TaskIndex.listed lists task).Nodup ∧
      ∀ id ∈ TaskIndex.listed lists task, id ∈ taskIds events task := by
  unfold TaskIndex.listed
  cases found : lists.get? task with
  | none => exact ⟨List.nodup_nil, fun id member => absurd member List.not_mem_nil⟩
  | some list => exact (known task list found).2

theorem nodup_append_fresh {list : List String} {id : String} (distinct : list.Nodup)
    (fresh : id ∉ list) : (list ++ [id]).Nodup := by
  rw [← List.concat_eq_append]
  exact distinct.concat fresh

theorem Known.mono {more : List ZfEvent} {lists : TaskIds} (known : Known events lists) :
    Known (events ++ more) lists := by
  intro task list found
  obtain ⟨named, distinct, inside⟩ := known task list found
  refine ⟨named, distinct, fun id member => ?_⟩
  rw [taskIds, ids, List.filter_append, List.map_append]
  exact List.mem_append_left _ (inside id member)

/-- An appended event has an identifier that no event of the log has. -/
def Fresh (state : State) : Action → Prop
  | .append _ event => event.id ≠ "" ∧ event.id ∉ ids state.readAll
  | _ => True

instance (state : State) : DecidablePred (Fresh state)
  | .append _ _ => inferInstanceAs (Decidable (_ ∧ _))
  | .create | .flush _ | .load _ => inferInstanceAs (Decidable True)

/-- An index holds events of the log under their identifiers. -/
def Held (events : List ZfEvent) (held : Dict String ZfEvent) : Prop :=
  ∀ id event, held.get? id = some event → event.id = id ∧ event ∈ events

structure EventIndex.Sound (events : List ZfEvent) (index : EventIndex) : Prop where
  held : Held events index.eventById
  known : Known events index.eventIdsByTask

structure State.Sound (state : State) : Prop where
  distinct : (ids state.readAll).Nodup
  stored : ∀ lists, state.disk = some lists → Known state.readAll lists
  instances : ∀ index ∈ state.instances, index.Sound state.readAll

theorem Held.of_entries {held kept : Dict String ZfEvent}
    (sound : Held events held) (inside : ∀ entry ∈ kept.entries, entry ∈ held.entries) :
    Held events kept := fun id event found =>
  sound id event ((Dict.get?_eq_some_iff _ _ _).mpr
    (inside _ ((Dict.get?_eq_some_iff _ _ _).mp found)))

theorem Held.capEvents {events : List ZfEvent} {held : Dict String ZfEvent}
    (sound : Held events held) : Held events (capEvents held) := by
  unfold TaskIndex.capEvents
  split
  · exact sound.of_entries fun entry member =>
      (Sorting.mem_sortedBy _ _ _).mp (List.mem_of_mem_drop member)
  · exact sound

theorem EventIndex.Sound.mono {events : List ZfEvent} {index : EventIndex}
    (sound : index.Sound events) (event : ZfEvent) : index.Sound (events ++ [event]) where
  held id other found := (sound.held id other found).imp_right (List.mem_append_left _)
  known := sound.known.mono

/-- An observed event joins the log. -/
theorem EventIndex.Sound.observe {events : List ZfEvent} {index : EventIndex} {event : ZfEvent}
    (sound : index.Sound events) (named : event.id ≠ "") (fresh : event.id ∉ ids events) :
    (observe index event).Sound (events ++ [event]) := by
  have last : event ∈ events ++ [event] := List.mem_append_right _ (List.mem_singleton_self _)
  rw [TaskIndex.observe, if_neg named]
  refine ⟨?_, ?_⟩
  · have inserted : Held (events ++ [event]) (index.eventById.insert event.id event) := by
      intro id other found
      rw [Dict.get?_insert] at found
      split at found
      · rename_i here
        cases found
        exact ⟨here.symm, last⟩
      · exact (sound.mono event).held id other found
    exact inserted.of_entries fun entry member => List.mem_of_mem_drop member
  · cases under : indexedTask event with
    | none => exact sound.known.mono
    | some task =>
        intro other list found
        dsimp only at found
        rw [Dict.get?_insert] at found
        split at found
        · rename_i here
          subst here
          cases found
          have filled : other ≠ "" := by
            rintro rfl
            have kept := (Option.filter_eq_some_iff.mp under).2
            simp at kept
          obtain ⟨distinct, before⟩ := sound.known.listed other
          have absent : event.id ∉ listed index.eventIdsByTask other := fun member =>
            fresh (mem_ids_of_mem_taskIds (before _ member))
          have appended : appendUnlessLast (listed index.eventIdsByTask other) event.id =
              listed index.eventIdsByTask other ++ [event.id] :=
            if_neg fun last => absent (List.mem_of_getLast? last)
          change _ ∧ (keepLast maxTaskEvents (appendUnlessLast (listed _ other) event.id)).Nodup ∧
            ∀ id ∈ keepLast maxTaskEvents (appendUnlessLast (listed _ other) event.id), _
          rw [appended]
          refine ⟨filled, (nodup_append_fresh distinct absent).sublist (List.drop_sublist _ _),
            fun id member => ?_⟩
          rw [taskIds, ids, List.filter_append, List.map_append, List.mem_append]
          rcases List.mem_append.mp (List.mem_of_mem_drop member) with earlier | single
          · exact .inl (before id earlier)
          · right
            rw [List.mem_singleton.mp single, List.filter_cons_of_pos (by simpa using under)]
            exact List.mem_cons_self
        · exact sound.known.mono other list found

theorem mem_mergeIds {events : Dict String ZfEvent} {base values : List String}
    (distinct : base.Nodup) : (mergeIds events base values).Nodup ∧
      ∀ id ∈ mergeIds events base values, id ∈ base ∨ id ∈ values := by
  unfold mergeIds
  induction values generalizing base with
  | nil => exact ⟨distinct, fun id member => .inl member⟩
  | cons value rest ih =>
      rw [List.foldl_cons]
      split
      · rename_i added
        have longer := nodup_append_fresh distinct added.2
        refine ⟨(ih longer).1, fun id member => ?_⟩
        have := (ih longer).2 id member
        grind
      · exact ⟨(ih distinct).1, fun id member =>
          ((ih distinct).2 id member).imp_right (List.mem_cons_of_mem _)⟩

theorem Known.merge {held : Dict String ZfEvent} {disk memory : TaskIds}
    (stored : Known events disk) (known : Known events memory) :
    Known events (mergeTasks held disk memory) := by
  intro task list found
  have keys : (memory.entries.map fun entry => (entry.1,
      mergeTaskEvents held ((disk.get? entry.1).getD []) entry.2)).map Prod.fst =
        memory.entries.map Prod.fst := by
    rw [List.map_map]
    rfl
  rw [mergeTasks, Dict.get?_insertAll (keys ▸ memory.nodupKeys), Option.or_eq_some_iff] at found
  rcases found with merged | ⟨_, kept⟩
  · have member := (Dict.find_eq_some_iff (keys ▸ memory.nodupKeys) _ _).mp merged
    obtain ⟨entry, inside, same⟩ := List.mem_map.mp member
    cases same
    obtain ⟨filled, _, values⟩ := known entry.1 entry.2 ((Dict.get?_eq_some_iff _ _ _).mpr inside)
    obtain ⟨first, base⟩ := stored.listed entry.1
    obtain ⟨distinct, origin⟩ := @mem_mergeIds held _ entry.2 first
    refine ⟨filled, ((Sorting.sortedBy_perm _ _).nodup_iff.mpr distinct).sublist
      (List.drop_sublist _ _), fun id listed => ?_⟩
    exact (origin id ((Sorting.mem_sortedBy _ _ _).mp (List.mem_of_mem_drop listed))).elim
      (base id) (values id)
  · exact stored task list kept

theorem EventIndex.Sound.flush {events : List ZfEvent} {index : EventIndex}
    {disk : Option TaskIds} (sound : index.Sound events)
    (stored : ∀ lists, disk = some lists → Known events lists) :
    (flush index disk).1.Sound events ∧
      ∀ lists, (flush index disk).2 = some lists → Known events lists := by
  unfold TaskIndex.flush
  split
  · have base : Known events (disk.getD Dict.empty) := by
      cases disk with
      | none => exact fun _ _ impossible => by cases impossible
      | some lists => exact stored lists rfl
    have merged := @Known.merge events (capEvents index.eventById) _ _ base sound.known
    refine ⟨⟨sound.held.capEvents, merged⟩, fun lists same => ?_⟩
    cases same
    exact merged
  · exact ⟨sound, stored⟩

theorem EventIndex.Sound.load {index : EventIndex}
    {disk : Option TaskIds} (sound : index.Sound events)
    (stored : ∀ lists, disk = some lists → Known events lists) :
    (load disk index).Sound events := by
  cases disk with
  | none => exact sound
  | some lists => exact ⟨sound.held, stored lists rfl⟩

theorem State.Sound.put {state : State} (sound : state.Sound) (writer : Nat)
    {written : EventIndex × Option TaskIds} (index : written.1.Sound state.readAll)
    (stored : ∀ lists, written.2 = some lists → Known state.readAll lists) :
    (state.put writer written).Sound where
  distinct := sound.distinct
  stored := stored
  instances other member := by
    rcases List.mem_or_eq_of_mem_set member with kept | rfl
    · exact sound.instances other kept
    · exact index

theorem State.Sound.step {state : State} (sound : state.Sound) {action : Action}
    (fresh : Fresh state action) : (step state action).Sound := by
  cases action with
  | create =>
      refine ⟨sound.distinct, sound.stored, fun index member => ?_⟩
      rcases List.mem_append.mp member with kept | single
      · exact sound.instances index kept
      · rw [List.mem_singleton.mp single]
        exact EventIndex.Sound.load ⟨fun _ _ impossible => (by cases impossible),
          fun _ _ impossible => (by cases impossible)⟩ sound.stored
  | append writer event =>
      rw [TaskIndex.step]
      split
      · exact sound
      · rename_i index found
        have logged : (State.readAll { state with log := state.log ++ [(writer, event)] }) =
            state.readAll ++ [event] := List.map_append
        have observed :=
          (sound.instances index (List.mem_of_getElem? found)).observe fresh.1 fresh.2
        have appended : (State.mk (state.log ++ [(writer, event)]) state.disk
            state.instances).Sound := by
          refine ⟨?_, fun lists same => logged ▸ (sound.stored lists same).mono,
            fun other member => logged ▸ (sound.instances other member).mono event⟩
          rw [logged, ids, List.map_append]
          exact nodup_append_fresh sound.distinct fresh.2
        rw [← logged] at observed
        refine appended.put writer ?_ ?_ <;> split
        · exact (observed.flush appended.stored).1
        · exact observed
        · exact (observed.flush appended.stored).2
        · exact appended.stored
  | flush writer =>
      rw [TaskIndex.step]
      split
      · exact sound
      · rename_i index found
        have flushed := (sound.instances index (List.mem_of_getElem? found)).flush sound.stored
        exact sound.put writer flushed.1 flushed.2
  | load writer =>
      rw [TaskIndex.step]
      split
      · exact sound
      · rename_i index found
        exact sound.put writer
          ((sound.instances index (List.mem_of_getElem? found)).load sound.stored) sound.stored

/-- Held events of a list of distinct identifiers are the events of the identifiers. -/
theorem answered {selected : List ZfEvent} {index : EventIndex} (sound : index.Sound events)
    {list : List String} (found : list.mapM index.eventById.get? = some selected) :
    ids selected = list ∧ ∀ event ∈ selected, event ∈ events := by
  induction list generalizing selected with
  | nil =>
      cases found
      exact ⟨rfl, fun _ member => absurd member List.not_mem_nil⟩
  | cons id rest ih =>
      rw [List.mapM_cons] at found
      obtain ⟨event, here, found⟩ := Option.bind_eq_some_iff.mp found
      obtain ⟨later, others, same⟩ := Option.bind_eq_some_iff.mp found
      cases same
      obtain ⟨named, inside⟩ := sound.held id event here
      obtain ⟨restIds, restInside⟩ := ih others
      exact ⟨by rw [ids, List.map_cons, named, ← restIds, ids],
        List.forall_mem_cons.mpr ⟨inside, restInside⟩⟩

/-- Whatever the instances did before, an answer for a task consists of different events that
the log has under the task. -/
theorem answers_sound {actions : List Action} (fresh : Along step Fresh State.start actions)
    {index : EventIndex} (member : index ∈ (run step State.start actions).instances)
    (task : String) (limit : Option Nat) :
    (ids ((run step State.start actions).eventsForTask index task limit)).Nodup ∧
      ∀ event ∈ (run step State.start actions).eventsForTask index task limit,
        event ∈ taskEvents (run step State.start actions).readAll task := by
  have sound : (run step State.start actions).Sound :=
    fresh.invariant State.Sound (fun _ _ before fresh => before.step fresh)
      ⟨List.nodup_nil, fun _ impossible => (by cases impossible),
        fun _ impossible => absurd impossible List.not_mem_nil⟩
  generalize run step State.start actions = state at sound member ⊢
  have last : ∀ {α : Type} (items : List α), (lastItems limit items).Sublist items := by
    intro α items
    unfold lastItems
    split
    · exact List.Sublist.refl _
    · exact List.Sublist.refl _
    · exact List.drop_sublist _ _
  unfold State.eventsForTask
  cases found : index.eventsForTask task limit with
  | none =>
      dsimp only
      refine ⟨sound.distinct.sublist (((last _).trans List.filter_sublist).map _), ?_⟩
      exact fun event member => (last _).subset member
  | some selected =>
      obtain ⟨list, known, found⟩ := Option.bind_eq_some_iff.mp found
      obtain ⟨same, inside⟩ := answered (sound.instances index member) found
      obtain ⟨_, distinct, listed⟩ := (sound.instances index member).known task list known
      refine ⟨by rw [same]; exact distinct.sublist (last list), fun event chosen => ?_⟩
      have named : event.id ∈ taskIds state.readAll task :=
        listed _ ((last list).subset (same ▸ List.mem_map_of_mem chosen))
      obtain ⟨other, filtered, equal⟩ := List.mem_map.mp named
      obtain ⟨logged, under⟩ := List.mem_filter.mp filtered
      have this : other = event :=
        List.inj_on_of_nodup_map sound.distinct logged (inside event chosen) equal
      subst this
      refine List.mem_filter.mpr ⟨logged, ?_⟩
      have task' := (Option.filter_eq_some_iff.mp (beq_iff_eq.mp under)).1
      exact beq_iff_eq.mpr task'

/-- Two instances append, and the second one loads what the first one has flushed. -/
def sharedActions : List Action :=
  [.create, .append 0 ⟨"e-1", "1", some "T-1", .null⟩, .create,
    .append 1 ⟨"e-2", "2", some "T-1", .null⟩, .append 0 ⟨"e-3", "3", some "T-2", .null⟩, .load 0]

theorem answers_shared : ∃ index ∈ (run step State.start sharedActions).instances,
    (ids ((run step State.start sharedActions).eventsForTask index "T-1" none)).Nodup ∧
      ∀ event ∈ (run step State.start sharedActions).eventsForTask index "T-1" none,
        event ∈ taskEvents (run step State.start sharedActions).readAll "T-1" := by
  have filled : 0 < (run step State.start sharedActions).instances.length := by decide +kernel
  have member := List.getElem_mem filled
  exact ⟨_, member, answers_sound (by decide +kernel) member "T-1" none⟩

end ZaofuFormal.Events.TaskIndex
