import ZaofuFormal.Fanout.Identity
import ZaofuFormal.Foundation.Recency

/-!
# Which fanout instance is current

The projection is compared with the log itself: the last start of a logical
key, and for each instance the events since its last start.  `Tracks` relates
the registry to the log read so far; one event preserves it, and the laws of
the projection are read off at the end.
-/

namespace ZaofuFormal.Fanout

open Foundation Workflow

/-! ## What the log says -/

def starts (event : ZfEvent) : Bool := event.type == "fanout.started" && fanoutId event != ""

def startsInstance (id : String) (event : ZfEvent) : Bool := starts event && fanoutId event == id

def startsKey (key : String) (event : ZfEvent) : Bool := starts event && startedKey event == key

/-- The instance of the last start with this logical key. -/
def lastStarted (log : Log) (key : String) : Option String :=
  (log.reverse.find? (startsKey key)).map fanoutId

/-- All starts of one fanout id carry the same scope. -/
def Consistent (log : Log) : Prop :=
  ∀ first ∈ log, ∀ second ∈ log, starts first = true → starts second = true →
    fanoutId first = fanoutId second → startedScope first = startedScope second

instance (log : Log) : Decidable (Consistent log) :=
  inferInstanceAs (Decidable (∀ first ∈ log, ∀ second ∈ log, _ → _ → _ → _))

/-- What came after the last start of an instance. -/
def sinceStart (log : Log) (id : String) : Log := Recency.sinceLast (startsInstance id) log

/-- What came after the last start of an instance and before its key was started again. -/
def liveWindow (log : Log) (id key : String) : Log :=
  (sinceStart log id).takeWhile fun event => !startsKey key event

/-- An event of one instance of one of these types. -/
def concerns (types : List String) (id : String) (event : ZfEvent) : Bool :=
  decide (event.type ∈ types) && fanoutId event == id

def liveChildEvents (log : Log) (id key : String) : List EventRef :=
  ((liveWindow log id key).filter (concerns childEventTypes id)).map fun event =>
    eventRef event (childId event) ""

def liveAggregateEvents (log : Log) (id key : String) : List EventRef :=
  ((liveWindow log id key).filter (concerns aggregateEventTypes id)).map fun event =>
    eventRef event "" ""

theorem lastStarted_append (log : Log) (event : ZfEvent) (key : String) :
    lastStarted (log ++ [event]) key =
      if startsKey key event then some (fanoutId event) else lastStarted log key := by
  unfold lastStarted
  rw [List.reverse_append, List.reverse_singleton, List.singleton_append, List.find?_cons]
  cases startsKey key event <;> rfl

theorem sinceStart_append (log : Log) (event : ZfEvent) (id : String) :
    sinceStart (log ++ [event]) id =
      if startsInstance id event then [] else sinceStart log id ++ [event] :=
  Recency.sinceLast_append _ log event

theorem Consistent.initial {log : Log} {event : ZfEvent}
    (consistent : Consistent (log ++ [event])) :
    Consistent log := by
  intro first firstMember second secondMember
  exact consistent first (List.mem_append_left _ firstMember) second
    (List.mem_append_left _ secondMember)

/-! ## The registry after part of the log -/

structure Tracks (log : Log) (registry : Registry) : Prop where
  named : ∀ id identity, registry.identities.get? id = some identity →
    identity.fanoutId = id ∧
      ∃ event ∈ log, startsInstance id event = true ∧ startedKey event = identity.logicalKey
  started : ∀ event ∈ log, starts event = true →
    ∃ identity, registry.identities.get? (fanoutId event) = some identity
  chosen : ∀ key, registry.currentByKey.get? key = lastStarted log key
  current : ∀ id identity, registry.identities.get? id = some identity →
    (identity.current = true ↔ lastStarted log identity.logicalKey = some id)
  window : ∀ id identity, registry.identities.get? id = some identity →
    (identity.current = true ↔
      ∀ event ∈ sinceStart log id, startsKey identity.logicalKey event = false)
  children : ∀ id identity, registry.identities.get? id = some identity →
    identity.childEvents = liveChildEvents log id identity.logicalKey
  aggregates : ∀ id identity, registry.identities.get? id = some identity →
    identity.aggregateEvents = liveAggregateEvents log id identity.logicalKey
  successor : ∀ id identity, registry.identities.get? id = some identity →
    identity.current = false → ∃ next, registry.identities.get? identity.supersededBy = some next ∧
      next.logicalKey = identity.logicalKey ∧
      (sinceStart log identity.supersededBy).length < (sinceStart log id).length

theorem tracks_empty : Tracks [] {} := by
  constructor
  case chosen => exact fun key => rfl
  case started => exact fun event impossible => nomatch impossible
  all_goals
    intro id identity impossible
    cases impossible

/-! ## An event that starts nothing -/

/-- What an event that starts nothing may change about an instance. -/
structure Noted (event : ZfEvent) (id : String) (before after : FanoutIdentity) : Prop where
  fanoutId : after.fanoutId = before.fanoutId
  logicalKey : after.logicalKey = before.logicalKey
  current : after.current = before.current
  supersededBy : after.supersededBy = before.supersededBy
  children : after.childEvents = before.childEvents ++
    if before.current && concerns childEventTypes id event then
      [eventRef event (childId event) ""] else []
  aggregates : after.aggregateEvents = before.aggregateEvents ++
    if before.current && concerns aggregateEventTypes id event then
      [eventRef event "" ""] else []

theorem Noted.refl {event : ZfEvent} {id : String} {identity : FanoutIdentity}
    (children : identity.current = true → concerns childEventTypes id event = false)
    (aggregates : identity.current = true → concerns aggregateEventTypes id event = false) :
    Noted event id identity identity := by
  constructor <;> try rfl
  · cases current : identity.current with
    | false => simp
    | true => simp [children current]
  · cases current : identity.current with
    | false => simp
    | true => simp [aggregates current]

theorem not_concerns_of_other {types : List String} {id : String} {event : ZfEvent}
    (other : fanoutId event ≠ id) : concerns types id event = false := by
  simp [concerns, other]

theorem not_concerns_of_type {types : List String} {id : String} {event : ZfEvent}
    (other : event.type ∉ types) : concerns types id event = false := by
  simp [concerns, other]

theorem child_not_aggregate : ∀ kind ∈ childEventTypes, kind ∉ aggregateEventTypes := by decide

theorem noteOf_noted {registry : Registry} {event : ZfEvent} {identity : FanoutIdentity}
    (found : registry.identities.get? (fanoutId event) = some identity)
    (own : identity.fanoutId = fanoutId event) :
    (registry.noteOf event identity).currentByKey = registry.currentByKey ∧
      ∃ after, Noted event (fanoutId event) identity after ∧
        ∀ id, (registry.noteOf event identity).identities.get? id =
          if id = fanoutId event then some after else registry.identities.get? id := by
  have filed (after : FanoutIdentity) (id : String) :
      (registry.identities.insert identity.fanoutId after).get? id =
        if id = fanoutId event then some after else registry.identities.get? id := by
    rw [Dict.get?_insert, own]
  unfold Registry.noteOf
  split
  · rename_i stale
    refine ⟨rfl, _, ?_, filed _⟩
    have quiet : Noted event (fanoutId event) identity identity :=
      Noted.refl (fun _ => not_concerns_of_type (by rw [stale]; decide))
        (fun _ => not_concerns_of_type (by rw [stale]; decide))
    exact ⟨rfl, rfl, rfl, rfl, quiet.children, quiet.aggregates⟩
  split
  · rename_i superseded
    refine ⟨rfl, _, ?_, filed _⟩
    have quiet : Noted event (fanoutId event) identity identity :=
      Noted.refl (fun current => by rw [superseded] at current; cases current)
        (fun current => by rw [superseded] at current; cases current)
    exact ⟨rfl, rfl, rfl, rfl, quiet.children, quiet.aggregates⟩
  rename_i notStale current
  have isCurrent : identity.current = true := by simpa using current
  split
  · rename_i child
    refine ⟨rfl, _, ?_, filed _⟩
    have other : concerns aggregateEventTypes (fanoutId event) event = false :=
      not_concerns_of_type (child_not_aggregate _ child)
    refine ⟨rfl, rfl, rfl, rfl, ?_, ?_⟩
    · simp [isCurrent, concerns, child]
    · simp [other]
  split
  · rename_i notChild aggregate
    refine ⟨rfl, _, ?_, filed _⟩
    have other : concerns childEventTypes (fanoutId event) event = false :=
      not_concerns_of_type notChild
    refine ⟨rfl, rfl, rfl, rfl, ?_, ?_⟩
    · simp [other]
    · simp [isCurrent, concerns, aggregate]
  · rename_i notChild notAggregate
    refine ⟨rfl, identity, ?_, ?_⟩
    · exact Noted.refl (fun _ => not_concerns_of_type notChild)
        (fun _ => not_concerns_of_type notAggregate)
    · intro id
      split
      · rename_i same
        rw [same, found]
      · rfl

/-- An event that starts nothing leaves the keys alone and extends the lists of
its own instance only. -/
theorem note_noted {registry : Registry} {event : ZfEvent} (silent : starts event = false)
    (named : ∀ id identity, registry.identities.get? id = some identity →
      identity.fanoutId = id ∧ id ≠ "") :
    (registry.note event).currentByKey = registry.currentByKey ∧
      ∀ id, (registry.identities.get? id = none ∧ (registry.note event).identities.get? id = none) ∨
        ∃ before after, registry.identities.get? id = some before ∧
          (registry.note event).identities.get? id = some after ∧ Noted event id before after := by
  have still (noted : Registry) (same : noted.identities = registry.identities)
      (quiet : ∀ id identity, registry.identities.get? id = some identity →
        Noted event id identity identity) :
      ∀ id, (registry.identities.get? id = none ∧ noted.identities.get? id = none) ∨
        ∃ before after, registry.identities.get? id = some before ∧
          noted.identities.get? id = some after ∧ Noted event id before after := by
    intro id
    rw [same]
    cases found : registry.identities.get? id with
    | none => exact Or.inl ⟨rfl, rfl⟩
    | some identity => exact Or.inr ⟨identity, identity, rfl, rfl, quiet id identity found⟩
  unfold Registry.note
  split
  · rename_i foreign
    refine ⟨rfl, still registry rfl fun id identity _ => ?_⟩
    simp only [fanoutIdentityEventTypes, List.mem_cons, List.mem_append, not_or] at foreign
    exact Noted.refl (fun _ => not_concerns_of_type foreign.2.2.1)
      (fun _ => not_concerns_of_type foreign.2.2.2)
  split
  · rename_i anonymous
    refine ⟨rfl, still _ rfl fun id identity found => ?_⟩
    have other : fanoutId event ≠ id := by
      rw [anonymous]
      exact (named id identity found).2.symm
    exact Noted.refl (fun _ => not_concerns_of_other other) (fun _ => not_concerns_of_other other)
  rename_i identified
  split
  · rename_i started
    simp [starts, started, identified] at silent
  split
  · rename_i missing
    refine ⟨rfl, still _ rfl fun id identity found => ?_⟩
    have other : fanoutId event ≠ id := by
      rintro rfl
      rw [missing] at found
      cases found
    exact Noted.refl (fun _ => not_concerns_of_other other) (fun _ => not_concerns_of_other other)
  · rename_i identity found
    obtain ⟨keys, after, noted, entries⟩ :=
      noteOf_noted found (named _ identity found).1
    refine ⟨keys, ?_⟩
    intro id
    rw [entries]
    by_cases own : id = fanoutId event
    · subst own
      rw [if_pos rfl]
      exact Or.inr ⟨identity, after, found, rfl, noted⟩
    · rw [if_neg own]
      cases present : registry.identities.get? id with
      | none => exact Or.inl ⟨rfl, rfl⟩
      | some held =>
          have other : fanoutId event ≠ id := fun same => own same.symm
          exact Or.inr ⟨held, held, rfl, rfl, Noted.refl (fun _ => not_concerns_of_other other)
            (fun _ => not_concerns_of_other other)⟩

/-- The live events of a grown log: the new event is among them when the window
was still open. -/
theorem filter_liveWindow_append {log : Log} {event : ZfEvent} {id : String} (key : String)
    (later : startsInstance id event = false) (kept : ZfEvent → Bool) :
    (liveWindow (log ++ [event]) id key).filter kept =
      (liveWindow log id key).filter kept ++
        if (∀ other ∈ sinceStart log id, startsKey key other = false) ∧
            startsKey key event = false ∧ kept event = true then [event] else [] := by
  unfold liveWindow
  rw [sinceStart_append, later, if_neg Bool.false_ne_true,
    Recency.takeWhile_append_singleton]
  have quiet : (∀ other ∈ sinceStart log id, (!startsKey key other) = true) ↔
      ∀ other ∈ sinceStart log id, startsKey key other = false := by
    simp only [Bool.not_eq_true']
  by_cases open_ : ∀ other ∈ sinceStart log id, startsKey key other = false
  · rw [if_pos (quiet.mpr open_), List.takeWhile_eq_self_iff.mpr (quiet.mpr open_)]
    rw [if_congr (and_iff_right open_) rfl rfl]
    cases same : startsKey key event with
    | true => simp
    | false =>
        cases wanted : kept event with
        | true => simp [wanted]
        | false => simp [wanted]
  · rw [if_neg (fun all => open_ (quiet.mp all)), if_neg (fun both => open_ both.1),
      List.append_nil]

theorem startsKey_of_silent {event : ZfEvent} (silent : starts event = false) (key : String) :
    startsKey key event = false := by
  simp [startsKey, silent]

theorem startsInstance_of_silent {event : ZfEvent} (silent : starts event = false) (id : String) :
    startsInstance id event = false := by
  simp [startsInstance, silent]

theorem id_filled {event : ZfEvent} {id : String} (started : startsInstance id event = true) :
    fanoutId event = id ∧ starts event = true ∧ id ≠ "" := by
  simp only [startsInstance, starts, Bool.and_eq_true, beq_iff_eq, bne_iff_ne] at started ⊢
  obtain ⟨⟨type, filled⟩, rfl⟩ := started
  exact ⟨rfl, ⟨type, filled⟩, filled⟩

theorem Tracks.silent {log : Log} {registry : Registry} (tracks : Tracks log registry)
    {event : ZfEvent} (silent : starts event = false) :
    Tracks (log ++ [event]) (registry.note event) := by
  obtain ⟨keys, entries⟩ := note_noted silent fun id identity found => by
    obtain ⟨own, start, _, started, _⟩ := tracks.named id identity found
    exact ⟨own, (id_filled started).2.2⟩
  have last (key : String) : lastStarted (log ++ [event]) key = lastStarted log key := by
    rw [lastStarted_append, startsKey_of_silent silent, if_neg Bool.false_ne_true]
  have since (id : String) : sinceStart (log ++ [event]) id = sinceStart log id ++ [event] := by
    rw [sinceStart_append, startsInstance_of_silent silent, if_neg Bool.false_ne_true]
  have before {id : String} {after : FanoutIdentity}
      (found : (registry.note event).identities.get? id = some after) :
      ∃ before, registry.identities.get? id = some before ∧ Noted event id before after := by
    rcases entries id with ⟨_, none⟩ | ⟨before, other, present, noted, same⟩
    · rw [none] at found
      cases found
    · rw [found] at noted
      cases noted
      exact ⟨before, present, same⟩
  have after {id : String} {before : FanoutIdentity}
      (found : registry.identities.get? id = some before) :
      ∃ after, (registry.note event).identities.get? id = some after ∧
        Noted event id before after := by
    rcases entries id with ⟨none, _⟩ | ⟨other, after, present, noted, same⟩
    · rw [none] at found
      cases found
    · rw [found] at present
      cases present
      exact ⟨after, noted, same⟩
  constructor
  case named =>
    intro id identity found
    obtain ⟨old, present, noted⟩ := before found
    obtain ⟨own, start, member, started, key⟩ := tracks.named id old present
    exact ⟨noted.fanoutId.trans own, start, List.mem_append_left _ member, started,
      key.trans noted.logicalKey.symm⟩
  case started =>
    intro start member begins
    rcases List.mem_append.mp member with earlier | now
    · obtain ⟨old, present⟩ := tracks.started start earlier begins
      obtain ⟨identity, found, _⟩ := after present
      exact ⟨identity, found⟩
    · rw [List.mem_singleton.mp now, silent] at begins
      cases begins
  case chosen =>
    intro key
    rw [keys, last]
    exact tracks.chosen key
  case current =>
    intro id identity found
    obtain ⟨old, present, noted⟩ := before found
    rw [noted.current, noted.logicalKey, last]
    exact tracks.current id old present
  case window =>
    intro id identity found
    obtain ⟨old, present, noted⟩ := before found
    rw [noted.current, noted.logicalKey, since, tracks.window id old present]
    simp [startsKey_of_silent silent, or_imp, forall_and]
  case children =>
    intro id identity found
    obtain ⟨old, present, noted⟩ := before found
    rw [noted.children, noted.logicalKey, tracks.children id old present, liveChildEvents,
      liveChildEvents, filter_liveWindow_append _ (startsInstance_of_silent silent id),
      List.map_append]
    congr 1
    simp only [← tracks.window id old present, startsKey_of_silent silent, true_and,
      Bool.and_eq_true]
    split <;> rfl
  case aggregates =>
    intro id identity found
    obtain ⟨old, present, noted⟩ := before found
    rw [noted.aggregates, noted.logicalKey, tracks.aggregates id old present,
      liveAggregateEvents, liveAggregateEvents,
      filter_liveWindow_append _ (startsInstance_of_silent silent id), List.map_append]
    congr 1
    simp only [← tracks.window id old present, startsKey_of_silent silent, true_and,
      Bool.and_eq_true]
    split <;> rfl
  case successor =>
    intro id identity found stale
    obtain ⟨old, present, noted⟩ := before found
    rw [noted.current] at stale
    obtain ⟨next, nextFound, sameKey, younger⟩ := tracks.successor id old present stale
    obtain ⟨nextAfter, nextAfterFound, nextNoted⟩ := after nextFound
    refine ⟨nextAfter, by rw [noted.supersededBy]; exact nextAfterFound, ?_, ?_⟩
    · rw [nextNoted.logicalKey, noted.logicalKey, sameKey]
    · rw [noted.supersededBy, since, since, List.length_append, List.length_append]
      omega

/-! ## A start -/

theorem start_entries (registry : Registry) (event : ZfEvent) (id : String) :
    (registry.start event).identities.get? id =
      if id = fanoutId event then some (identityFromStarted event)
      else if registry.currentByKey.get? (startedKey event) = some id then
        (registry.identities.get? id).map fun previous => previous.superseded (fanoutId event)
      else registry.identities.get? id := by
  unfold Registry.start
  dsimp only
  rw [Dict.get?_insert]
  change (if id = fanoutId event then _ else _) = _
  by_cases own : id = fanoutId event
  · rw [if_pos own, if_pos own]
  rw [if_neg own, if_neg own]
  change (match (registry.currentByKey.get? (startedKey event)).bind _ with
    | none => registry.identities
    | some (previousId, previous) =>
        registry.identities.insert previousId
          (FanoutIdentity.superseded previous (fanoutId event))).get? id = _
  cases chosen : registry.currentByKey.get? (startedKey event) with
  | none => simp
  | some previousId =>
      rw [Option.bind_some]
      cases present : registry.identities.get? previousId with
      | none =>
          rw [Option.map_none]
          by_cases same : previousId = id
          · subst same
            simp [present]
          · simp [same]
      | some previous =>
          rw [Option.map_some]
          dsimp only
          rw [Dict.get?_insert]
          by_cases same : id = previousId
          · subst same
            simp [present]
          · rw [if_neg same, if_neg fun other => same (Option.some.inj other).symm]

theorem note_of_starts {registry : Registry} {event : ZfEvent} (begins : starts event = true) :
    registry.note event = registry.start event := by
  simp only [starts, Bool.and_eq_true, beq_iff_eq, bne_iff_ne] at begins
  unfold Registry.note
  rw [if_neg (by rw [begins.1]; decide), if_neg begins.2, if_pos begins.1]

/-- Whatever start of an instance is looked at, it names the key of the instance. -/
theorem Tracks.key_eq {log seen : Log} {registry : Registry} (tracks : Tracks log registry)
    (consistent : Consistent seen) (within : ∀ event ∈ log, event ∈ seen)
    {id : String} {identity : FanoutIdentity}
    (found : registry.identities.get? id = some identity) {event : ZfEvent}
    (member : event ∈ seen) (started : startsInstance id event = true) :
    startedKey event = identity.logicalKey := by
  obtain ⟨_, start, startMember, startStarted, key⟩ := tracks.named id identity found
  obtain ⟨sameId, begins, _⟩ := id_filled started
  obtain ⟨startId, startBegins, _⟩ := id_filled startStarted
  have scopes := consistent event member start (within start startMember) begins startBegins
    (sameId.trans startId.symm)
  rw [← key]
  exact congrArg logicalKey scopes

theorem exists_of_lastStarted {log : Log} {key id : String} (last : lastStarted log key = some id) :
    ∃ event ∈ log, startsKey key event = true ∧ fanoutId event = id := by
  obtain ⟨event, found, same⟩ := Option.map_eq_some_iff.mp last
  exact ⟨event, List.mem_reverse.mp (List.mem_of_find?_eq_some found), List.find?_some found, same⟩

/-- The instance that a key leads to has that key. -/
theorem Tracks.key_of_chosen {log : Log} {registry : Registry} (tracks : Tracks log registry)
    (consistent : Consistent log) {key id : String} {identity : FanoutIdentity}
    (chosen : registry.currentByKey.get? key = some id)
    (found : registry.identities.get? id = some identity) : identity.logicalKey = key := by
  rw [tracks.chosen] at chosen
  obtain ⟨event, member, started, rfl⟩ := exists_of_lastStarted chosen
  simp only [startsKey, Bool.and_eq_true, beq_iff_eq] at started
  rw [← started.2]
  exact (tracks.key_eq consistent (fun _ here => here) found member
    (by simp [startsInstance, started.1])).symm

/-- What a start makes of an instance: it is the started one, or it loses the place of its
key to the started one, or it stays as it was. -/
inductive AfterStart (registry : Registry) (event : ZfEvent) (id : String) :
    FanoutIdentity → Prop where
  | started (own : id = fanoutId event) :
      AfterStart registry event id (identityFromStarted event)
  | superseded {old : FanoutIdentity} (other : id ≠ fanoutId event)
      (present : registry.identities.get? id = some old)
      (key : old.logicalKey = startedKey event) :
      AfterStart registry event id (old.superseded (fanoutId event))
  | kept {old : FanoutIdentity} (other : id ≠ fanoutId event)
      (present : registry.identities.get? id = some old)
      (apart : old.current = true → old.logicalKey ≠ startedKey event) :
      AfterStart registry event id old

section Start

variable {log : Log} {registry : Registry} {event : ZfEvent} {id : String}
  {identity : FanoutIdentity}

theorem Tracks.afterStart (tracks : Tracks log registry) (consistent : Consistent log)
    (found : (registry.start event).identities.get? id = some identity) :
    AfterStart registry event id identity := by
  rw [start_entries] at found
  by_cases own : id = fanoutId event
  · rw [if_pos own] at found
    cases found
    exact .started own
  rw [if_neg own] at found
  split at found
  · rename_i chosen
    obtain ⟨old, present, rfl⟩ := Option.map_eq_some_iff.mp found
    exact .superseded own present (tracks.key_of_chosen consistent chosen present)
  · rename_i unchosen
    refine .kept own found fun current key => unchosen ?_
    rw [tracks.chosen, ← key]
    exact (tracks.current id identity found).mp current

theorem startsKey_of_starts (begins : starts event = true) (key : String) :
    startsKey key event = decide (startedKey event = key) := by
  simp [startsKey, begins, beq_eq_decide]

theorem startsInstance_of_starts (begins : starts event = true) :
    startsInstance (fanoutId event) event = true := by
  simp [startsInstance, begins]

theorem sinceStart_started (begins : starts event = true) :
    sinceStart (log ++ [event]) (fanoutId event) = [] := by
  rw [sinceStart_append, startsInstance_of_starts begins, if_pos rfl]

theorem startsInstance_of_ne (other : id ≠ fanoutId event) : startsInstance id event = false := by
  simp [startsInstance, Ne.symm other]

theorem sinceStart_older (other : id ≠ fanoutId event) :
    sinceStart (log ++ [event]) id = sinceStart log id ++ [event] := by
  rw [sinceStart_append, startsInstance_of_ne other, if_neg Bool.false_ne_true]

theorem Tracks.named_start (tracks : Tracks log registry) (begins : starts event = true)
    (after : AfterStart registry event id identity) :
    identity.fanoutId = id ∧ ∃ start ∈ log ++ [event],
      startsInstance id start = true ∧ startedKey start = identity.logicalKey := by
  cases after with
  | started own =>
      rw [own]
      exact ⟨rfl, event, List.mem_append_right _ List.mem_cons_self,
        startsInstance_of_starts begins, rfl⟩
  | superseded _ present _ | kept _ present _ =>
      obtain ⟨own, start, member, started, key⟩ := tracks.named id _ present
      exact ⟨own, start, List.mem_append_left _ member, started, key⟩

theorem Tracks.started_start (tracks : Tracks log registry) {start : ZfEvent}
    (member : start ∈ log ++ [event]) (begins : starts start = true) :
    ∃ identity, (registry.start event).identities.get? (fanoutId start) = some identity := by
  rw [start_entries]
  by_cases own : fanoutId start = fanoutId event
  · exact ⟨_, if_pos own⟩
  rw [if_neg own]
  rcases List.mem_append.mp member with earlier | here
  · obtain ⟨old, present⟩ := tracks.started start earlier begins
    split
    · exact ⟨_, by rw [present]; rfl⟩
    · exact ⟨old, present⟩
  · exact absurd (congrArg fanoutId (List.mem_singleton.mp here)) own

theorem Tracks.chosen_start (tracks : Tracks log registry) (begins : starts event = true)
    (key : String) :
    (registry.start event).currentByKey.get? key = lastStarted (log ++ [event]) key := by
  change (registry.currentByKey.insert (startedKey event) (fanoutId event)).get? key = _
  rw [Dict.get?_insert, lastStarted_append, startsKey_of_starts begins, tracks.chosen]
  by_cases same : key = startedKey event
  · simp [same]
  · simp [same, Ne.symm same]

theorem Tracks.current_start (tracks : Tracks log registry) (begins : starts event = true)
    (after : AfterStart registry event id identity) :
    identity.current = true ↔ lastStarted (log ++ [event]) identity.logicalKey = some id := by
  rw [lastStarted_append, startsKey_of_starts begins]
  cases after with
  | started own => simp [identityFromStarted, own]
  | superseded other _ key => simp [FanoutIdentity.superseded, key, Ne.symm other]
  | kept other present apart =>
      by_cases key : startedKey event = identity.logicalKey
      · simp only [key, decide_true, if_true]
        refine iff_of_false (fun current => apart current key.symm) ?_
        exact fun same => other (Option.some.inj same).symm
      · simp only [key, decide_false, Bool.false_eq_true, if_false]
        exact tracks.current id identity present

theorem Tracks.window_start (tracks : Tracks log registry) (begins : starts event = true)
    (after : AfterStart registry event id identity) :
    identity.current = true ↔
      ∀ later ∈ sinceStart (log ++ [event]) id, startsKey identity.logicalKey later = false := by
  cases after with
  | started own =>
      rw [own, sinceStart_started begins]
      simp [identityFromStarted]
  | superseded other _ key =>
      rw [sinceStart_older other]
      simp [FanoutIdentity.superseded, key, startsKey_of_starts begins]
  | kept other present apart =>
      rw [sinceStart_older other, List.forall_mem_append, List.forall_mem_singleton,
        ← tracks.window id identity present, startsKey_of_starts begins, decide_eq_false_iff_not]
      exact (and_iff_left_of_imp fun current key => apart current key.symm).symm

/-- The live events of the started instance are none, and those of another one stay. -/
theorem filter_liveWindow_start (begins : starts event = true) (key : String)
    {types : List String} (foreign : "fanout.started" ∉ types) :
    (liveWindow (log ++ [event]) id key).filter (concerns types id) =
      if id = fanoutId event then []
      else (liveWindow log id key).filter (concerns types id) := by
  by_cases own : id = fanoutId event
  · rw [if_pos own, own, liveWindow, sinceStart_started begins]
    rfl
  · have unconcerned : concerns types id event = false := by
      simp only [starts, Bool.and_eq_true, beq_iff_eq] at begins
      exact not_concerns_of_type (by rw [begins.1]; exact foreign)
    rw [if_neg own, filter_liveWindow_append key (startsInstance_of_ne own), if_neg,
      List.append_nil]
    rintro ⟨_, _, wanted⟩
    rw [unconcerned] at wanted
    cases wanted

theorem Tracks.children_start (tracks : Tracks log registry) (begins : starts event = true)
    (after : AfterStart registry event id identity) :
    identity.childEvents = liveChildEvents (log ++ [event]) id identity.logicalKey := by
  rw [liveChildEvents, filter_liveWindow_start begins _ (by decide)]
  cases after with
  | started own => rw [if_pos own]; rfl
  | superseded other present _ | kept other present _ =>
      rw [if_neg other]
      exact (tracks.children id _ present :)

theorem Tracks.aggregates_start (tracks : Tracks log registry) (begins : starts event = true)
    (after : AfterStart registry event id identity) :
    identity.aggregateEvents = liveAggregateEvents (log ++ [event]) id identity.logicalKey := by
  rw [liveAggregateEvents, filter_liveWindow_start begins _ (by decide)]
  cases after with
  | started own => rw [if_pos own]; rfl
  | superseded other present _ | kept other present _ =>
      rw [if_neg other]
      exact (tracks.aggregates id _ present :)

/-- A superseded instance leads to the started one, or to where it led before. -/
theorem Tracks.successor_start (tracks : Tracks log registry) (begins : starts event = true)
    (consistent : Consistent (log ++ [event])) (after : AfterStart registry event id identity)
    (stale : identity.current = false) :
    ∃ next, (registry.start event).identities.get? identity.supersededBy = some next ∧
      next.logicalKey = identity.logicalKey ∧
      (sinceStart (log ++ [event]) identity.supersededBy).length <
        (sinceStart (log ++ [event]) id).length := by
  cases after with
  | started own => cases stale
  | superseded other present key =>
      refine ⟨identityFromStarted event, ?_, key.symm, ?_⟩
      · rw [start_entries]
        exact if_pos rfl
      · change (sinceStart (log ++ [event]) (fanoutId event)).length < _
        rw [sinceStart_started begins, sinceStart_older other, List.length_append]
        exact Nat.succ_pos _
  | kept other present apart =>
      obtain ⟨next, nextFound, sameKey, younger⟩ := tracks.successor id identity present stale
      rw [start_entries, sinceStart_older other]
      by_cases own : identity.supersededBy = fanoutId event
      · refine ⟨identityFromStarted event, if_pos own, ?_, ?_⟩
        · rw [← sameKey]
          exact tracks.key_eq consistent (fun _ here => List.mem_append_left _ here) nextFound
            (List.mem_append_right _ List.mem_cons_self)
            (by rw [own]; exact startsInstance_of_starts begins)
        · rw [own, sinceStart_started begins, List.length_append]
          exact Nat.succ_pos _
      · rw [if_neg own, sinceStart_older own, List.length_append, List.length_append]
        split
        · exact ⟨next.superseded (fanoutId event), by rw [nextFound]; rfl, sameKey, by omega⟩
        · exact ⟨next, nextFound, sameKey, by omega⟩

theorem Tracks.start (tracks : Tracks log registry) (begins : starts event = true)
    (consistent : Consistent (log ++ [event])) :
    Tracks (log ++ [event]) (registry.start event) := by
  have after {id : String} {identity : FanoutIdentity}
      (found : (registry.start event).identities.get? id = some identity) :
      AfterStart registry event id identity := tracks.afterStart consistent.initial found
  exact {
    named := fun _ _ found => tracks.named_start begins (after found)
    started := fun _ member => tracks.started_start member
    chosen := tracks.chosen_start begins
    current := fun _ _ found => tracks.current_start begins (after found)
    window := fun _ _ found => tracks.window_start begins (after found)
    children := fun _ _ found => tracks.children_start begins (after found)
    aggregates := fun _ _ found => tracks.aggregates_start begins (after found)
    successor := fun _ _ found => tracks.successor_start begins consistent (after found) }

end Start

/-! ## The whole log -/

theorem tracks_registryOf {log : Log} (consistent : Consistent log) :
    Tracks log (registryOf log) := by
  induction log using List.reverseRecOn with
  | nil => exact tracks_empty
  | append_singleton log event ih =>
      have tracks := ih consistent.initial
      have appended : registryOf (log ++ [event]) = (registryOf log).note event := by
        unfold registryOf
        rw [List.foldl_append]
        rfl
      rw [appended]
      cases begins : starts event with
      | false => exact tracks.silent begins
      | true =>
          rw [note_of_starts begins]
          exact tracks.start begins consistent

/-! ## The listed instances -/

theorem mem_instances (log : Log) (identity : FanoutIdentity) :
    identity ∈ (buildFanoutIdentityProjection log).instances ↔
      ∃ id, (registryOf log).identities.get? id = some identity :=
  (Sorting.mem_sortedBy _ _ _).trans (Dict.mem_values_iff _ _)

theorem instances_nodup {log : Log} (consistent : Consistent log) :
    ((buildFanoutIdentityProjection log).instances.map FanoutIdentity.fanoutId).Nodup := by
  have tracks := tracks_registryOf consistent
  apply ((Sorting.sortedBy_perm listingKey _).map _).nodup_iff.mpr
  have ids : (registryOf log).identities.values.map FanoutIdentity.fanoutId =
      (registryOf log).identities.keys := by
    unfold Dict.values Dict.keys
    rw [List.map_map]
    apply List.map_congr_left
    intro entry member
    exact (tracks.named entry.1 entry.2 ((Dict.get?_eq_some_iff _ _ _).mpr member)).1
  rw [ids]
  exact (registryOf log).identities.nodupKeys

theorem eq_toList {α : Type} {items : List α} {only : Option α} (distinct : items.Nodup)
    (members : ∀ item, item ∈ items ↔ only = some item) : items = only.toList := by
  cases only with
  | none =>
      apply List.eq_nil_iff_forall_not_mem.mpr
      intro item member
      cases (members item).mp member
  | some chosen =>
      apply List.perm_singleton.mp
      apply (List.perm_ext_iff_of_nodup distinct (List.nodup_singleton chosen)).mpr
      intro item
      rw [members, List.mem_singleton, Option.some.injEq, eq_comm]

/-- The current instance of a key is the one of the last start with that key. -/
theorem current_of_key {log : Log} (consistent : Consistent log) (key : String) :
    (((buildFanoutIdentityProjection log).instances.filter fun identity =>
        decide (identity.logicalKey = key) && identity.current).map FanoutIdentity.fanoutId) =
      (lastStarted log key).toList := by
  have tracks := tracks_registryOf consistent
  apply eq_toList
  · exact (instances_nodup consistent).sublist (List.filter_sublist.map _)
  intro id
  simp only [List.mem_map, List.mem_filter, mem_instances, Bool.and_eq_true, decide_eq_true_eq]
  constructor
  · rintro ⟨identity, ⟨⟨other, found⟩, rfl, current⟩, rfl⟩
    rw [(tracks.named other identity found).1]
    exact (tracks.current other identity found).mp current
  · intro last
    obtain ⟨event, member, started, rfl⟩ := exists_of_lastStarted last
    simp only [startsKey, Bool.and_eq_true, beq_iff_eq] at started
    obtain ⟨identity, found⟩ := tracks.started event member started.1
    have chosen := last
    rw [← tracks.chosen] at chosen
    have sameKey := tracks.key_of_chosen consistent chosen found
    refine ⟨identity, ⟨⟨_, found⟩, sameKey, ?_⟩, (tracks.named _ _ found).1⟩
    rw [tracks.current _ identity found, sameKey]
    exact last

/-- One step along `superseded_by`. -/
def SupersededBy (first second : FanoutIdentity) : Prop :=
  first.current = false ∧ first.supersededBy = second.fanoutId

/-- The way from an instance along `superseded_by` to a current instance. -/
structure Succession (log : Log) (start : FanoutIdentity) (path : List FanoutIdentity) : Prop where
  first : path.head? = some start
  listed : ∀ identity ∈ path, identity ∈ (buildFanoutIdentityProjection log).instances
  linked : path.IsChain SupersededBy
  ends : ∃ last, path.getLast? = some last ∧ last.current = true ∧
    last.logicalKey = start.logicalKey
  distinct : (path.map FanoutIdentity.fanoutId).Nodup

theorem succession_of_age {log : Log} (consistent : Consistent log) (age : Nat) :
    ∀ identity, (registryOf log).identities.get? identity.fanoutId = some identity →
      (sinceStart log identity.fanoutId).length ≤ age →
        ∃ path, Succession log identity path ∧
          ∀ other ∈ path, (sinceStart log other.fanoutId).length ≤
            (sinceStart log identity.fanoutId).length := by
  have tracks := tracks_registryOf consistent
  have alone {identity : FanoutIdentity}
      (found : (registryOf log).identities.get? identity.fanoutId = some identity)
      (current : identity.current = true) :
      ∃ path, Succession log identity path ∧
        ∀ other ∈ path, (sinceStart log other.fanoutId).length ≤
          (sinceStart log identity.fanoutId).length := by
    refine ⟨[identity], ⟨rfl, ?_, List.isChain_singleton _, ⟨identity, rfl, current, rfl⟩,
      List.nodup_singleton _⟩, ?_⟩
    · intro other member
      rw [List.mem_singleton.mp member]
      exact (mem_instances log identity).mpr ⟨_, found⟩
    · intro other member
      rw [List.mem_singleton.mp member]
  induction age with
  | zero =>
      intro identity found young
      cases current : identity.current with
      | true => exact alone found current
      | false =>
          obtain ⟨_, _, _, younger⟩ := tracks.successor _ identity found current
          omega
  | succ age ih =>
      intro identity found young
      cases current : identity.current with
      | true => exact alone found current
      | false =>
          obtain ⟨next, nextFound, sameKey, younger⟩ := tracks.successor _ identity found current
          have nextId : next.fanoutId = identity.supersededBy := (tracks.named _ next nextFound).1
          rw [← nextId] at nextFound younger
          obtain ⟨path, way, ages⟩ := ih next nextFound (by omega)
          refine ⟨identity :: path, ⟨rfl, ?_, ?_, ?_, ?_⟩, ?_⟩
          · exact List.forall_mem_cons.mpr
              ⟨(mem_instances log identity).mpr ⟨_, found⟩, way.listed⟩
          · apply List.isChain_cons.mpr
            refine ⟨?_, way.linked⟩
            intro second isNext
            rw [way.first] at isNext
            cases isNext
            exact ⟨current, nextId.symm⟩
          · obtain ⟨last, isLast, lastCurrent, lastKey⟩ := way.ends
            refine ⟨last, ?_, lastCurrent, lastKey.trans sameKey⟩
            rw [List.getLast?_cons, isLast]
            rfl
          · apply List.nodup_cons.mpr
            refine ⟨?_, way.distinct⟩
            intro member
            obtain ⟨other, otherMember, same⟩ := List.mem_map.mp member
            have bound := ages other otherMember
            rw [same] at bound
            omega
          · refine List.forall_mem_cons.mpr ⟨le_refl _, ?_⟩
            intro other member
            have bound := ages other member
            omega

def fanoutEvent (id type fanout : String) : ZfEvent where
  type := type
  id := id
  ts := "t"
  taskId := some "T1"
  payload := .obj [("fanout_id", .str fanout), ("stage_id", .str "build")]

/-- A fanout is started, superseded, and started again. -/
def restartedLog : Log :=
  [fanoutEvent "e1" "fanout.started" "f1", fanoutEvent "e2" "fanout.child.completed" "f1",
    fanoutEvent "e3" "fanout.started" "f2", fanoutEvent "e4" "fanout.child.completed" "f1",
    fanoutEvent "e5" "fanout.started" "f1", fanoutEvent "e6" "fanout.child.completed" "f1"]

end ZaofuFormal.Fanout
