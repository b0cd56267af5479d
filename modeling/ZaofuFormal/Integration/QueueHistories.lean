import ZaofuFormal.Fanout.Currentness
import ZaofuFormal.Foundation.Runs
import ZaofuFormal.Integration.Queue

/-!
# Histories of the integration queue

Statuses follow the table of transitions in every pass.  An entry that is
integrated or discarded keeps its status and its number of retries, while the
payload of a later event is merged into it before its move is refused; it stays
as it is exactly when no later event carries anything new.  Repeated events
leave the entries alone as long as they do not change which fanout instances
are current.
-/

namespace ZaofuFormal.Integration

open Foundation Workflow

theorem orText_eq_first_iff (first second : String) :
    orText first second = first ↔ (first = "" → second = "") := by
  unfold orText
  by_cases empty : first = ""
  · rw [if_pos empty, empty]
    exact ⟨fun same _ => same, fun same => same rfl⟩
  · rw [if_neg empty]
    exact iff_of_true rfl fun same => absurd same empty

theorem orText_eq_second_iff (first second : String) :
    orText first second = second ↔ first = "" ∨ first = second := by
  unfold orText
  by_cases empty : first = ""
  · rw [if_pos empty]
    exact iff_of_true rfl (Or.inl empty)
  · rw [if_neg empty, or_iff_right empty]

theorem empty_notMem_coerceList (value : Json) : "" ∉ coerceList value := by
  cases value with
  | arr items =>
      intro member
      obtain ⟨item, kept, blank⟩ := List.mem_map.mp member
      have filled := (List.mem_filter.mp kept).2
      rw [blank] at filled
      exact absurd filled (by decide +kernel)
  | str text =>
      change "" ∉ if PyString.isBlank text then [] else [PyString.strip text]
      split
      · exact List.not_mem_nil
      · rename_i filled
        rw [List.mem_singleton]
        intro empty
        exact filled (beq_iff_eq.mpr empty.symm)
  | null | bool _ | int _ | float _ _ | obj _ => exact List.not_mem_nil

theorem uniqueStrings_idem (values : List String) :
    uniqueStrings (uniqueStrings values) = uniqueStrings values := by
  unfold uniqueStrings
  have kept : (values.filter fun value => value ≠ "").eraseDups.filter (fun value => value ≠ "") =
      (values.filter fun value => value ≠ "").eraseDups :=
    List.filter_eq_self.mpr fun value member =>
      (List.mem_filter.mp (List.mem_eraseDups.mp member)).2
  rw [kept, Lists.eraseDups_of_nodup (Lists.nodup_eraseDups _)]

/-- A list of different texts stays as it is when nothing new is added. -/
theorem uniqueStrings_append_eq_iff {refs added : List String} (tidy : uniqueStrings refs = refs)
    (filled : "" ∉ added) : uniqueStrings (refs ++ added) = refs ↔ ∀ ref ∈ added, ref ∈ refs := by
  have noBlank : refs.filter (fun value => value ≠ "") = refs := by
    rw [List.filter_eq_self]
    intro value member
    rw [← tidy] at member
    exact (List.mem_filter.mp (List.mem_eraseDups.mp member)).2
  have allFilled : added.filter (fun value => value ≠ "") = added :=
    List.filter_eq_self.mpr fun value member =>
      decide_eq_true fun empty => filled (empty ▸ member)
  have once : refs.eraseDups = refs := by
    rw [uniqueStrings, noBlank] at tidy
    exact tidy
  rw [uniqueStrings, List.filter_append, noBlank, allFilled, List.eraseDups_append, once,
    List.append_right_eq_self]
  constructor
  · intro none ref member
    by_contra missing
    have listed : ref ∈ (added.removeAll refs).eraseDups := by
      rw [List.mem_eraseDups]
      simp [List.removeAll, member, missing]
    rw [none] at listed
    exact List.not_mem_nil listed
  · intro known
    have none : added.removeAll refs = [] := by
      simp only [List.removeAll, List.filter_eq_nil_iff]
      intro ref member
      simp [known ref member]
    rw [none]
    rfl

/-- No move leads out of the status. -/
def QueueStatus.Terminal (status : QueueStatus) : Prop := validTransitions status = []

instance (status : QueueStatus) : Decidable status.Terminal :=
  inferInstanceAs (Decidable (_ = _))

/-- The status stays, or moves along the table. -/
def Follows (first second : QueueStatus) : Prop :=
  second = first ∨ second ∈ validTransitions first

/-- What an integrated or discarded entry should keep. -/
structure FrozenFields where
  status : QueueStatus
  taskId : String
  sourceRef : String
  baseRef : String
  handoffRef : String
  artifactRefs : List String
  verificationRefs : List String
  reason : String
  retryCount : Nat
  deriving DecidableEq

def IntegrationQueueEntry.frozen (entry : IntegrationQueueEntry) : FrozenFields where
  status := entry.status
  taskId := entry.taskId
  sourceRef := entry.sourceRef
  baseRef := entry.baseRef
  handoffRef := entry.handoffRef
  artifactRefs := entry.artifactRefs
  verificationRefs := entry.verificationRefs
  reason := entry.reason
  retryCount := entry.retryCount

/-- The event carries nothing that the entry does not have already. -/
structure NothingNew (entry : IntegrationQueueEntry) (event : ZfEvent) : Prop where
  taskId : entry.taskId = "" → Fanout.eventTaskId event = ""
  sourceRef : entry.sourceRef = "" → sourceRef event.body = ""
  baseRef : entry.baseRef = "" → event.body.textAt "base_ref" = ""
  handoffRef : entry.handoffRef = "" → event.body.textAt "handoff_ref" = ""
  artifactRefs : ∀ ref ∈ artifactRefs event.body, ref ∈ entry.artifactRefs
  verificationRefs : ∀ ref ∈ verificationRefs event.body, ref ∈ entry.verificationRefs
  reason : queueReason event.body = "" ∨ queueReason event.body = entry.reason

instance (entry : IntegrationQueueEntry) (event : ZfEvent) : Decidable (NothingNew entry event) :=
  decidable_of_iff
    ((entry.taskId = "" → Fanout.eventTaskId event = "") ∧
      (entry.sourceRef = "" → sourceRef event.body = "") ∧
      (entry.baseRef = "" → event.body.textAt "base_ref" = "") ∧
      (entry.handoffRef = "" → event.body.textAt "handoff_ref" = "") ∧
      (∀ ref ∈ artifactRefs event.body, ref ∈ entry.artifactRefs) ∧
      (∀ ref ∈ verificationRefs event.body, ref ∈ entry.verificationRefs) ∧
      (queueReason event.body = "" ∨ queueReason event.body = entry.reason))
    ⟨fun ⟨task, source, base, handoff, artifacts, verifications, reason⟩ =>
      ⟨task, source, base, handoff, artifacts, verifications, reason⟩,
    fun quiet => ⟨quiet.taskId, quiet.sourceRef, quiet.baseRef, quiet.handoffRef,
      quiet.artifactRefs, quiet.verificationRefs, quiet.reason⟩⟩

/-- The references of an entry that has been merged are different texts. -/
structure Merged (entry : IntegrationQueueEntry) : Prop where
  artifactRefs : uniqueStrings entry.artifactRefs = entry.artifactRefs
  verificationRefs : uniqueStrings entry.verificationRefs = entry.verificationRefs

/-- Only an entry that still waits may have references that repeat. -/
def Tidy (entry : IntegrationQueueEntry) : Prop := entry.status = .queued ∨ Merged entry

theorem Tidy.merged {entry : IntegrationQueueEntry} (tidy : Tidy entry)
    (terminal : entry.status.Terminal) : Merged entry := by
  refine tidy.resolve_left fun queued => ?_
  rw [queued] at terminal
  exact absurd terminal (by decide)

theorem merged_mergePayload (entry : IntegrationQueueEntry) (event : ZfEvent) :
    Merged (mergePayload entry event) :=
  ⟨uniqueStrings_idem _, uniqueStrings_idem _⟩

/-- A merge keeps the frozen fields exactly when the event carries nothing new. -/
theorem frozen_mergePayload_iff {entry : IntegrationQueueEntry} (merged : Merged entry)
    (event : ZfEvent) :
    (mergePayload entry event).frozen = entry.frozen ↔ NothingNew entry event := by
  have artifacts := uniqueStrings_append_eq_iff merged.artifactRefs
    (empty_notMem_coerceList (if (event.body.get "artifact_refs").truthy then
      event.body.get "artifact_refs" else event.body.get "artifacts"))
  have verifications := uniqueStrings_append_eq_iff merged.verificationRefs
    (empty_notMem_coerceList (event.body.get "verification_refs"))
  simp only [IntegrationQueueEntry.frozen, mergePayload, FrozenFields.mk.injEq, true_and, and_true,
    orText_eq_first_iff, orText_eq_second_iff]
  constructor
  · rintro ⟨taskId, sourceRef, baseRef, handoffRef, artifactRefs, verificationRefs, reason⟩
    exact ⟨taskId, sourceRef, baseRef, handoffRef, artifacts.mp artifactRefs,
      verifications.mp verificationRefs, reason⟩
  · rintro ⟨taskId, sourceRef, baseRef, handoffRef, artifactRefs, verificationRefs, reason⟩
    exact ⟨taskId, sourceRef, baseRef, handoffRef, artifacts.mpr artifactRefs,
      verifications.mpr verificationRefs, reason⟩

/-- A refused or accepted move: what becomes of the entry. -/
structure Moved (entry next : IntegrationQueueEntry) (event : ZfEvent) : Prop where
  follows : Follows entry.status next.status
  merged : Merged next
  frozen : entry.status.Terminal → next.frozen = (mergePayload entry event).frozen

theorem moved_mergePayload (entry : IntegrationQueueEntry) (event : ZfEvent) :
    Moved entry (recordEvent (mergePayload entry event) event) event :=
  ⟨Or.inl rfl, ⟨(merged_mergePayload entry event).artifactRefs,
    (merged_mergePayload entry event).verificationRefs⟩, fun _ => rfl⟩

theorem moved_moveEntry (entry : IntegrationQueueEntry) (target : QueueStatus) (event : ZfEvent) :
    Moved entry (moveEntry entry target event).1 event := by
  have status : (countRetry (mergePayload entry event) target).status = entry.status := by
    unfold countRetry
    split <;> rfl
  have merged : Merged (countRetry (mergePayload entry event) target) := by
    have refs := merged_mergePayload entry event
    unfold countRetry
    split
    · exact ⟨refs.artifactRefs, refs.verificationRefs⟩
    · exact refs
  have uncounted (terminal : entry.status.Terminal) :
      countRetry (mergePayload entry event) target = mergePayload entry event := by
    unfold countRetry
    rw [if_neg]
    rintro ⟨_, review⟩
    change entry.status = .needsReview at review
    rw [review] at terminal
    exact absurd terminal (by decide)
  unfold moveEntry applyTransition
  dsimp only
  rw [status]
  by_cases accepted : target = entry.status ∨ target ∈ validTransitions entry.status
  · rw [if_pos accepted]
    refine ⟨accepted, ⟨merged.artifactRefs, merged.verificationRefs⟩, fun terminal => ?_⟩
    have same : target = entry.status := by
      refine accepted.resolve_right fun listed => ?_
      rw [terminal] at listed
      exact List.not_mem_nil listed
    rw [uncounted terminal, same]
    rfl
  · rw [if_neg accepted]
    refine ⟨Or.inl rfl, ⟨merged.artifactRefs, merged.verificationRefs⟩, fun terminal => ?_⟩
    rw [uncounted terminal]
    rfl

/-- An event that applies to an entry moves it. -/
theorem moved_nextEntry (entry : IntegrationQueueEntry) (entryId : String) (action : QueueAction)
    (event : ZfEvent) :
    ∃ next, (nextEntry (some entry) entryId action event).1 = some next ∧
      Moved entry next event := by
  cases action with
  | enqueue => exact ⟨_, rfl, moved_mergePayload entry event⟩
  | retry => exact ⟨_, rfl, moved_moveEntry entry _ event⟩
  | move status => cases status <;> exact ⟨_, rfl, moved_moveEntry entry _ event⟩

/-- An entry is created as queued, or moved on from there at once. -/
theorem created_nextEntry {entryId : String} {action : QueueAction} {event : ZfEvent}
    {next : IntegrationQueueEntry}
    (created : (nextEntry none entryId action event).1 = some next) :
    Follows .queued next.status ∧ Tidy next := by
  cases action with
  | enqueue =>
      cases created
      exact ⟨Or.inl rfl, Or.inl rfl⟩
  | retry => cases created
  | move status =>
      cases status with
      | needsReview =>
          cases created
          have moved := moved_moveEntry (newEntry event entryId) .needsReview event
          exact ⟨moved.follows, Or.inr moved.merged⟩
      | queued | integrating | integrated | discarded => cases created

section Note

variable {sha1 : String → String} {statuses : Dict String FanoutStatus} {state : QueueState}
  {event : ZfEvent}

/-- Only an event that applies changes the entries, and only its own one. -/
theorem note_entries (sha1 : String → String) (statuses : Dict String FanoutStatus)
    (state : QueueState) (event : ZfEvent) :
    (note sha1 statuses state event).entries = state.entries ∨
      ∃ entryId action next, readEvent sha1 statuses state event = .applies entryId action ∧
        (nextEntry (state.entries.get? entryId) entryId action event).1 = some next ∧
        (note sha1 statuses state event).entries = state.entries.insert entryId next := by
  unfold note
  cases readEvent sha1 statuses state event with
  | skipped | passed | unidentified | stale entryId why => exact Or.inl rfl
  | applies entryId action =>
      cases outcome : (nextEntry (state.entries.get? entryId) entryId action event).1 with
      | none =>
          refine Or.inl ?_
          unfold applyEvent
          dsimp only [QueueState.see]
          rw [outcome]
      | some next =>
          refine Or.inr ⟨entryId, action, next, rfl, outcome, ?_⟩
          unfold applyEvent
          dsimp only [QueueState.see]
          rw [outcome]

def AllTidy (state : QueueState) : Prop :=
  ∀ id entry, state.entries.get? id = some entry → Tidy entry

theorem AllTidy.note (tidy : AllTidy state) : AllTidy (note sha1 statuses state event) := by
  intro id entry found
  rcases note_entries sha1 statuses state event with
    same | ⟨entryId, action, next, _, outcome, written⟩
  · rw [same] at found
    exact tidy id entry found
  · rw [written, Dict.get?_insert] at found
    split at found
    · cases found
      cases old : state.entries.get? entryId with
      | none =>
          rw [old] at outcome
          exact (created_nextEntry outcome).2
      | some before =>
          rw [old] at outcome
          obtain ⟨after, same, moved⟩ := moved_nextEntry before entryId action event
          rw [outcome] at same
          cases same
          exact Or.inr moved.merged
    · exact tidy id entry found

/-- After an event, every entry has a status that follows its earlier one. -/
def LegalStep (sha1 : String → String) (statuses : Dict String FanoutStatus) (state : QueueState)
    (event : ZfEvent) : Prop :=
  ∀ id next, (note sha1 statuses state event).entries.get? id = some next →
    Follows (((state.entries.get? id).map IntegrationQueueEntry.status).getD .queued) next.status

/-- An event leaves the integrated and discarded entries as they are. -/
def FrozenStep (sha1 : String → String) (statuses : Dict String FanoutStatus) (state : QueueState)
    (event : ZfEvent) : Prop :=
  ∀ id entry, state.entries.get? id = some entry → entry.status.Terminal →
    ∃ next, (note sha1 statuses state event).entries.get? id = some next ∧
      next.frozen = entry.frozen

/-- An event that applies to an integrated or discarded entry carries nothing new. -/
def QuietStep (sha1 : String → String) (statuses : Dict String FanoutStatus) (state : QueueState)
    (event : ZfEvent) : Prop :=
  ∀ entryId action entry, readEvent sha1 statuses state event = .applies entryId action →
    state.entries.get? entryId = some entry → entry.status.Terminal → NothingNew entry event

/-- The steps of a pass can be checked one by one. -/
instance (sha1 : String → String) (statuses : Dict String FanoutStatus) (state : QueueState)
    (event : ZfEvent) : Decidable (QuietStep sha1 statuses state event) :=
  match reading : readEvent sha1 statuses state event with
  | .applies entryId _ =>
      match found : state.entries.get? entryId with
      | some entry =>
          decidable_of_iff (entry.status.Terminal → NothingNew entry event) <| by
            refine ⟨fun quiet id action other applies held terminal => ?_, fun quiet => ?_⟩
            · rw [reading] at applies
              cases applies
              rw [found] at held
              cases held
              exact quiet terminal
            · exact quiet entryId _ entry reading found
      | none => .isTrue fun id action other applies held => by
          rw [reading] at applies
          cases applies
          rw [found] at held
          cases held
  | .skipped | .passed | .unidentified | .stale _ _ => .isTrue fun id action other applies => by
      rw [reading] at applies
      cases applies

theorem legalStep (sha1 : String → String) (statuses : Dict String FanoutStatus)
    (state : QueueState) (event : ZfEvent) : LegalStep sha1 statuses state event := by
  intro id next found
  rcases note_entries sha1 statuses state event with
    same | ⟨entryId, action, after, _, outcome, written⟩
  · rw [same] at found
    rw [found]
    exact Or.inl rfl
  · rw [written, Dict.get?_insert] at found
    split at found
    · rename_i own
      cases found
      rw [own]
      cases old : state.entries.get? entryId with
      | none =>
          rw [old] at outcome
          exact (created_nextEntry outcome).1
      | some before =>
          rw [old] at outcome
          obtain ⟨other, same, moved⟩ := moved_nextEntry before entryId action event
          rw [outcome] at same
          cases same
          exact moved.follows
    · rw [found]
      exact Or.inl rfl

theorem frozenStep_iff (tidy : AllTidy state) :
    FrozenStep sha1 statuses state event ↔ QuietStep sha1 statuses state event := by
  constructor
  · intro frozen entryId action entry applies found terminal
    obtain ⟨next, outcome, moved⟩ := moved_nextEntry entry entryId action event
    have written : (note sha1 statuses state event).entries.get? entryId = some next := by
      unfold note
      rw [applies]
      unfold applyEvent
      dsimp only [QueueState.see]
      rw [found, outcome]
      exact Dict.get?_insert_self _ _ _
    obtain ⟨other, present, same⟩ := frozen entryId entry found terminal
    rw [written] at present
    cases present
    rw [moved.frozen terminal] at same
    exact (frozen_mergePayload_iff ((tidy entryId entry found).merged terminal) event).mp same
  · intro quiet id entry found terminal
    rcases note_entries sha1 statuses state event with
      same | ⟨entryId, action, next, applies, outcome, written⟩
    · exact ⟨entry, by rw [same, found], rfl⟩
    · rw [written, Dict.get?_insert]
      split
      · rename_i own
        subst own
        rw [found] at outcome
        obtain ⟨other, same, moved⟩ := moved_nextEntry entry id action event
        rw [outcome] at same
        cases same
        refine ⟨next, rfl, (moved.frozen terminal).trans ?_⟩
        exact (frozen_mergePayload_iff ((tidy id entry found).merged terminal) event).mpr
          (quiet id action entry applies found terminal)
      · exact ⟨entry, found, rfl⟩

end Note

/-- The instance is listed and no longer current. -/
def NotCurrent (statuses : Dict String FanoutStatus) (id : String) : Prop :=
  ∃ status, statuses.get? id = some status ∧ status.current = false

instance (statuses : Dict String FanoutStatus) (id : String) :
    Decidable (NotCurrent statuses id) :=
  decidable_of_iff ((statuses.get? id).map FanoutStatus.current = some false)
    Option.map_eq_some_iff

theorem staleReason_eq_empty_iff (statuses : Dict String FanoutStatus) (payload : Json) :
    staleReason statuses payload = "" ↔ isStale payload = false ∧
      (payload.textAt "fanout_instance_id" = "" ∨
        ¬NotCurrent statuses (payload.textAt "fanout_instance_id")) := by
  unfold staleReason NotCurrent
  cases isStale payload with
  | true => simp
  | false =>
      by_cases unnamed : payload.textAt "fanout_instance_id" = ""
      · simp [unnamed]
      · simp only [Bool.false_eq_true, if_false, true_and, unnamed, false_or]
        cases statuses.get? (payload.textAt "fanout_instance_id") with
        | none => simp
        | some status =>
            cases current : status.current with
            | true => simp [current]
            | false =>
                by_cases silent : status.staleReason = ""
                · simp [current, silent]
                · simp [current, silent]

/-- `delivered` is `log` with repetitions of events of `seen` or of earlier events. -/
inductive Redelivers : Log → Log → Log → Prop where
  | done (seen : Log) : Redelivers seen [] []
  | next {seen log delivered : Log} (event : ZfEvent)
      (rest : Redelivers (seen ++ [event]) log delivered) :
      Redelivers seen (event :: log) (event :: delivered)
  | again {seen log delivered : Log} {event : ZfEvent} (before : event ∈ seen)
      (rest : Redelivers seen log delivered) : Redelivers seen log (event :: delivered)

/-- The fanout instances that the queue events name are current in both logs or in none. -/
def SameCurrentness (log delivered : Log) : Prop :=
  ∀ event ∈ log, event.type ∈ queueEventTypes →
    (NotCurrent (fanoutStatusById log) (event.body.textAt "fanout_instance_id") ↔
      NotCurrent (fanoutStatusById delivered) (event.body.textAt "fanout_instance_id"))

instance (log delivered : Log) : Decidable (SameCurrentness log delivered) :=
  inferInstanceAs (Decidable (∀ event ∈ log, _ → _))

/-- Two passes that agree on everything that later entries depend on. -/
structure SameQueue (first second : QueueState) : Prop where
  entries : first.entries = second.entries
  seenEventIds : first.seenEventIds = second.seenEventIds
  seenOperationKeys : first.seenOperationKeys = second.seenOperationKeys

section Redelivery

variable {sha1 : String → String} {statuses others : Dict String FanoutStatus}
  {first second state : QueueState} {event : ZfEvent}

theorem SameQueue.see (same : SameQueue first second) (event : ZfEvent) :
    SameQueue (first.see event) (second.see event) :=
  ⟨same.entries, congrArg (· ++ [event.id]) same.seenEventIds, same.seenOperationKeys⟩

theorem SameQueue.apply (same : SameQueue first second) (event : ZfEvent) (entryId : String)
    (action : QueueAction) :
    SameQueue (applyEvent first event entryId action) (applyEvent second event entryId action) := by
  unfold applyEvent
  rw [same.entries, same.seenOperationKeys]
  exact ⟨rfl, same.seenEventIds, rfl⟩

theorem SameQueue.note (same : SameQueue first second)
    (agrees : event.type ∈ queueEventTypes →
      (staleReason statuses event.body = "" ↔ staleReason others event.body = "")) :
    SameQueue (note sha1 statuses first event) (note sha1 others second event) := by
  unfold Integration.note readEvent
  rw [same.seenEventIds, same.seenOperationKeys]
  dsimp only
  by_cases skipped : event.type ∉ queueEventTypes ∨ event.id ∈ second.seenEventIds
  · simp only [if_pos skipped]
    exact same
  have queueType : event.type ∈ queueEventTypes := by
    by_contra other
    exact skipped (Or.inl other)
  simp only [if_neg skipped]
  by_cases irrelevant : ¬queueRelevant event
  · simp only [if_pos irrelevant]
    exact same.see event
  simp only [if_neg irrelevant]
  by_cases unidentified : entryIdForEvent sha1 event = ""
  · simp only [if_pos unidentified]
    exact ⟨same.entries, (same.see event).seenEventIds, same.seenOperationKeys⟩
  simp only [if_neg unidentified]
  by_cases stale : staleReason statuses event.body ≠ ""
  · simp only [if_pos stale, if_pos (stale ∘ (agrees queueType).mpr)]
    exact ⟨same.entries, (same.see event).seenEventIds, same.seenOperationKeys⟩
  · have fresh := (agrees queueType).mp (not_not.mp stale)
    simp only [if_neg stale, if_neg (not_not.mpr fresh)]
    cases actionForEvent event with
    | none => exact same.see event
    | some action =>
        dsimp only
        by_cases repeated :
            operationKey event (entryIdForEvent sha1 event) action ∈ second.seenOperationKeys
        · simp only [if_pos repeated]
          exact same.see event
        · simp only [if_neg repeated]
          exact (same.see event).apply event _ action

/-- Every event of a queue type is remembered. -/
theorem note_seenEventIds (sha1 : String → String) (statuses : Dict String FanoutStatus)
    (state : QueueState) (event : ZfEvent) :
    (∀ id ∈ state.seenEventIds, id ∈ (note sha1 statuses state event).seenEventIds) ∧
      (event.type ∈ queueEventTypes → event.id ∈ (note sha1 statuses state event).seenEventIds) := by
  have seen : (∀ id ∈ state.seenEventIds, id ∈ (state.see event).seenEventIds) ∧
      event.id ∈ (state.see event).seenEventIds :=
    ⟨fun id member => List.mem_append_left _ member,
      List.mem_append_right _ (List.mem_singleton_self _)⟩
  unfold note
  cases reading : readEvent sha1 statuses state event with
  | skipped =>
      refine ⟨fun id member => member, fun queueType => ?_⟩
      unfold readEvent at reading
      dsimp only at reading
      split at reading
      · rename_i skipped
        exact skipped.resolve_left (not_not.mpr queueType)
      · split at reading
        · cases reading
        · split at reading
          · cases reading
          · split at reading
            · cases reading
            · split at reading
              · cases reading
              · split at reading <;> cases reading
  | passed | unidentified | stale entryId why | applies entryId action =>
      exact ⟨seen.1, fun _ => seen.2⟩

/-- A repeated event is skipped. -/
theorem note_again (known : event.type ∈ queueEventTypes → event.id ∈ state.seenEventIds) :
    note sha1 statuses state event = state := by
  have skipped : event.type ∉ queueEventTypes ∨ event.id ∈ state.seenEventIds := by
    by_cases queueType : event.type ∈ queueEventTypes
    · exact Or.inr (known queueType)
    · exact Or.inl queueType
  unfold note readEvent
  dsimp only
  simp only [if_pos skipped]

theorem run_redelivers {seen log delivered : Log} (redelivers : Redelivers seen log delivered) :
    ∀ {first second : QueueState}, SameQueue first second →
      (∀ event ∈ seen, event.type ∈ queueEventTypes → event.id ∈ second.seenEventIds) →
      (∀ event ∈ log, event.type ∈ queueEventTypes →
        (staleReason statuses event.body = "" ↔ staleReason others event.body = "")) →
      SameQueue (Runs.run (note sha1 statuses) first log)
        (Runs.run (note sha1 others) second delivered) := by
  induction redelivers with
  | done seen => exact fun same _ _ => same
  | @next seen log delivered event rest ih =>
      intro first second same known agrees
      obtain ⟨here, later⟩ := List.forall_mem_cons.mp agrees
      refine ih (same.note here) ?_ later
      obtain ⟨kept, noted⟩ := note_seenEventIds sha1 others second event
      intro other member queueType
      rcases List.mem_append.mp member with earlier | now
      · exact kept _ (known other earlier queueType)
      · rw [List.mem_singleton.mp now] at queueType ⊢
        exact noted queueType
  | @again seen log delivered event before rest ih =>
      intro first second same known agrees
      rw [Runs.run_cons, note_again (known event before)]
      exact ih same known agrees

end Redelivery

/-- The laws of a pass over `log`, and of a pass over the events as they were delivered. -/
structure LawfulQueue (sha1 : String → String) (log delivered : Log) : Prop where
  legal : Runs.Along (note sha1 (fanoutStatusById log))
    (LegalStep sha1 (fanoutStatusById log)) {} log
  frozen : Runs.Along (note sha1 (fanoutStatusById log))
    (FrozenStep sha1 (fanoutStatusById log)) {} log
  redelivered :
    (buildIntegrationQueue sha1 delivered).entries = (buildIntegrationQueue sha1 log).entries

def queueEvent (id type reason : String) : ZfEvent where
  type := type
  id := id
  ts := id
  taskId := some "T1"
  payload := .obj [("queue_entry_id", .str "iq-1"), ("fanout_instance_id", .str "f1"),
    ("reason", .str reason)]

/-- An entry is queued, integrated and discarded too late. -/
def integratedLog : Log :=
  [queueEvent "q1" "task.integration_enqueued" "",
    queueEvent "q2" "integration.queue.integrating" "",
    queueEvent "q3" "integration.queue.integrated" "",
    queueEvent "q4" "integration.queue.discarded" ""]

/-- The late event gives a reason. -/
def reasonedLog : Log :=
  integratedLog.take 3 ++ [queueEvent "q4" "integration.queue.discarded" "late"]

def fanoutStarted (id fanout : String) : ZfEvent where
  type := "fanout.started"
  id := id
  ts := id
  payload := .obj [("fanout_id", .str fanout), ("stage_id", .str "build")]

/-- A queue entry of a fanout that has been started again under another id. -/
def supersededLog : Log :=
  [fanoutStarted "s1" "f1", fanoutStarted "s2" "f2",
    queueEvent "q1" "task.integration_enqueued" ""]

end ZaofuFormal.Integration
