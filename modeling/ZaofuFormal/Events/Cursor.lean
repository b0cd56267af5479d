import ZaofuFormal.Events.Watcher

/-!
# The durable cursor

The runtime keeps the offset of the last consumed batch in its session file and
resumes there after a restart.  An acknowledgement only raises the stored
offset, while offsets start again from zero in every new active file.  A stale
offset of an older, longer file is harmless as long as the active file is still
shorter than it, because the reader then starts from the beginning.
-/

namespace ZaofuFormal.Events

open Foundation

variable {ε : Type}

/-- The new stored offset. -/
def acknowledgeConsumedOffset (consumedOffset : Int) (latestEventOffset : Nat) :
    Except String Nat :=
  if consumedOffset < 0 then .error "consumed event offset must be non-negative"
  else .ok (if (latestEventOffset : Int) < consumedOffset then consumedOffset.toNat
    else latestEventOffset)

theorem acknowledgeConsumedOffset_natCast (consumedOffset latestEventOffset : Nat) :
    acknowledgeConsumedOffset consumedOffset latestEventOffset =
      .ok (max latestEventOffset consumedOffset) := by
  unfold acknowledgeConsumedOffset
  rw [if_neg (by omega)]
  split
  · rw [Int.toNat_natCast, Nat.max_eq_right (by omega)]
  · rw [Nat.max_eq_left (by omega)]

/-- The log, the watcher and the stored offset.  `boundary` is the end of the
last acknowledged batch in the file that is active now, and `pending` are the
events appended since that batch. -/
structure Consumer (ε : Type) where
  files : LogFiles
  watcher : Watcher
  latestEventOffset : Nat
  boundary : Nat
  pending : List ε

def Consumer.initial : Consumer ε where
  files := LogFiles.empty
  watcher := Watcher.start LogFiles.empty
  latestEventOffset := 0
  boundary := 0
  pending := []

inductive ConsumerAction (ε : Type) where
  | append (clock : Clock) (event : ε)
  | poll
  | restart

/-- The batch that a restart reads from the stored offset on. -/
def Consumer.catchUp (codec : Codec ε) (consumer : Consumer ε) : List ε :=
  (readFromOffset codec consumer.latestEventOffset consumer.files).1

def Consumer.step (codec : Codec ε) (consumer : Consumer ε) : ConsumerAction ε → Consumer ε
  | .append clock event =>
      { consumer with
        files := append codec clock event consumer.files
        boundary := if Rotates clock consumer.files then 0 else consumer.boundary
        pending := consumer.pending ++ [event] }
  | .poll =>
      let result := pollOnce codec consumer.watcher consumer.files
      match result.consumed with
      | none => { consumer with watcher := result.watcher }
      | some offset =>
          { consumer with
            watcher := result.watcher
            latestEventOffset :=
              match acknowledgeConsumedOffset offset consumer.latestEventOffset with
              | .error _ => consumer.latestEventOffset
              | .ok latest => latest
            boundary := offset
            pending := [] }
  | .restart =>
      let newOffset := (readFromOffset codec consumer.latestEventOffset consumer.files).2
      { consumer with
        watcher := Watcher.start consumer.files
        latestEventOffset := newOffset
        boundary := newOffset
        pending := [] }

/-- Rotation happens only when everything appended has been acknowledged, and a
restart finds a stored offset that lies beyond the active file or not beyond
the last acknowledged batch in it. -/
def ConsumerAction.Allowed (consumer : Consumer ε) : ConsumerAction ε → Prop
  | .append clock _ => Rotates clock consumer.files → consumer.pending = []
  | .poll => True
  | .restart => currentOffset consumer.files < consumer.latestEventOffset ∨
      consumer.latestEventOffset ≤ consumer.boundary

instance decidableConsumerAllowed [DecidableEq ε] (consumer : Consumer ε) :
    ∀ action : ConsumerAction ε, Decidable (action.Allowed consumer)
  | .append _ _ => inferInstanceAs (Decidable (_ → _))
  | .poll => .isTrue trivial
  | .restart => inferInstanceAs (Decidable (_ ∨ _))

/-- The active file holds the acknowledged lines, up to the boundary, and then
the pending ones; the stored offset never falls behind the boundary. -/
structure Placed (codec : Codec ε) (consumer : Consumer ε) (settled : List ε) : Prop where
  content : consumer.files.content = codec.lines settled ++ codec.lines consumer.pending
  boundary : consumer.boundary = (codec.lines settled).length
  stored : consumer.boundary ≤ consumer.latestEventOffset

theorem placed_initial (codec : Codec ε) : Placed codec Consumer.initial [] :=
  ⟨rfl, rfl, Nat.le_refl 0⟩

theorem Placed.lines {codec : Codec ε} {consumer : Consumer ε} {settled : List ε}
    (placed : Placed codec consumer settled) :
    consumer.files.content = codec.lines (settled ++ consumer.pending) := by
  rw [placed.content, codec.lines_append]

/-- The pending events are the last ones that a permitted restart reads. -/
theorem Placed.catchUp {codec : Codec ε} (lawful : codec.Lawful) {consumer : Consumer ε}
    {settled : List ε} (placed : Placed codec consumer settled)
    (allowed : (ConsumerAction.restart : ConsumerAction ε).Allowed consumer) :
    consumer.pending.filterMap codec.delivered <:+ consumer.catchUp codec := by
  unfold Consumer.catchUp
  rcases allowed with beyond | settledOffset
  · have whole : consumer.files.content = [] ++ codec.lines (settled ++ consumer.pending) :=
      placed.lines
    have start : effectiveOffset consumer.latestEventOffset consumer.files =
        ([] : Bytes).length := by
      rw [effectiveOffset, if_neg (by omega)]
      rfl
    rw [readFromOffset_lines lawful whole start, List.filterMap_append]
    exact List.suffix_append _ _
  · have offset : consumer.latestEventOffset = (codec.lines settled).length := by
      rw [← placed.boundary]
      exact Nat.le_antisymm settledOffset placed.stored
    have start : effectiveOffset consumer.latestEventOffset consumer.files =
        (codec.lines settled).length := by
      rw [offset, effectiveOffset, currentOffset, placed.content, List.length_append]
      exact if_pos (Nat.le_add_right _ _)
    rw [readFromOffset_lines lawful placed.content start]

theorem Placed.step {codec : Codec ε} {consumer : Consumer ε} {settled : List ε}
    (placed : Placed codec consumer settled) {action : ConsumerAction ε}
    (allowed : action.Allowed consumer) :
    ∃ next, Placed codec (consumer.step codec action) next := by
  cases action with
  | append clock event =>
      have content := append_content codec clock event consumer.files
      by_cases rotates : Rotates clock consumer.files
      · rw [if_pos rotates] at content
        refine ⟨[], ?_, ?_, ?_⟩
        · change (Events.append codec clock event consumer.files).content = _
          rw [content, Consumer.step, allowed rotates]
          rfl
        · exact if_pos rotates
        · rw [Consumer.step, if_pos rotates]
          exact Nat.zero_le _
      · rw [if_neg rotates] at content
        refine ⟨settled, ?_, ?_, ?_⟩
        · change (Events.append codec clock event consumer.files).content =
            codec.lines settled ++ codec.lines (consumer.pending ++ [event])
          rw [content, placed.content, codec.lines_append, List.append_assoc]
        · rw [Consumer.step, if_neg rotates]
          exact placed.boundary
        · rw [Consumer.step, if_neg rotates]
          exact placed.stored
  | poll =>
      have finish := readFromOffset_end placed.lines consumer.watcher.filePos
      cases consumed : (pollOnce codec consumer.watcher consumer.files).consumed with
      | none =>
          refine ⟨settled, ?_⟩
          simp only [Consumer.step, consumed]
          exact ⟨placed.content, placed.boundary, placed.stored⟩
      | some offset =>
          have reached : offset = currentOffset consumer.files := by
            simp only [pollOnce] at consumed
            split at consumed
            · rw [← finish]
              exact (Option.some.inj consumed).symm
            · cases consumed
          refine ⟨settled ++ consumer.pending, ?_⟩
          simp only [Consumer.step, consumed, acknowledgeConsumedOffset_natCast]
          refine ⟨?_, ?_, Nat.le_max_right _ _⟩
          · change consumer.files.content = _ ++ []
            rw [List.append_nil, placed.lines]
          · change offset = _
            rw [reached, currentOffset, placed.lines]
  | restart =>
      have finish := readFromOffset_end placed.lines consumer.latestEventOffset
      refine ⟨settled ++ consumer.pending, ?_, ?_, Nat.le_refl _⟩
      · change consumer.files.content = _ ++ []
        rw [List.append_nil, placed.lines]
      · change (readFromOffset codec consumer.latestEventOffset consumer.files).2 = _
        rw [finish, currentOffset, placed.lines]

theorem run_placed {codec : Codec ε} {consumer : Consumer ε} {settled : List ε}
    (placed : Placed codec consumer settled) {actions : List (ConsumerAction ε)}
    (allowed : Runs.Along (Consumer.step codec) (fun state action => action.Allowed state)
      consumer actions) :
    ∃ next, Placed codec (Runs.run (Consumer.step codec) consumer actions) next :=
  allowed.invariant (fun state => ∃ settled, Placed codec state settled)
    (fun _ _ before admitted => before.choose_spec.step admitted) ⟨settled, placed⟩

/-- In every run whose steps are allowed, a restart delivers every event that
was appended since the last acknowledged batch. -/
theorem restart_delivers_pending {codec : Codec ε} (lawful : codec.Lawful)
    {actions : List (ConsumerAction ε)}
    (allowed : Runs.Along (Consumer.step codec) (fun state action => action.Allowed state)
      Consumer.initial (actions ++ [.restart])) :
    let reached := Runs.run (Consumer.step codec) Consumer.initial actions
    reached.pending.filterMap codec.delivered <:+ reached.catchUp codec := by
  obtain ⟨before, restart, _⟩ := (Runs.along_append _ _ _).mp allowed
  obtain ⟨settled, placed⟩ := run_placed (placed_initial codec) before
  exact placed.catchUp lawful restart

/-- One event is acknowledged and a second one is appended on the same day. -/
def sameDayRun : List (ConsumerAction PlainLine) :=
  [.append ⟨"2026-07-01", ""⟩ startedLine, .poll, .append ⟨"2026-07-01", ""⟩ tickLine]

theorem sameDayRun_restart_delivers :
    [tickLine] <:+ (Runs.run (Consumer.step plainCodec) Consumer.initial sameDayRun).catchUp
      plainCodec := by
  have allowed : Runs.Along (Consumer.step plainCodec) (fun state action => action.Allowed state)
      Consumer.initial (sameDayRun ++ [.restart]) := by
    decide +kernel
  have pending : (Runs.run (Consumer.step plainCodec) Consumer.initial sameDayRun).pending.filterMap
      plainCodec.delivered = [tickLine] := by
    decide +kernel
  rw [← pending]
  exact restart_delivers_pending plainCodec_lawful allowed

/-- When the new file has grown to the offset stored for the old one, a restart
skips its events. -/
theorem stale_offset_skips :
    ∃ actions : List (ConsumerAction PlainLine),
      let reached := Runs.run (Consumer.step plainCodec) Consumer.initial actions
      ∃ event ∈ reached.pending.filterMap plainCodec.delivered,
        event ∉ reached.catchUp plainCodec :=
  ⟨[.append ⟨"2026-07-01", ""⟩ startedLine, .poll, .append ⟨"2026-07-02", ""⟩ startedLine],
    by decide +kernel⟩

end ZaofuFormal.Events
