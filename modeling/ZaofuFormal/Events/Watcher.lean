import ZaofuFormal.Events.Log
import ZaofuFormal.Foundation.Runs

/-!
# Following the log by polling

A watcher starts at the end of the active file and reads on from its saved
offset at every poll.  The offset belongs to the file that was active at the
last poll.  When an append has rotated that file away in between, the watcher
finds the new file only if it is still shorter than the saved offset, and it
never returns to what it had not read of the old one.

`Action.Allowed` excludes the two cases.  Along every run that it allows, the
delivered batches are exactly the appended events, in order.
-/

namespace ZaofuFormal.Events

open Foundation

variable {ε : Type}

structure Watcher where
  filePos : Nat
  quiesced : Bool := false
  quiescePatterns : List String := ["runtime.safe_halted", "dispatch.paused"]
  resumePatterns : List String := ["runtime.resumed", "dispatch.resumed"]

/-- A new watcher does not replay old events. -/
def Watcher.start (files : LogFiles) : Watcher := { filePos := currentOffset files }

def Watcher.observe (watcher : Watcher) (eventType : String) : Watcher :=
  let quiesced := if eventType ∈ watcher.quiescePatterns then true else watcher.quiesced
  { watcher with quiesced := if eventType ∈ watcher.resumePatterns then false else quiesced }

/-- The outcome of one poll: the batch, the watcher after it, and the boundary
that is handed to the batch callback when the offset has moved. -/
structure PollResult (ε : Type) where
  events : List ε
  watcher : Watcher
  consumed : Option Nat

def pollOnce (codec : Codec ε) (watcher : Watcher) (files : LogFiles) : PollResult ε :=
  let (events, newOffset) := readFromOffset codec watcher.filePos files
  { events
    watcher := events.foldl (fun observed event => observed.observe (codec.eventType event))
      { watcher with filePos := newOffset }
    consumed := if newOffset ≠ watcher.filePos then some newOffset else none }

theorem foldl_observe_filePos (codec : Codec ε) (events : List ε) (watcher : Watcher) :
    (events.foldl (fun observed event => observed.observe (codec.eventType event))
      watcher).filePos = watcher.filePos := by
  induction events generalizing watcher with
  | nil => rfl
  | cons event rest ih => exact ih _

theorem pollOnce_filePos (codec : Codec ε) (watcher : Watcher) (files : LogFiles) :
    (pollOnce codec watcher files).watcher.filePos =
      (readFromOffset codec watcher.filePos files).2 :=
  foldl_observe_filePos codec _ _

/-- The log, its watcher, everything the polls have delivered, and whether the
active file has been rotated since the last poll. -/
structure Session (ε : Type) where
  files : LogFiles
  watcher : Watcher
  delivered : List ε := []
  rotated : Bool := false

inductive Action (ε : Type) where
  | append (clock : Clock) (event : ε)
  | poll

def Action.appended : Action ε → Option ε
  | .append _ event => some event
  | .poll => none

def step (codec : Codec ε) (session : Session ε) : Action ε → Session ε
  | .append clock event =>
      { session with
        files := append codec clock event session.files
        rotated := session.rotated || decide (Rotates clock session.files) }
  | .poll =>
      let result := pollOnce codec session.watcher session.files
      { session with
        watcher := result.watcher
        delivered := session.delivered ++ result.events
        rotated := false }

def start (files : LogFiles) : Session ε := { files, watcher := Watcher.start files }

/-- The saved offset is the end of the file that is active now. -/
def Session.Drained (session : Session ε) : Prop :=
  session.rotated = false ∧ session.watcher.filePos = currentOffset session.files

instance (session : Session ε) : Decidable session.Drained :=
  inferInstanceAs (Decidable (_ ∧ _))

/-- An append rotates only a file that has been read to its end, and the first
poll after a rotation comes before the new file reaches the old offset. -/
def Action.Allowed (session : Session ε) : Action ε → Prop
  | .append clock _ => Rotates clock session.files → session.Drained
  | .poll => session.rotated = true →
      session.watcher.filePos = 0 ∨ currentOffset session.files < session.watcher.filePos

instance decidableAllowed (session : Session ε) : ∀ action : Action ε,
    Decidable (action.Allowed session)
  | .append _ _ => inferInstanceAs (Decidable (_ → _))
  | .poll => inferInstanceAs (Decidable (_ → _))

/-- What has been delivered together with what the active file still holds for
the watcher is what has been appended. -/
structure Tracks (codec : Codec ε) (session : Session ε) (appended pending : List ε) : Prop where
  delivered : session.delivered ++ pending.filterMap codec.delivered =
    appended.filterMap codec.delivered
  fresh : session.rotated = true → session.files.content = codec.lines pending
  behind : session.rotated = false → ∃ stem : Bytes,
    session.files.content = stem ++ codec.lines pending ∧ session.watcher.filePos = stem.length

theorem tracks_start (codec : Codec ε) (files : LogFiles) : Tracks codec (start files) [] [] where
  delivered := rfl
  fresh := fun rotated => nomatch rotated
  behind := fun _ => ⟨files.content, (List.append_nil _).symm, rfl⟩

theorem Tracks.pending_nil {codec : Codec ε} {session : Session ε} {appended pending : List ε}
    (tracks : Tracks codec session appended pending) (drained : session.Drained) :
    pending = [] := by
  obtain ⟨stem, split, position⟩ := tracks.behind drained.1
  have size := drained.2
  rw [position, currentOffset, split, List.length_append] at size
  apply (codec.lines_eq_nil_iff pending).mp
  exact List.length_eq_zero_iff.mp (by omega)

theorem Tracks.append {codec : Codec ε} {session : Session ε} {appended pending : List ε}
    (tracks : Tracks codec session appended pending) {clock : Clock} {event : ε}
    (allowed : (Action.append clock event).Allowed session) :
    Tracks codec (step codec session (.append clock event)) (appended ++ [event])
      (pending ++ [event]) := by
  have delivered : session.delivered ++ (pending ++ [event]).filterMap codec.delivered =
      (appended ++ [event]).filterMap codec.delivered := by
    rw [List.filterMap_append, List.filterMap_append, ← List.append_assoc, tracks.delivered]
  have content := append_content codec clock event session.files
  by_cases rotates : Rotates clock session.files
  · rw [if_pos rotates] at content
    refine ⟨delivered, ?_, ?_⟩
    · intro _
      rw [tracks.pending_nil (allowed rotates)]
      exact content
    · intro kept
      simp [step, rotates] at kept
  · rw [if_neg rotates] at content
    refine ⟨delivered, ?_, ?_⟩
    · intro rotated
      have before : session.rotated = true := by simpa [step, rotates] using rotated
      change (Events.append codec clock event session.files).content = _
      rw [content, tracks.fresh before, codec.lines_append]
    · intro kept
      have before : session.rotated = false := by simpa [step, rotates] using kept
      obtain ⟨stem, split, position⟩ := tracks.behind before
      refine ⟨stem, ?_, position⟩
      change (Events.append codec clock event session.files).content = _
      rw [content, split, codec.lines_append, List.append_assoc]

/-- A poll delivers everything that was pending. -/
theorem Tracks.poll {codec : Codec ε} (lawful : codec.Lawful) {session : Session ε}
    {appended pending : List ε} (tracks : Tracks codec session appended pending)
    (allowed : (Action.poll : Action ε).Allowed session) :
    Tracks codec (step codec session .poll) appended [] := by
  have read : readFromOffset codec session.watcher.filePos session.files =
      (pending.filterMap codec.delivered, currentOffset session.files) := by
    cases rotated : session.rotated with
    | true =>
        have whole : session.files.content = [] ++ codec.lines pending := tracks.fresh rotated
        apply readFromOffset_lines lawful whole
        rw [effectiveOffset, List.length_nil]
        rcases allowed rotated with zero | short
        · rw [zero]
          exact ite_self 0
        · rw [if_neg (by omega)]
    | false =>
        obtain ⟨stem, split, position⟩ := tracks.behind rotated
        apply readFromOffset_lines lawful split
        have inside : session.watcher.filePos ≤ currentOffset session.files := by
          rw [position, currentOffset, split, List.length_append]
          exact Nat.le_add_right _ _
        rw [effectiveOffset, if_pos inside, position]
  have batch : (pollOnce codec session.watcher session.files).events =
      pending.filterMap codec.delivered := congrArg Prod.fst read
  constructor
  · change (session.delivered ++ (pollOnce codec session.watcher session.files).events) ++ [] = _
    rw [List.append_nil, batch, tracks.delivered]
  · intro rotated
    cases rotated
  · intro _
    refine ⟨session.files.content, (List.append_nil _).symm, ?_⟩
    exact (pollOnce_filePos codec session.watcher session.files).trans (congrArg Prod.snd read)

theorem run_tracks {codec : Codec ε} (lawful : codec.Lawful) {session : Session ε}
    {appended pending : List ε} (tracks : Tracks codec session appended pending)
    {actions : List (Action ε)}
    (allowed : Runs.Along (step codec) (fun state action => action.Allowed state)
      session actions) :
    ∃ remaining, Tracks codec (Runs.run (step codec) session actions)
      (appended ++ actions.filterMap Action.appended) remaining := by
  induction actions generalizing session appended pending with
  | nil => exact ⟨pending, by simpa using tracks⟩
  | cons action rest ih =>
      cases action with
      | append clock event =>
          have next := ih (tracks.append allowed.1) allowed.2
          simpa [Action.appended, List.append_assoc] using next
      | poll =>
          exact ih (tracks.poll lawful allowed.1) allowed.2

/-- After a final poll the watcher has delivered exactly the decodable events
that were appended since it started, each once and in order. -/
theorem run_delivers {codec : Codec ε} (lawful : codec.Lawful) (files : LogFiles)
    {actions : List (Action ε)}
    (allowed : Runs.Along (step codec) (fun state action => action.Allowed state)
      (start files) (actions ++ [.poll])) :
    (Runs.run (step codec) (start files) (actions ++ [.poll])).delivered =
      (actions.filterMap Action.appended).filterMap codec.delivered := by
  obtain ⟨before, final, _⟩ := (Runs.along_append _ _ _).mp allowed
  obtain ⟨pending, tracks⟩ := run_tracks lawful (tracks_start codec files) before
  have finished := (tracks.poll lawful final).delivered
  rw [Runs.run_append]
  simpa using finished

def startedLine : PlainLine := ⟨"\x7b\"type\": \"run.started\"\x7d".toList, by decide⟩

def tickLine : PlainLine := ⟨"\x7b\"type\": \"tick\"\x7d".toList, by decide⟩

/-- A poll between the days lets the watcher follow the log into its new file. -/
theorem polled_rotation_delivers :
    (Runs.run (step plainCodec) (start LogFiles.empty) ([.append ⟨"2026-07-01", ""⟩ startedLine,
      .poll, .append ⟨"2026-07-02", ""⟩ tickLine] ++ [.poll])).delivered =
        [startedLine, tickLine] := by
  rw [run_delivers plainCodec_lawful LogFiles.empty (by decide +kernel)]
  decide +kernel

/-- An event that was not polled on its day is lost when the next day begins. -/
theorem rotation_skips_unread :
    ∃ actions : List (Action PlainLine),
      (Runs.run (step plainCodec) (start LogFiles.empty) (actions ++ [.poll])).delivered ≠
        (actions.filterMap Action.appended).filterMap plainCodec.delivered :=
  ⟨[.append ⟨"2026-07-01", ""⟩ startedLine, .append ⟨"2026-07-02", ""⟩ tickLine],
    by decide +kernel⟩

end ZaofuFormal.Events
