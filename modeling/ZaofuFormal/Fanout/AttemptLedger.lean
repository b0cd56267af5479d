import Mathlib.Data.List.Infix
import ZaofuFormal.Fanout.Identity
import ZaofuFormal.Foundation.FirstSeen
import ZaofuFormal.Foundation.JsonCompact

/-!
# Counting the failures of a task

The rework cap rests on the failures of a task in the log.  One function lists the
failures that count and the other one counts rounds; each of them leaves superseded
fanouts and replayed events out in a way of its own.  Copies of events change the
counts only where an event without a fanout is counted once more.
-/

namespace ZaofuFormal.Fanout

open Foundation Workflow

def reworkTriggerEvents : List String :=
  ["review.rejected", "verify.failed", "test.failed", "judge.failed", "gate.failed",
    "discriminator.failed", "task.done.blocked", "dev.blocked", "dev.failed",
    "impl.child.failed", "review.child.failed", "verify.child.failed"]

def reworkTriageTriggerEvents : List String := reworkTriggerEvents ++ ["static_gate.failed"]

def reworkFailureTypes : List String :=
  reworkTriageTriggerEvents.filter fun type => decide (type ≠ "task.done.blocked")

def fails (event : ZfEvent) : Bool := decide (event.type ∈ reworkFailureTypes)

/-- `str(item)` for the items of the list that are not blank. -/
def failedTaskIds (event : ZfEvent) : List String :=
  match event.body.get "failed_task_ids" with
  | .arr items =>
      (items.filter fun item => decide (PyString.strip item.text ≠ "")).map Json.pyStr
  | _ => []

/-- A failure is about its own task, or about the tasks it lists when it names none. -/
def targetsTask (taskId : String) (event : ZfEvent) : Bool :=
  if eventTaskId event = "" then decide (taskId ∈ failedTaskIds event)
  else decide (eventTaskId event = taskId)

def markedReplay (event : ZfEvent) : Bool :=
  (event.body.get "replay").truthy || (event.body.get "stale").truthy

def markedSuperseded (event : ZfEvent) : Bool :=
  PyString.strip (event.body.textAt "superseded_by") != ""

/-- SHA-1 in hexadecimal digits, and the lower case of a text. -/
structure Hashing where
  sha1 : String → String
  lower : String → String

/-- `first or second or ...` over the members of a payload. -/
def firstTrue (payload : Json) (keys : List String) : Json :=
  ((keys.map payload.get).find? Json.truthy).getD .null

def semanticKeys : List String :=
  ["actual", "category", "code", "expected", "failure_class", "message", "reason", "severity",
    "summary", "type"]

mutual

def stableFailureDetails : Json → Json
  | .obj fields =>
      .obj (Sorting.sortedBy Prod.fst
        ((stableFields fields).filter fun entry => decide (entry.1 ∈ semanticKeys)))
  | .arr items =>
      .arr (Sorting.sortedBy (fun item => String.ofList (JsonText.spaced item))
        (stableItems items))
  | value => value

def stableItems : List Json → List Json
  | [] => []
  | item :: rest => stableFailureDetails item :: stableItems rest

def stableFields : List (String × Json) → List (String × Json)
  | [] => []
  | (key, value) :: rest => (key, stableFailureDetails value) :: stableFields rest

end

def failureFingerprint (hashing : Hashing) (event : ZfEvent) : String :=
  let payload := event.body
  let explicit := PyString.strip (firstTrue payload ["failure_fingerprint", "fingerprint"]).text
  if explicit ≠ "" then explicit
  else
    let facts := firstTrue payload ["findings", "failed_d", "errors"]
    let details := stableFailureDetails (if facts.truthy then facts else .arr [])
    let reason := (firstTrue payload ["reason", "summary", "error"]).text
    -- The details have their members in key order already.
    let stable := Json.obj (Sorting.sortedBy Prod.fst
      [("event_type", .str event.type),
        ("stage", .str (firstTrue payload ["stage_id", "stage"]).text),
        ("reason", .str (hashing.lower (PyString.strip reason))),
        ("details", details)])
    "task-failure-" ++
      String.ofList ((hashing.sha1 (String.ofList (JsonText.spaced stable))).toList.take 16)

def namedFanout? (event : ZfEvent) : Option String :=
  if fanoutId event = "" then none else some (fanoutId event)

/-- A cancellation whose reason speaks of a supersede. -/
def supersedes (event : ZfEvent) : Bool :=
  decide (event.type = "fanout.cancelled") &&
    decide ("supersede".toList <:+: (event.body.textAt "reason").toList)

def completesStale (event : ZfEvent) : Bool :=
  decide (event.type = "fanout.child.stale_completion")

/-- The fanouts that the rounds leave out. -/
def cancelledFanouts (events : Log) : List String :=
  (events.filter supersedes).filterMap namedFanout?

/-- The fanouts that the failures leave out. -/
def supersededFanouts (events : Log) : List String :=
  (events.filter fun event => supersedes event || completesStale event).filterMap namedFanout?

structure FailureScan where
  out : Log := []
  seen : List (String × String × String) := []
  seenEventIds : List String := []

def FailureScan.noteId (scan : FailureScan) (event : ZfEvent) : FailureScan :=
  if event.id = "" then scan else { scan with seenEventIds := event.id :: scan.seenEventIds }

/-- Count a failure, unless its fanout had the same one before. -/
def FailureScan.admitOnce (scan : FailureScan) (event : ZfEvent) (fingerprint : String) :
    FailureScan :=
  let replayKey := (fanoutId event, event.type, fingerprint)
  if fanoutId event ≠ "" ∧ replayKey ∈ scan.seen then scan
  else
    { scan with
      out := scan.out ++ [event]
      seen := if fanoutId event = "" then scan.seen else replayKey :: scan.seen }

def countFailure (hashing : Hashing) (superseded : List String) (taskId : String)
    (fingerprint : Option String) (scan : FailureScan) (event : ZfEvent) : FailureScan :=
  if ¬ fails event then scan
  else if event.id ≠ "" ∧ event.id ∈ scan.seenEventIds then scan
  else
    let scan := scan.noteId event
    if markedReplay event then scan
    else if markedSuperseded event then scan
    else if ¬ targetsTask taskId event then scan
    else
      let currentFingerprint := failureFingerprint hashing event
      if fingerprint ≠ none ∧ fingerprint ≠ some currentFingerprint then scan
      else if fanoutId event ≠ "" ∧ fanoutId event ∈ superseded then scan
      else scan.admitOnce event currentFingerprint

def countedFailureEvents (hashing : Hashing) (events : Log) (taskId : String)
    (fingerprint : Option String) : Log :=
  (events.foldl (countFailure hashing (supersededFanouts events) taskId fingerprint) {}).out

structure RoundScan where
  rounds : Nat := 0
  seen : List (String × String) := []

def countRound (superseded : List String) (taskId : String) (scan : RoundScan)
    (event : ZfEvent) : RoundScan :=
  if ¬ fails event then scan
  else if eventTaskId event ≠ taskId then scan
  else if fanoutId event ≠ "" ∧ fanoutId event ∈ superseded then scan
  else
    let key := (fanoutId event, event.type)
    if fanoutId event ≠ "" ∧ key ∈ scan.seen then scan
    else ⟨scan.rounds + 1, key :: scan.seen⟩

def countedReworkRounds (events : Log) (taskId : String) : Nat :=
  (events.foldl (countRound (cancelledFanouts events) taskId) {}).rounds

/-- The events of a pass at which the number of rounds grows. -/
def roundEvents (superseded : List String) (taskId : String) : RoundScan → Log → Log
  | _, [] => []
  | scan, event :: rest =>
      let next := countRound superseded taskId scan event
      if next.rounds = scan.rounds then roundEvents superseded taskId next rest
      else event :: roundEvents superseded taskId next rest

/-- The failures that the rounds are counted from. -/
def countedRounds (events : Log) (taskId : String) : Log :=
  roundEvents (cancelledFanouts events) taskId {} events

def eventKey (event : ZfEvent) : Option String := if event.id = "" then none else some event.id

def replayKey (hashing : Hashing) (event : ZfEvent) : Option (String × String × String) :=
  if fanoutId event = "" then none
  else some (fanoutId event, event.type, failureFingerprint hashing event)

def roundKey (event : ZfEvent) : Option (String × String) :=
  if fanoutId event = "" then none else some (fanoutId event, event.type)

/-- A failure that counts unless it is a replay. -/
def countsFailure (hashing : Hashing) (superseded : List String) (taskId : String)
    (fingerprint : Option String) (event : ZfEvent) : Bool :=
  !markedReplay event && !markedSuperseded event && targetsTask taskId event &&
    decide (fingerprint = none ∨ fingerprint = some (failureFingerprint hashing event)) &&
    decide (fanoutId event = "" ∨ fanoutId event ∉ superseded)

/-- A failure that counts as a round unless it is a replay. -/
def countsRound (superseded : List String) (taskId : String) (event : ZfEvent) : Bool :=
  fails event && decide (eventTaskId event = taskId) &&
    decide (fanoutId event = "" ∨ fanoutId event ∉ superseded)

variable {event : ZfEvent}

theorem countsFailure_iff {hashing : Hashing} {superseded : List String} {taskId : String}
    {fingerprint : Option String} :
    countsFailure hashing superseded taskId fingerprint event = true ↔
      ¬ markedReplay event = true ∧ ¬ markedSuperseded event = true ∧
        targetsTask taskId event = true ∧
        (fingerprint = none ∨ fingerprint = some (failureFingerprint hashing event)) ∧
        (fanoutId event = "" ∨ fanoutId event ∉ superseded) := by
  rw [countsFailure, Bool.and_eq_true, Bool.and_eq_true, Bool.and_eq_true, Bool.and_eq_true,
    Bool.not_eq_true', Bool.not_eq_true', decide_eq_true_iff, decide_eq_true_iff,
    Bool.not_eq_true, Bool.not_eq_true, and_assoc, and_assoc, and_assoc]

theorem countsRound_iff {superseded : List String} {taskId : String} :
    countsRound superseded taskId event = true ↔
      fails event = true ∧ eventTaskId event = taskId ∧
        (fanoutId event = "" ∨ fanoutId event ∉ superseded) := by
  rw [countsRound, Bool.and_eq_true, Bool.and_eq_true, decide_eq_true_iff, decide_eq_true_iff,
    and_assoc]

theorem eventKey_unnamed (unnamed : event.id = "") : eventKey event = none := if_pos unnamed

theorem eventKey_named (named : event.id ≠ "") : eventKey event = some event.id := if_neg named

theorem replayKey_alone {hashing : Hashing} (alone : fanoutId event = "") :
    replayKey hashing event = none := if_pos alone

theorem replayKey_fanout {hashing : Hashing} (fanout : fanoutId event ≠ "") :
    replayKey hashing event =
      some (fanoutId event, event.type, failureFingerprint hashing event) := if_neg fanout

theorem roundKey_alone (alone : fanoutId event = "") : roundKey event = none := if_pos alone

theorem roundKey_fanout (fanout : fanoutId event ≠ "") :
    roundKey event = some (fanoutId event, event.type) := if_neg fanout

section Failures

variable (hashing : Hashing) (superseded : List String) (taskId : String)
  (fingerprint : Option String)

variable {event : ZfEvent}

theorem countFailure_of_not_fails (scan : FailureScan) (other : fails event = false) :
    countFailure hashing superseded taskId fingerprint scan event = scan := by
  rw [countFailure, if_pos (by rw [other]; exact Bool.false_ne_true)]

theorem countFailure_of_seen (scan : FailureScan) (named : event.id ≠ "")
    (seen : event.id ∈ scan.seenEventIds) :
    countFailure hashing superseded taskId fingerprint scan event = scan := by
  unfold countFailure
  split
  · rfl
  · rw [if_pos ⟨named, seen⟩]

theorem countFailure_of_new (scan : FailureScan) (failed : fails event = true)
    (new : ¬ (event.id ≠ "" ∧ event.id ∈ scan.seenEventIds)) :
    countFailure hashing superseded taskId fingerprint scan event =
      if countsFailure hashing superseded taskId fingerprint event then
        (scan.noteId event).admitOnce event (failureFingerprint hashing event)
      else scan.noteId event := by
  rw [countFailure, if_neg (not_not_intro failed), if_neg new]
  by_cases counts : countsFailure hashing superseded taskId fingerprint event = true
  · rw [if_pos counts]
    obtain ⟨replayed, marked, targets, wanted, current⟩ := countsFailure_iff.mp counts
    rw [if_neg replayed, if_neg marked, if_neg (not_not_intro targets),
      if_neg fun both => wanted.elim both.1 both.2,
      if_neg fun both => current.elim both.1 fun other => other both.2]
  · rw [if_neg counts]
    rw [countsFailure_iff] at counts
    dsimp only
    split
    · rfl
    split
    · rfl
    split
    · rfl
    split
    · rfl
    split
    · rfl
    · rename_i replayed marked targets wanted current
      exact absurd ⟨replayed, marked, not_not.mp targets, or_iff_not_and_not.mpr wanted,
        (not_and_or.mp current).imp_left not_not.mp⟩ counts

@[simp] theorem out_noteId (scan : FailureScan) (event : ZfEvent) :
    (scan.noteId event).out = scan.out := by
  unfold FailureScan.noteId
  split <;> rfl

@[simp] theorem seen_noteId (scan : FailureScan) (event : ZfEvent) :
    (scan.noteId event).seen = scan.seen := by
  unfold FailureScan.noteId
  split <;> rfl

@[simp] theorem seenEventIds_admitOnce (scan : FailureScan) (event : ZfEvent) (text : String) :
    (scan.admitOnce event text).seenEventIds = scan.seenEventIds := by
  unfold FailureScan.admitOnce
  dsimp only
  split <;> rfl

/-- The ids are passed on to the rest of the pass. -/
theorem firstSeen_noteId (scan : FailureScan) (rest : Log)
    (new : ¬ (event.id ≠ "" ∧ event.id ∈ scan.seenEventIds)) :
    firstSeen eventKey scan.seenEventIds (event :: rest) =
      event :: firstSeen eventKey (scan.noteId event).seenEventIds rest := by
  unfold FailureScan.noteId
  by_cases unnamed : event.id = ""
  · rw [if_pos unnamed]
    exact firstSeen_keyless (eventKey_unnamed unnamed)
  · rw [if_neg unnamed]
    exact firstSeen_fresh (eventKey_named unnamed) fun seen => new ⟨unnamed, seen⟩

theorem firstSeen_admitOnce (scan : FailureScan) (event : ZfEvent) (rest : Log) :
    scan.out ++ firstSeen (replayKey hashing) scan.seen (event :: rest) =
      (scan.admitOnce event (failureFingerprint hashing event)).out ++
        firstSeen (replayKey hashing)
          (scan.admitOnce event (failureFingerprint hashing event)).seen rest := by
  unfold FailureScan.admitOnce
  by_cases alone : fanoutId event = ""
  · rw [firstSeen_keyless (replayKey_alone alone), if_neg fun both => both.1 alone, if_pos alone,
      List.append_assoc, List.singleton_append]
  · by_cases seen : (fanoutId event, event.type, failureFingerprint hashing event) ∈ scan.seen
    · rw [firstSeen_repeated (replayKey_fanout alone) seen, if_pos ⟨alone, seen⟩]
    · rw [firstSeen_fresh (replayKey_fanout alone) seen, if_neg fun both => seen both.2, if_neg alone,
        List.append_assoc, List.singleton_append]

theorem foldl_countFailure (events : Log) :
    ∀ scan : FailureScan,
      (events.foldl (countFailure hashing superseded taskId fingerprint) scan).out =
        scan.out ++ firstSeen (replayKey hashing) scan.seen
          ((firstSeen eventKey scan.seenEventIds (events.filter fails)).filter
            (countsFailure hashing superseded taskId fingerprint)) := by
  induction events with
  | nil =>
      intro scan
      exact (List.append_nil _).symm
  | cons event rest ih =>
      intro scan
      rw [List.foldl_cons, ih]
      cases failed : fails event with
      | false =>
          rw [countFailure_of_not_fails hashing superseded taskId fingerprint scan failed,
            List.filter_cons_of_neg (by rw [failed]; exact Bool.false_ne_true)]
      | true =>
          rw [List.filter_cons_of_pos failed]
          by_cases known : event.id ≠ "" ∧ event.id ∈ scan.seenEventIds
          · rw [countFailure_of_seen hashing superseded taskId fingerprint scan known.1 known.2,
              firstSeen_repeated (eventKey_named known.1) known.2]
          · rw [countFailure_of_new hashing superseded taskId fingerprint scan failed known,
              firstSeen_noteId scan _ known]
            cases counted : countsFailure hashing superseded taskId fingerprint event with
            | false =>
                rw [if_neg Bool.false_ne_true, out_noteId, seen_noteId,
                  List.filter_cons_of_neg (by rw [counted]; exact Bool.false_ne_true)]
            | true =>
                rw [if_pos rfl, List.filter_cons_of_pos counted, seenEventIds_admitOnce,
                  ← firstSeen_admitOnce, out_noteId, seen_noteId]

/-- The failures that count: the first event of every id, and of these the first one of every
fanout, type and fingerprint. -/
theorem countedFailureEvents_eq (events : Log) :
    countedFailureEvents hashing events taskId fingerprint =
      firstSeen (replayKey hashing) []
        ((firstSeen eventKey [] (events.filter fails)).filter
          (countsFailure hashing (supersededFanouts events) taskId fingerprint)) :=
  foldl_countFailure hashing (supersededFanouts events) taskId fingerprint events {}

end Failures

section Rounds

variable (superseded : List String) (taskId : String)

theorem countRound_of_not (scan : RoundScan) {event : ZfEvent}
    (other : countsRound superseded taskId event = false) :
    countRound superseded taskId scan event = scan := by
  rw [← Bool.not_eq_true, countsRound_iff] at other
  unfold countRound
  split
  · rfl
  split
  · rfl
  split
  · rfl
  · rename_i failed own current
    exact absurd ⟨not_not.mp failed, not_not.mp own,
      (not_and_or.mp current).imp_left not_not.mp⟩ other

theorem countRound_of_counts (scan : RoundScan) {event : ZfEvent}
    (counts : countsRound superseded taskId event = true) :
    countRound superseded taskId scan event =
      if fanoutId event ≠ "" ∧ (fanoutId event, event.type) ∈ scan.seen then scan
      else ⟨scan.rounds + 1, (fanoutId event, event.type) :: scan.seen⟩ := by
  obtain ⟨failed, own, current⟩ := countsRound_iff.mp counts
  rw [countRound, if_neg (not_not_intro failed), if_neg (not_not_intro own),
    if_neg fun both => current.elim both.1 fun other => other both.2]

/-- A step leaves the number of rounds, or adds one. -/
theorem rounds_countRound (scan : RoundScan) (event : ZfEvent) :
    (countRound superseded taskId scan event).rounds = scan.rounds ∨
      (countRound superseded taskId scan event).rounds = scan.rounds + 1 := by
  cases counts : countsRound superseded taskId event with
  | false => exact Or.inl (congrArg RoundScan.rounds (countRound_of_not _ _ scan counts))
  | true =>
      rw [countRound_of_counts _ _ scan counts]
      split
      · exact Or.inl rfl
      · exact Or.inr rfl

theorem foldl_countRound (events : Log) :
    ∀ scan : RoundScan, (events.foldl (countRound superseded taskId) scan).rounds =
      scan.rounds + (roundEvents superseded taskId scan events).length := by
  induction events with
  | nil => exact fun scan => rfl
  | cons event rest ih =>
      intro scan
      rw [List.foldl_cons, ih, roundEvents]
      split
      · rename_i same
        rw [same]
      · rename_i grown
        rw [(rounds_countRound superseded taskId scan event).resolve_left grown, List.length_cons]
        omega

/-- A pass that has noted an event without a fanout goes on as before. -/
theorem firstSeen_alone (type : String) (seen : List (String × String)) (events : Log) :
    firstSeen roundKey (("", type) :: seen) events = firstSeen roundKey seen events := by
  refine firstSeen_congr fun event _ key keyed => ?_
  rw [List.mem_cons, or_iff_right]
  rintro rfl
  unfold roundKey at keyed
  split at keyed
  · exact nomatch keyed
  · rename_i fanout
    exact fanout (Prod.mk.inj (Option.some.inj keyed)).1

theorem roundEvents_eq (events : Log) :
    ∀ scan : RoundScan, roundEvents superseded taskId scan events =
      firstSeen roundKey scan.seen (events.filter (countsRound superseded taskId)) := by
  induction events with
  | nil => exact fun scan => rfl
  | cons event rest ih =>
      intro scan
      rw [roundEvents, ih]
      cases counts : countsRound superseded taskId event with
      | false =>
          rw [countRound_of_not _ _ scan counts, if_pos rfl,
            List.filter_cons_of_neg (by rw [counts]; exact Bool.false_ne_true)]
      | true =>
          have step := countRound_of_counts superseded taskId scan counts
          rw [List.filter_cons_of_pos counts]
          by_cases alone : fanoutId event = ""
          · rw [if_neg fun both => both.1 alone] at step
            rw [step, if_neg (Nat.succ_ne_self _), firstSeen_keyless (roundKey_alone alone), alone,
              firstSeen_alone]
          · by_cases seen : (fanoutId event, event.type) ∈ scan.seen
            · rw [if_pos ⟨alone, seen⟩] at step
              rw [step, if_pos rfl, firstSeen_repeated (roundKey_fanout alone) seen]
            · rw [if_neg fun both => seen both.2] at step
              rw [step, if_neg (Nat.succ_ne_self _),
                firstSeen_fresh (roundKey_fanout alone) seen]

/-- The rounds: the first failure of every fanout and type. -/
theorem countedRounds_eq (events : Log) :
    countedRounds events taskId =
      firstSeen roundKey [] (events.filter (countsRound (cancelledFanouts events) taskId)) :=
  roundEvents_eq (cancelledFanouts events) taskId events {}

theorem countedReworkRounds_eq (events : Log) :
    countedReworkRounds events taskId = (countedRounds events taskId).length :=
  (foldl_countRound (cancelledFanouts events) taskId events {}).trans (Nat.zero_add _)

end Rounds

/-- A failure that no fanout names and that the rounds count at every copy. -/
def CountsAgainAsRound (taskId : String) (event : ZfEvent) : Prop :=
  fails event = true ∧ eventTaskId event = taskId ∧ fanoutId event = ""

/-- A failure that neither an id nor a fanout names and that is listed at every copy. -/
def CountsAgainAsFailure (hashing : Hashing) (taskId : String) (fingerprint : Option String)
    (event : ZfEvent) : Prop :=
  fails event = true ∧ event.id = "" ∧ fanoutId event = "" ∧
    countsFailure hashing [] taskId fingerprint event = true

section Copies

variable {events echoed copies : Log} (rel : Echoes [] events echoed copies)
include rel

theorem Echoes.mem_cancelledFanouts (fanout : String) :
    fanout ∈ cancelledFanouts echoed ↔ fanout ∈ cancelledFanouts events := by
  unfold cancelledFanouts
  simp only [List.mem_filterMap, List.mem_filter, rel.mem_iff]

theorem Echoes.mem_supersededFanouts (fanout : String) :
    fanout ∈ supersededFanouts echoed ↔ fanout ∈ supersededFanouts events := by
  unfold supersededFanouts
  simp only [List.mem_filterMap, List.mem_filter, rel.mem_iff]

theorem Echoes.countedRounds (taskId : String) :
    Echoes [] (countedRounds events taskId) (countedRounds echoed taskId)
      ((copies.filter (countsRound (cancelledFanouts events) taskId)).filter
        fun event => (roundKey event).isNone) := by
  have same : countsRound (cancelledFanouts echoed) taskId =
      countsRound (cancelledFanouts events) taskId := by
    funext event
    rw [Bool.eq_iff_iff, countsRound_iff, countsRound_iff, Echoes.mem_cancelledFanouts rel]
  rw [countedRounds_eq, countedRounds_eq, same]
  exact (rel.filter (countsRound (cancelledFanouts events) taskId)).firstSeen fun _ => nofun

theorem Echoes.countedFailureEvents (hashing : Hashing) (taskId : String)
    (fingerprint : Option String) :
    Echoes [] (countedFailureEvents hashing events taskId fingerprint)
      (countedFailureEvents hashing echoed taskId fingerprint)
      ((((copies.filter fails).filter fun event => (eventKey event).isNone).filter
        (countsFailure hashing (supersededFanouts events) taskId fingerprint)).filter
          fun event => (replayKey hashing event).isNone) := by
  have same : countsFailure hashing (supersededFanouts echoed) taskId fingerprint =
      countsFailure hashing (supersededFanouts events) taskId fingerprint := by
    funext event
    rw [Bool.eq_iff_iff, countsFailure_iff, countsFailure_iff, Echoes.mem_supersededFanouts rel]
  rw [countedFailureEvents_eq, countedFailureEvents_eq, same]
  have once : Echoes [] (firstSeen eventKey [] (events.filter fails))
      (firstSeen eventKey [] (echoed.filter fails)) _ :=
    (rel.filter fails).firstSeen fun _ => nofun
  exact (once.filter _).firstSeen fun _ => nofun

end Copies

/-- The rounds stay the same exactly when no copy is a failure without a fanout. -/
theorem countedReworkRounds_echo_iff {events echoed copies : Log}
    (rel : Echoes [] events echoed copies) (taskId : String) :
    countedReworkRounds echoed taskId = countedReworkRounds events taskId ↔
      ∀ copy ∈ copies, ¬ CountsAgainAsRound taskId copy := by
  have grown := (Echoes.countedRounds rel taskId).length_eq
  rw [countedReworkRounds_eq, countedReworkRounds_eq, grown, Nat.add_eq_left,
    List.length_eq_zero_iff, List.filter_filter, List.filter_eq_nil_iff]
  refine forall₂_congr fun copy _ => not_congr ?_
  rw [Bool.and_eq_true, countsRound_iff]
  constructor
  · rintro ⟨keyless, failed, own, _⟩
    refine ⟨failed, own, by_contra fun fanout => ?_⟩
    rw [roundKey_fanout fanout] at keyless
    exact nomatch keyless
  · rintro ⟨failed, own, alone⟩
    rw [roundKey_alone alone]
    exact ⟨rfl, failed, own, Or.inl alone⟩

/-- The failures stay the same exactly when no copy is a failure without id and fanout. -/
theorem countedFailureEvents_echo_iff {events echoed copies : Log}
    (rel : Echoes [] events echoed copies) (hashing : Hashing) (taskId : String)
    (fingerprint : Option String) :
    countedFailureEvents hashing echoed taskId fingerprint =
        countedFailureEvents hashing events taskId fingerprint ↔
      ∀ copy ∈ copies, ¬ CountsAgainAsFailure hashing taskId fingerprint copy := by
  rw [(Echoes.countedFailureEvents rel hashing taskId fingerprint).eq_iff, List.filter_filter,
    List.filter_filter, List.filter_filter, List.filter_eq_nil_iff]
  refine forall₂_congr fun copy _ => not_congr ?_
  rw [Bool.and_eq_true, Bool.and_eq_true, Bool.and_eq_true, CountsAgainAsFailure,
    countsFailure_iff, countsFailure_iff]
  constructor
  · rintro ⟨⟨⟨keyless, replayed, marked, targets, wanted, _⟩, unnamed⟩, failed⟩
    have alone : fanoutId copy = "" := by_contra fun fanout => by
      rw [replayKey_fanout fanout] at keyless
      exact nomatch keyless
    have noId : copy.id = "" := by_contra fun named => by
      rw [eventKey_named named] at unnamed
      exact nomatch unnamed
    exact ⟨failed, noId, alone, replayed, marked, targets, wanted, Or.inl alone⟩
  · rintro ⟨failed, noId, alone, replayed, marked, targets, wanted, _⟩
    rw [replayKey_alone alone, eventKey_unnamed noId]
    exact ⟨⟨⟨rfl, replayed, marked, targets, wanted, Or.inl alone⟩, rfl⟩, failed⟩

/-- Every event belongs to a fanout and none is marked as a replay or as superseded. -/
def Unmarked (events : Log) : Prop :=
  ∀ event ∈ events, fanoutId event ≠ "" ∧ markedReplay event = false ∧
    markedSuperseded event = false

/-- The two passes count failures of the same fanouts. -/
def SameFanouts (hashing : Hashing) (events : Log) (taskId : String) : Prop :=
  ∀ fanout, (∃ event ∈ countedRounds events taskId, fanoutId event = fanout) ↔
    ∃ event ∈ countedFailureEvents hashing events taskId none, fanoutId event = fanout

/-- A failure of the fanout names the task as its own. -/
def OwnFailure (events : Log) (taskId fanout : String) : Prop :=
  ∃ event ∈ events, fails event = true ∧ eventTaskId event = taskId ∧ fanoutId event = fanout

/-- A failure of the fanout is about the task and repeats the id of no failure before. -/
def NewFailure (events : Log) (taskId fanout : String) : Prop :=
  ∃ event, FirstOf eventKey [] (events.filter fails) event ∧ targetsTask taskId event = true ∧
    fanoutId event = fanout

/-- What makes the two passes agree: no stale completion in a fanout with a failure of the task
that is not cancelled, a new failure for each such fanout, and no fanout that only lists the
task among its failed ones. -/
structure FanoutsAgree (events : Log) (taskId : String) : Prop where
  notStale : ∀ fanout, fanout ∉ cancelledFanouts events → OwnFailure events taskId fanout →
    fanout ∉ supersededFanouts events
  new : ∀ fanout, fanout ∉ cancelledFanouts events → OwnFailure events taskId fanout →
    NewFailure events taskId fanout
  own : ∀ fanout, fanout ∉ supersededFanouts events → NewFailure events taskId fanout →
    OwnFailure events taskId fanout

theorem cancelledFanouts_subset (events : Log) :
    cancelledFanouts events ⊆ supersededFanouts events := by
  refine List.filterMap_subset namedFanout? fun event member => ?_
  rw [List.mem_filter] at member ⊢
  exact ⟨member.1, Bool.or_eq_true_iff.mpr (Or.inl member.2)⟩

theorem exists_countedRounds_iff {events : Log} (unmarked : Unmarked events)
    (taskId fanout : String) :
    (∃ event ∈ countedRounds events taskId, fanoutId event = fanout) ↔
      fanout ∉ cancelledFanouts events ∧ OwnFailure events taskId fanout := by
  rw [countedRounds_eq]
  constructor
  · rintro ⟨event, kept, rfl⟩
    obtain ⟨member, counts⟩ := List.mem_filter.mp (mem_firstSeen_iff.mp kept).mem
    obtain ⟨failed, own, current⟩ := countsRound_iff.mp counts
    exact ⟨current.resolve_left (unmarked event member).1, event, member, failed, own, rfl⟩
  · rintro ⟨current, event, member, failed, own, rfl⟩
    have counts : event ∈ events.filter (countsRound (cancelledFanouts events) taskId) :=
      List.mem_filter.mpr ⟨member, countsRound_iff.mpr ⟨failed, own, Or.inr current⟩⟩
    obtain ⟨first, kept, keyed⟩ := exists_key_firstSeen_iff.mpr
      ⟨List.not_mem_nil, event, counts, roundKey_fanout (unmarked event member).1⟩
    refine ⟨first, kept, ?_⟩
    obtain ⟨inside, _⟩ := List.mem_filter.mp (mem_firstSeen_iff.mp kept).mem
    rw [roundKey_fanout (unmarked first inside).1] at keyed
    exact (Prod.mk.inj (Option.some.inj keyed)).1

theorem exists_countedFailureEvents_iff {events : Log} (unmarked : Unmarked events)
    (hashing : Hashing) (taskId fanout : String) :
    (∃ event ∈ countedFailureEvents hashing events taskId none, fanoutId event = fanout) ↔
      fanout ∉ supersededFanouts events ∧ NewFailure events taskId fanout := by
  rw [countedFailureEvents_eq]
  constructor
  · rintro ⟨event, kept, rfl⟩
    obtain ⟨first, counts⟩ := List.mem_filter.mp (mem_firstSeen_iff.mp kept).mem
    obtain ⟨_, _, targets, _, current⟩ := countsFailure_iff.mp counts
    have new := mem_firstSeen_iff.mp first
    have member := (List.mem_filter.mp new.mem).1
    exact ⟨current.resolve_left (unmarked event member).1, event, new, targets, rfl⟩
  · rintro ⟨current, event, new, targets, rfl⟩
    have member := (List.mem_filter.mp new.mem).1
    obtain ⟨fanout, replayed, marked⟩ := unmarked event member
    have counts : countsFailure hashing (supersededFanouts events) taskId none event = true :=
      countsFailure_iff.mpr ⟨Bool.eq_false_iff.mp replayed, Bool.eq_false_iff.mp marked, targets,
        Or.inl rfl, Or.inr current⟩
    have counts := List.mem_filter.mpr ⟨mem_firstSeen_iff.mpr new, counts⟩
    obtain ⟨first, kept, keyed⟩ := exists_key_firstSeen_iff.mpr
      ⟨List.not_mem_nil, event, counts, replayKey_fanout fanout⟩
    refine ⟨first, kept, ?_⟩
    have inside := (List.mem_filter.mp (mem_firstSeen_iff.mp kept).mem).1
    have inside := (List.mem_filter.mp (mem_firstSeen_iff.mp inside).mem).1
    rw [replayKey_fanout (unmarked first inside).1] at keyed
    exact (Prod.mk.inj (Option.some.inj keyed)).1

theorem sameFanouts_iff {events : Log} (unmarked : Unmarked events) (hashing : Hashing)
    (taskId : String) : SameFanouts hashing events taskId ↔ FanoutsAgree events taskId := by
  unfold SameFanouts
  simp only [exists_countedRounds_iff unmarked, exists_countedFailureEvents_iff unmarked]
  constructor
  · intro same
    exact {
      notStale := fun fanout current own => ((same fanout).mp ⟨current, own⟩).1
      new := fun fanout current own => ((same fanout).mp ⟨current, own⟩).2
      own := fun fanout current new => ((same fanout).mpr ⟨current, new⟩).2 }
  · intro agree fanout
    constructor
    · rintro ⟨current, own⟩
      exact ⟨agree.notStale fanout current own, agree.new fanout current own⟩
    · rintro ⟨current, new⟩
      exact ⟨fun cancelled => current (cancelledFanouts_subset events cancelled),
        agree.own fanout current new⟩

/-- Copies of events leave both counts alone exactly when no copy is a failure without a fanout
that is counted again, and the two passes count the same fanouts exactly when no stale
completion, no repeated id and no listed task parts them. -/
theorem replays_never_count_iff (hashing : Hashing) {events echoed copies : Log}
    (rel : Echoes [] events echoed copies) (taskId : String) (fingerprint : Option String) :
    (countedReworkRounds echoed taskId = countedReworkRounds events taskId ∧
        countedFailureEvents hashing echoed taskId fingerprint =
          countedFailureEvents hashing events taskId fingerprint ↔
      ∀ copy ∈ copies, ¬ CountsAgainAsRound taskId copy ∧
        ¬ CountsAgainAsFailure hashing taskId fingerprint copy) ∧
    (Unmarked events → (SameFanouts hashing events taskId ↔ FanoutsAgree events taskId)) := by
  refine ⟨?_, fun unmarked => sameFanouts_iff unmarked hashing taskId⟩
  rw [countedReworkRounds_echo_iff rel, countedFailureEvents_echo_iff rel]
  constructor
  · rintro ⟨rounds, failures⟩ copy member
    exact ⟨rounds copy member, failures copy member⟩
  · intro none
    exact ⟨fun copy member => (none copy member).1, fun copy member => (none copy member).2⟩

/-- A failure with its own fingerprint, in the fanout given. -/
def sampleRejection (id fanoutId : String) : ZfEvent where
  type := "review.rejected"
  id := id
  ts := "2026-07-01T00:00:00Z"
  taskId := some "T-1"
  payload := .obj [("fanout_id", .str fanoutId), ("fingerprint", .str "missing-test")]

theorem copied_fanout_failure_counts_once :
    (countedReworkRounds [sampleRejection "e1" "f1", sampleRejection "e1" "f1"] "T-1" =
        countedReworkRounds [sampleRejection "e1" "f1"] "T-1" ∧
      countedFailureEvents ⟨id, PyString.lowerAscii⟩
          [sampleRejection "e1" "f1", sampleRejection "e1" "f1"] "T-1" none =
        countedFailureEvents ⟨id, PyString.lowerAscii⟩ [sampleRejection "e1" "f1"] "T-1" none) ∧
      FanoutsAgree [sampleRejection "e1" "f1"] "T-1" := by
  have rel : Echoes [] [sampleRejection "e1" "f1"]
      [sampleRejection "e1" "f1", sampleRejection "e1" "f1"] [sampleRejection "e1" "f1"] :=
    .keep _ (.copy List.mem_cons_self (.nil _))
  have fanout : fanoutId (sampleRejection "e1" "f1") ≠ "" := by decide +kernel
  have unmarked : Unmarked [sampleRejection "e1" "f1"] := by
    refine List.forall_mem_singleton.mpr ⟨fanout, ?_, ?_⟩ <;> decide +kernel
  have result := replays_never_count_iff ⟨id, PyString.lowerAscii⟩ rel "T-1" none
  refine ⟨result.1.mpr ?_, (result.2 unmarked).mp ?_⟩
  · refine List.forall_mem_singleton.mpr ⟨fun again => fanout again.2.2, ?_⟩
    exact fun again => fanout again.2.2.1
  · have rounds : countedRounds [sampleRejection "e1" "f1"] "T-1" =
        [sampleRejection "e1" "f1"] := by decide +kernel
    have failures : countedFailureEvents ⟨id, PyString.lowerAscii⟩ [sampleRejection "e1" "f1"]
        "T-1" none = [sampleRejection "e1" "f1"] := by decide +kernel
    intro fanout
    rw [rounds, failures]

/-- A copy of a failure that belongs to no fanout is counted as a further round. -/
theorem copied_lone_failure_counts_twice :
    Echoes [] [sampleRejection "e1" ""] [sampleRejection "e1" "", sampleRejection "e1" ""]
        [sampleRejection "e1" ""] ∧
      countedReworkRounds [sampleRejection "e1" ""] "T-1" = 1 ∧
      countedReworkRounds [sampleRejection "e1" "", sampleRejection "e1" ""] "T-1" = 2 :=
  ⟨.keep _ (.copy List.mem_cons_self (.nil _)), by decide +kernel, by decide +kernel⟩

end ZaofuFormal.Fanout
