import ZaofuFormal.Rework.HandoffMoves

/-!
# Runs of the handoff reducer

A handoff is closed only by a verification that covers the commit claimed for it after it was
delivered, and stays closed.  Handoffs that are open for one task share no finding.  A finding
has the status of its handoff, as long as no handoff is delivered that was worked on already.
Explicit feedback events write what they say, and are the exception to all but the last.
-/

namespace ZaofuFormal.Rework

open Foundation Workflow
open Candidates (boundTaskId)

variable {scope : Scope} {before : Log} {event : ZfEvent}

theorem reduce_rule (invariant : Log → Feedback → Prop) {events : Log} {final : Reduction}
    (initial : invariant [] {})
    (preserved : ∀ before event after state next, events = before ++ event :: after →
      scope.reduce before = some state → invariant before state.feedback →
        Turn scope before event state.feedback next → invariant (before ++ [event]) next)
    (done : scope.reduce events = some final) : invariant events final.feedback :=
  Replays.replay_rule (fun before state => invariant before state.feedback) initial
    (fun before event after state next split reached stepped held =>
      preserved before event after state next.feedback split reached held (turn_of_step stepped))
    done

theorem get?_addFindings (feedback : Feedback) (handoff : Handoff) (key : String) :
    (feedback.addFindings handoff).handoffs.get? key =
      if key = handoff.requestEventId then some handoff else feedback.handoffs.get? key :=
  Dict.get?_insert _ _ _ _

variable {after : Handoff} {key : String} {start : Feedback} {handoffs : Dict String Handoff}

/-- What stands under a key after a turn stood there, was moved there, or was requested. -/
theorem Turn.get? {next : Feedback} (turn : Turn scope before event start next)
    (held : next.handoffs.get? key = some after) :
    start.handoffs.get? key = some after ∨
      (∃ handoff status, start.handoffs.get? key = some handoff ∧
        Move scope before event (requestId event start.handoffs) key handoff after status) ∨
      ¬ Seen before event ∧ Requests event ∧ key = event.id ∧
        ∃ attempt, after = requestedHandoff scope.sha256 event attempt := by
  have moves : ∀ {current : Feedback}, Moved scope before event start current →
      current.handoffs.get? key = some after → start.handoffs.get? key = some after ∨
        ∃ handoff status, start.handoffs.get? key = some handoff ∧
          Move scope before event (requestId event start.handoffs) key handoff after status := by
    intro current moved now
    rcases moved.get? key with same | ⟨handoff, other, status, found, present, move⟩
    · exact .inl (same ▸ now)
    · cases Option.some.inj (present.symm.trans now)
      exact .inr ⟨handoff, status, found, move⟩
  cases turn with
  | repeated => exact .inl held
  | moved _ moved => exact (moves moved held).imp_right .inl
  | requested attempt middle fresh requests moved _ =>
      rw [get?_addFindings] at held
      split at held
      · rename_i here
        exact .inr (.inr ⟨fresh, requests, here, attempt, (Option.some.inj held).symm⟩)
      · exact (moves moved held).imp_right .inl

/-- Every handoff stands under its request, which was read. -/
def Keyed (before : Log) (feedback : Feedback) : Prop :=
  ∀ key handoff, feedback.handoffs.get? key = some handoff →
    handoff.requestEventId = key ∧ key ∈ before.map ZfEvent.id

theorem Turn.keyed {next : Feedback} (turn : Turn scope before event start next)
    (keyed : Keyed before start) : Keyed (before ++ [event]) next := by
  intro key after held
  rw [List.map_append, List.mem_append]
  rcases turn.get? held with found | ⟨handoff, _, found, move⟩ | ⟨_, _, rfl, _, rfl⟩
  · exact (keyed key after found).imp_right .inl
  · obtain ⟨request, member⟩ := keyed key handoff found
    exact ⟨move.sameRequest.request.trans request, .inl member⟩
  · exact ⟨rfl, .inr (List.mem_singleton_self _)⟩

theorem keyed_reduce {events : Log} {final : Reduction}
    (done : scope.reduce events = some final) : Keyed events final.feedback :=
  reduce_rule Keyed (fun _ _ impossible => nomatch impossible)
    (fun _ _ _ _ _ _ _ keyed turn => turn.keyed keyed) done

/-- An explicit feedback event names the request. -/
def Overrides (event : ZfEvent) (request : String) : Prop :=
  explicitFeedbackStatus event.type ≠ none ∧ request ∈ mentions event

/-- An event of the list holds, given the events before it. -/
def Follows (events : Log) (holds : Log → ZfEvent → Prop) : Prop :=
  ∃ earlier event later, events = earlier ++ event :: later ∧ holds earlier event

theorem Follows.mono {holds : Log → ZfEvent → Prop} (follows : Follows before holds)
    (event : ZfEvent) : Follows (before ++ [event]) holds := by
  obtain ⟨earlier, held, later, rfl, holds⟩ := follows
  exact ⟨earlier, held, later ++ [event], by simp, holds⟩

instance (event : ZfEvent) (request : String) : Decidable (Overrides event request) :=
  inferInstanceAs (Decidable (_ ∧ _))

theorem overrides_of_written {status : Status}
    (written : explicitFeedbackStatus event.type = some status)
    (filled : requestId event handoffs ≠ "") : Overrides event (requestId event handoffs) :=
  ⟨fun none => Option.some_ne_none status (written.symm.trans none),
    Reduction.mem_mentions_requestId filled⟩

def Opened (events : Log) (handoff : Handoff) : Prop :=
  Follows events fun _ event => Requests event ∧ event.id = handoff.requestEventId ∧
    boundTaskId event = handoff.taskId

def Delivered (events : Log) (handoff : Handoff) : Prop :=
  Follows events fun earlier event => Opened earlier handoff ∧ event.type ∈ deliveryTypes ∧
    handoff.requestEventId ∈ mentions event

def Claimed (events : Log) (handoff : Handoff) : Prop :=
  Follows events fun earlier event => Delivered earlier handoff ∧ event.type ∈ implSuccess ∧
    boundTaskId event = handoff.taskId ∧ targetCommit event.body = handoff.targetCommit ∧
      handoff.targetCommit ≠ ""

/-- An independent verification passed that covers the commit claimed before it. -/
def Verified (scope : Scope) (events : Log) (handoff : Handoff) : Prop :=
  Follows events fun earlier event => Claimed earlier handoff ∧ event.type ∈ verifySuccess ∧
    isIndependentVerification event = true ∧ verificationPassed event.body = true ∧
      (∃ verification, verificationOf scope earlier event = some verification ∧
        handoff.targetCommit ∈ verification.targets handoff.taskId) ∧
      identityMatches handoff event.body false = true

/-- What the status of a handoff says about the events before. -/
def Evidence (scope : Scope) (events : Log) (handoff : Handoff) : Status → Prop
  | .published => Opened events handoff
  | .acknowledged => Delivered events handoff
  | .resolutionClaimed | .residual => Claimed events handoff
  | .verifiedClosed => Verified scope events handoff
  | .superseded | .rerouted => True

theorem Evidence.mono {handoff : Handoff} {status : Status}
    (evidence : Evidence scope before handoff status) (event : ZfEvent) :
    Evidence scope (before ++ [event]) handoff status := by
  cases status with
  | published => exact Follows.mono evidence event
  | acknowledged => exact Follows.mono evidence event
  | resolutionClaimed => exact Follows.mono evidence event
  | residual => exact Follows.mono evidence event
  | verifiedClosed => exact Follows.mono evidence event
  | superseded => trivial
  | rerouted => trivial

theorem Move.evidence {handoff : Handoff} {status : Status}
    (move : Move scope before event (requestId event handoffs) key handoff after status)
    (request : handoff.requestEventId = key) (silent : ¬ Overrides event key)
    (evidence : Evidence scope before handoff handoff.status) :
    Evidence scope (before ++ [event]) after after.status := by
  cases move with
  | superseded => trivial
  | delivered typed named filled =>
      by_cases fresh : handoff.status = .published
      · rw [fresh] at evidence
        rw [Handoff.deliver, if_pos fresh]
        have mentioned : handoff.requestEventId ∈ mentions event := by
          subst named
          exact request ▸ Reduction.mem_mentions_requestId filled
        exact ⟨before, event, [], rfl, evidence, typed, mentioned⟩
      · have later := evidence.mono event
        rw [Handoff.deliver, if_neg fresh]
        generalize handoff.status = current at later ⊢
        cases current <;> exact later
  | claimed typed task waits filled _ =>
      rw [waits] at evidence
      exact ⟨before, event, [], rfl, evidence, typed, task.symm, rfl, filled⟩
  | explicit status kept written named filled =>
      subst named
      exact absurd (overrides_of_written written filled) silent
  | verified verification typed independent passed read waits covered same =>
      rw [waits] at evidence
      exact ⟨before, event, [], rfl, evidence, typed, independent, passed,
        ⟨verification, read, covered⟩, same⟩
  | rejected _ waits =>
      rw [waits] at evidence
      exact Follows.mono evidence event

/-- A handoff that no explicit feedback event names is closed only after it was requested,
delivered and claimed at a commit, in this order, and an independent verification of that
commit passed. -/
theorem closed_handoff_verified {snapshot : Snapshot}
    (reduced : reduceAttemptHandoffs scope = some snapshot) {handoff : Handoff}
    (listed : handoff ∈ snapshot.handoffs) (closed : handoff.status = .verifiedClosed)
    (silent : ∀ event ∈ scope.events, ¬ Overrides event handoff.requestEventId) :
    Verified scope scope.events handoff := by
  obtain ⟨final, done, rfl⟩ := Option.map_eq_some_iff.mp reduced
  obtain ⟨key, held⟩ := (Dict.mem_values_iff _ _).mp listed
  have evident := reduce_rule (fun before feedback => ∀ key handoff,
      feedback.handoffs.get? key = some handoff → (∀ event ∈ before, ¬ Overrides event key) →
        Evidence scope before handoff handoff.status)
    (fun _ _ impossible => nomatch impossible)
    (fun before event _ state next _ reached evident turn key after held silent => by
      have quiet := silent event (List.mem_append_right _ (List.mem_singleton_self _))
      have earlier := fun other member => silent other (List.mem_append_left _ member)
      rcases turn.get? held with found | ⟨handoff, _, found, move⟩ | ⟨_, requests, _, _, rfl⟩
      · exact (evident key after found earlier).mono event
      · exact move.evidence (keyed_reduce reached key handoff found).1 quiet
          (evident key handoff found earlier)
      · exact ⟨before, event, [], rfl, requests, rfl, rfl⟩)
    done
  have evidence := evident key handoff held ((keyed_reduce done key handoff held).1 ▸ silent)
  rwa [closed] at evidence

/-- A request, its dispatch, the claim of a commit and the verification of the commit. -/
def verifiedLog : Log :=
  [{ type := "task.rework.requested", id := "rework-1", ts := "", taskId := some "T-1",
      payload := .obj [("finding_ids", .arr [.str "F-1"])] },
    { type := "task.dispatched", id := "dispatch-1", ts := "", taskId := some "T-1",
      causationId := some "rework-1" },
    { type := "dev.build.done", id := "claim-1", ts := "", taskId := some "T-1",
      payload := .obj [("source_commit", .str "commit-1")] },
    { type := "verify.passed", id := "verify-1", ts := "", taskId := some "T-1",
      payload := .obj [("target_commit", .str "commit-1")] }]

def verifiedScope : Scope := ⟨verifiedLog, "", id⟩

def verifiedHandoff : Handoff :=
  { requestedHandoff id verifiedLog[0] 0 with
    status := .verifiedClosed
    targetCommit := "commit-1"
    lastEventId := "verify-1" }

theorem closed_handoff_verified_once : Verified verifiedScope verifiedLog verifiedHandoff := by
  obtain ⟨snapshot, reduced⟩ := Option.isSome_iff_exists.mp
    (show (reduceAttemptHandoffs verifiedScope).isSome = true by decide +kernel)
  have handoffs : (reduceAttemptHandoffs verifiedScope).map Snapshot.handoffs =
      some [verifiedHandoff] := by
    decide +kernel
  rw [reduced] at handoffs
  exact closed_handoff_verified reduced (Option.some.inj handoffs ▸ List.mem_singleton_self _) rfl
    (by decide)

theorem Move.closed {handoff : Handoff} {status : Status}
    (move : Move scope before event (requestId event handoffs) key handoff after status)
    (silent : ¬ Overrides event key) (closed : handoff.status.isOpen = false) :
    after.status = handoff.status ∧ after.targetCommit = handoff.targetCommit := by
  cases move with
  | superseded _ _ _ opened => exact absurd (closed.symm.trans opened) Bool.false_ne_true
  | delivered =>
      refine ⟨if_neg fun fresh => ?_, rfl⟩
      rw [fresh] at closed
      cases closed
  | claimed _ _ waits =>
      rw [waits] at closed
      cases closed
  | explicit status kept written named filled =>
      subst named
      exact absurd (overrides_of_written written filled) silent
  | verified _ _ _ _ _ waits =>
      rw [waits] at closed
      cases closed
  | rejected _ waits =>
      rw [waits] at closed
      cases closed

/-- Within one replay, whose scope is that of the whole log, a handoff that is no longer open
keeps its status and its commit, whatever follows but an explicit feedback event that names its
request. -/
theorem closed_handoff_final {first second : Log} {state final : Reduction}
    (reached : scope.reduce first = some state)
    (done : scope.reduce (first ++ second) = some final) {key : String} (filled : key ≠ "")
    {handoff : Handoff} (held : state.feedback.handoffs.get? key = some handoff)
    (closed : handoff.status.isOpen = false) (silent : ∀ event ∈ second, ¬ Overrides event key) :
    ∃ last, final.feedback.handoffs.get? key = some last ∧ last.status = handoff.status ∧
      last.targetCommit = handoff.targetCommit := by
  induction second using List.reverseRecOn generalizing final with
  | nil =>
      rw [List.append_nil, reached] at done
      cases done
      exact ⟨handoff, held, rfl, rfl⟩
  | append_singleton second event ih =>
      rw [← List.append_assoc] at done
      obtain ⟨middle, before, stepped⟩ := Replays.replay_concat_iff.mp done
      obtain ⟨last, found, status, commit⟩ := ih before
        (fun other member => silent other (List.mem_append_left _ member))
      have member : event ∈ second ++ [event] :=
        List.mem_append_right _ (List.mem_singleton_self _)
      have turn := turn_of_step stepped
      have moves : ∀ current, Moved scope (first ++ second) event middle.feedback current →
          ∃ next, current.handoffs.get? key = some next ∧ next.status = handoff.status ∧
            next.targetCommit = handoff.targetCommit := by
        intro current moved
        rcases moved.get? key with same | ⟨prior, next, _, present, now, move⟩
        · exact ⟨last, same.trans found, status, commit⟩
        · cases Option.some.inj (present.symm.trans found)
          obtain ⟨kept, target⟩ := move.closed (silent event member) (status ▸ closed)
          exact ⟨next, now, kept.trans status, target.trans commit⟩
      generalize final.feedback = next at turn ⊢
      cases turn with
      | repeated => exact ⟨last, found, status, commit⟩
      | moved _ moved => exact moves _ moved
      | requested attempt current fresh requests moved _ =>
          have apart : key ≠ (requestedHandoff scope.sha256 event attempt).requestEventId :=
            fun (same : key = event.id) =>
              fresh ⟨same ▸ filled, same ▸ (keyed_reduce before key last found).2⟩
          rw [get?_addFindings, if_neg apart]
          exact moves _ moved

/-- A dispatch that names the closed handoff once more. -/
def lateDispatch : ZfEvent :=
  { type := "task.dispatched", id := "dispatch-2", ts := "", taskId := some "T-1",
    causationId := some "rework-1" }

theorem closed_handoff_dispatched : ∃ final last,
    verifiedScope.reduce (verifiedLog ++ [lateDispatch]) = some final ∧
      final.feedback.handoffs.get? "rework-1" = some last ∧
        last.status = .verifiedClosed ∧ last.targetCommit = "commit-1" := by
  obtain ⟨state, reached⟩ := Option.isSome_iff_exists.mp
    (show (verifiedScope.reduce verifiedLog).isSome = true by decide +kernel)
  obtain ⟨final, done⟩ := Option.isSome_iff_exists.mp
    (show (verifiedScope.reduce (verifiedLog ++ [lateDispatch])).isSome = true by decide +kernel)
  have held : (verifiedScope.reduce verifiedLog).map (fun state =>
      state.feedback.handoffs.get? "rework-1") = some (some verifiedHandoff) := by
    decide +kernel
  rw [reached] at held
  obtain ⟨last, kept⟩ := closed_handoff_final reached done (by decide) (Option.some.inj held) rfl
    (by decide)
  exact ⟨final, last, done, kept⟩

/-- An explicit feedback event opens a handoff that is not open. -/
def Reopens (feedback : Feedback) (event : ZfEvent) : Prop :=
  ∃ status handoff, explicitFeedbackStatus event.type = some status ∧ status.isOpen = true ∧
    feedback.handoffs.get? (requestId event feedback.handoffs) = some handoff ∧
      handoff.status.isOpen = false

/-- Two open handoffs of one task share no finding. -/
def Apart (feedback : Feedback) : Prop :=
  ∀ first second one other, feedback.handoffs.get? first = some one →
    feedback.handoffs.get? second = some other → first ≠ second → one.taskId = other.taskId →
      one.status.isOpen = true → other.status.isOpen = true →
        ∀ findingId ∈ one.findingIds, findingId ∉ other.findingIds

/-- An open handoff was open before, unless the event reopens one. -/
theorem Moved.origin {current : Feedback} (moved : Moved scope before event start current)
    (steady : ¬ Reopens start event)
    (held : current.handoffs.get? key = some after) : ∃ handoff,
      start.handoffs.get? key = some handoff ∧ SameRequest handoff after ∧
        (after.status.isOpen = true → handoff.status.isOpen = true) := by
  rcases moved.get? key with same | ⟨handoff, next, _, found, now, move⟩
  · exact ⟨after, same ▸ held, ⟨rfl, rfl, rfl, rfl⟩, id⟩
  · cases Option.some.inj (now.symm.trans held)
    refine ⟨handoff, found, move.sameRequest, fun opened => ?_⟩
    cases move with
    | superseded => cases opened
    | delivered =>
        rw [Handoff.deliver] at opened
        split at opened
        · rename_i fresh
          rw [fresh]
          rfl
        · exact opened
    | claimed _ _ waits => exact congrArg Status.isOpen waits
    | explicit status kept written named filled =>
        subst named
        exact (Bool.not_eq_false _).mp fun closed =>
          steady ⟨_, handoff, written, opened, found, closed⟩
    | verified => cases opened
    | rejected _ waits => exact congrArg Status.isOpen waits

/-- Handoffs that are open for one task share no finding, in every run in which no explicit
feedback event reopens a handoff. -/
theorem open_handoffs_apart {events : Log} {final : Reduction}
    (steady : ∀ before event after state, events = before ++ event :: after →
      scope.reduce before = some state → ¬ Reopens state.feedback event)
    (done : scope.reduce events = some final) : Apart final.feedback := by
  refine reduce_rule (fun _ feedback => Apart feedback)
    (fun _ _ _ _ impossible => nomatch impossible) ?_ done
  intro before event after state next split reached apart turn
  have moves : ∀ current, Moved scope before event state.feedback current → Apart current := by
    intro current moved first second one other held present different task opened also
    obtain ⟨prior, found, same, kept⟩ := moved.origin (steady _ _ _ _ split reached) held
    obtain ⟨rival, known, equal, stays⟩ := moved.origin (steady _ _ _ _ split reached) present
    rw [same.findings, equal.findings]
    exact apart first second prior rival found known different
      (same.task.symm.trans (task.trans equal.task)) (kept opened) (stays also)
  cases turn with
  | repeated => exact apart
  | moved _ moved => exact moves _ moved
  | requested attempt middle _ _ moved clear =>
      have fresh : ∀ key prior, middle.handoffs.get? key = some prior →
          prior.taskId = boundTaskId event → prior.status.isOpen = true →
            ∀ findingId ∈ prior.findingIds,
              findingId ∉ (requestedHandoff scope.sha256 event attempt).findingIds := by
        intro key prior held task opened findingId member shared
        have none := clear key prior held task opened
        rw [newReworkSupersedes] at none
        simp only [Bool.or_eq_false_iff, List.any_eq_false] at none
        exact none.1.1.1 findingId member (List.contains_iff_mem.mpr shared)
      intro first second one other held present different task opened also findingId member
      rw [get?_addFindings] at held present
      split at held
      · rename_i here
        cases held
        rw [if_neg (here ▸ Ne.symm different)] at present
        exact fun shared => fresh second other present task.symm also findingId shared member
      · split at present
        · cases present
          exact fresh first one held task opened findingId member
        · exact moves _ moved first second one other held present different task opened also
            findingId member

/-- A request of a task with the given findings. -/
def requestOf (id : String) (findingIds : List Json) : ZfEvent :=
  { type := "task.rework.requested", id, ts := "", taskId := some "T-1"
    payload := .obj [("finding_ids", .arr findingIds)] }

/-- Two requests of one task, a dispatch of the first, and a third request with its finding. -/
def requestsLog : Log :=
  [requestOf "rework-1" [.str "F-1"], requestOf "rework-2" [.str "F-2"],
    { type := "task.dispatched", id := "dispatch-1", ts := "", taskId := some "T-1",
      causationId := some "rework-1" },
    requestOf "rework-3" [.str "F-1", .str "F-3"]]

theorem open_handoffs_of_requests : ∃ final,
    Scope.reduce ⟨requestsLog, "", id⟩ requestsLog = some final ∧
      final.feedback.handoffs.values.map (fun handoff => (handoff.taskId, handoff.status)) =
        [("T-1", .superseded), ("T-1", .published), ("T-1", .published)] ∧
      Apart final.feedback := by
  have statuses : (Scope.reduce ⟨requestsLog, "", id⟩ requestsLog).map (fun final =>
      final.feedback.handoffs.values.map fun handoff => (handoff.taskId, handoff.status)) =
        some [("T-1", .superseded), ("T-1", .published), ("T-1", .published)] := by
    decide +kernel
  obtain ⟨final, done, listed⟩ := Option.map_eq_some_iff.mp statuses
  refine ⟨final, done, listed, open_handoffs_apart ?_ done⟩
  rintro before event after _ split _ ⟨_, _, written, _⟩
  have unwritten : ∀ event ∈ requestsLog, explicitFeedbackStatus event.type = none := by decide
  rw [unwritten event (by rw [split]; simp)] at written
  cases written

/-- Every finding belongs to a handoff that lists it, and has its status. -/
def Agree (feedback : Feedback) : Prop :=
  ∀ findingId finding, feedback.findings.get? findingId = some finding →
    ∃ handoff, feedback.handoffs.get? finding.requestEventId = some handoff ∧
      findingId ∈ handoff.findingIds ∧ finding.status = handoff.status

/-- A delivery names a handoff that is neither published nor acknowledged and that still has a
finding of its own. -/
def Late (before : Log) (feedback : Feedback) (event : ZfEvent) : Prop :=
  ¬ Seen before event ∧ event.type ∈ deliveryTypes ∧ requestId event feedback.handoffs ≠ "" ∧
    ∃ handoff findingId finding,
      feedback.handoffs.get? (requestId event feedback.handoffs) = some handoff ∧
        handoff.status ∉ [.published, .acknowledged] ∧ findingId ∈ handoff.findingIds ∧
          feedback.findings.get? findingId = some finding ∧
            finding.requestEventId = requestId event feedback.handoffs

theorem get?_setFindingStatus (handoff : Handoff) (status : Status) (event : ZfEvent)
    (commit : String) (findings : Dict String Finding) (findingId : String) :
    (setFindingStatus handoff status event commit findings).get? findingId =
      (findings.get? findingId).map fun finding =>
        if findingId ∈ handoff.findingIds ∧ finding.requestEventId = handoff.requestEventId then
          finding.settle status event commit
        else finding := by
  unfold setFindingStatus
  induction handoff.findingIds generalizing findings with
  | nil => simp
  | cons first rest ih =>
      rw [List.foldl_cons, ih]
      by_cases here : findingId = first
      · subst here
        cases found : findings.get? findingId with
        | none => simp [found]
        | some finding =>
            by_cases own : finding.requestEventId = handoff.requestEventId
            · simp only [own, ne_eq, not_true_eq_false, if_false, Dict.get?_insert_self,
                Option.map_some, List.mem_cons_self, Finding.settle]
              simp only [and_self, if_true, Option.some.injEq]
              split
              · split <;> rfl
              · rfl
            · simp [found, own]
      · simp only [List.mem_cons, here, false_or]
        congr 1
        split
        · rfl
        · split
          · rfl
          · exact Dict.get?_insert_ne _ _ here

/-- Writing a moved handoff back keeps the agreement if its findings get its status. -/
theorem Agree.put {current : Feedback} (agree : Agree current) {key : String}
    {handoff after : Handoff} {status : Status} {commit : String}
    (held : current.handoffs.get? key = some handoff) (request : handoff.requestEventId = key)
    (same : SameRequest handoff after)
    (statuses : ∀ findingId finding, current.findings.get? findingId = some finding →
      finding.requestEventId = key → findingId ∈ handoff.findingIds → status = after.status) :
    Agree (current.put key after status event commit) := by
  intro findingId finding found
  rw [Feedback.put, get?_setFindingStatus] at found
  obtain ⟨prior, present, rfl⟩ := Option.map_eq_some_iff.mp found
  obtain ⟨owner, owned, listed, equal⟩ := agree findingId prior present
  by_cases here : prior.requestEventId = key
  · cases Option.some.inj (held.symm.trans (here ▸ owned))
    have mine : findingId ∈ after.findingIds ∧ prior.requestEventId = after.requestEventId :=
      ⟨same.findings ▸ listed, here.trans (same.request.trans request).symm⟩
    rw [if_pos mine]
    exact ⟨after, (Feedback.get?_put _ _ _ _).trans (if_pos here), mine.1,
      statuses findingId prior present here listed⟩
  · have other : ¬ (findingId ∈ after.findingIds ∧
        prior.requestEventId = after.requestEventId) := fun both =>
      here (both.2.trans (same.request.trans request))
    rw [if_neg other]
    exact ⟨owner, ((Feedback.get?_put _ _ _ _).trans (if_neg here)).trans owned, listed, equal⟩

theorem Moved.agree {current : Feedback} (moved : Moved scope before event start current)
    (keyed : Keyed before start) (fresh : ¬ Seen before event) (agree : Agree start)
    (timely : ¬ Late before start event) :
    Agree current ∧ ∀ findingId finding, current.findings.get? findingId = some finding →
      ∃ prior, start.findings.get? findingId = some prior ∧
        prior.requestEventId = finding.requestEventId := by
  induction moved with
  | start => exact ⟨agree, fun _ finding found => ⟨finding, found, rfl⟩⟩
  | @put current key handoff after status commit _ found held move ih =>
      have owners : ∀ findingId finding,
          (current.put key after status event commit).findings.get? findingId = some finding →
            ∃ prior, start.findings.get? findingId = some prior ∧
              prior.requestEventId = finding.requestEventId := by
        intro findingId finding present
        rw [Feedback.put, get?_setFindingStatus] at present
        obtain ⟨prior, earlier, rfl⟩ := Option.map_eq_some_iff.mp present
        obtain ⟨first, known, same⟩ := ih.2 findingId prior earlier
        refine ⟨first, known, same.trans ?_⟩
        split <;> rfl
      refine ⟨ih.1.put held (keyed key handoff found).1 move.sameRequest ?_, owners⟩
      intro findingId finding present own listed
      cases move with
      | delivered typed named filled =>
          subst named
          obtain ⟨prior, known, same⟩ := ih.2 findingId finding present
          have early : handoff.status ∈ [.published, .acknowledged] := by
            refine Decidable.not_not.mp fun late => timely ⟨fresh, typed, filled, ?_⟩
            exact ⟨handoff, findingId, prior, found, late, listed, known, same.trans own⟩
          rcases List.mem_pair.mp early with status | status <;> simp [Handoff.deliver, status]
      | _ => rfl

/-- After every event each finding has the status of its handoff, if and only if no delivery is
late. -/
theorem findings_agree_iff {events : Log}
    (named : ∀ event ∈ events, Requests event → event.id ≠ "") :
    (∀ before after state, events = before ++ after → scope.reduce before = some state →
      Agree state.feedback) ↔
    ∀ before event after state, events = before ++ event :: after →
      scope.reduce before = some state → ¬ Late before state.feedback event := by
  constructor
  · rintro agree before event after state split reached
      ⟨fresh, typed, filled, handoff, findingId, finding, found, late, listed, present, own⟩
    obtain ⟨next, stepped, feedback⟩ := @step_of_delivery scope before event state fresh typed
    have whole := agree (before ++ [event]) after next (by rw [split]; simp)
      (Replays.replay_concat_iff.mpr ⟨state, reached, stepped⟩)
    rw [feedback, @Reduction.feedback_deliver event (state.note event) _ _ typed filled found]
      at whole
    have settled := get?_setFindingStatus (handoff.deliver event) .acknowledged event ""
      state.feedback.findings findingId
    have request := (keyed_reduce reached _ handoff found).1
    rw [present, Option.map_some, if_pos ⟨listed, own.trans request.symm⟩] at settled
    obtain ⟨owner, owned, _, equal⟩ := whole findingId _ settled
    have here : (finding.settle .acknowledged event "").requestEventId =
        requestId event state.feedback.handoffs := own
    rw [Feedback.get?_put, if_pos here] at owned
    cases owned
    change Status.acknowledged = (if handoff.status = .published then .acknowledged
      else handoff.status) at equal
    split at equal
    · rename_i fresh
      exact late (fresh ▸ List.mem_cons_self)
    · exact late (equal ▸ List.mem_cons_of_mem _ List.mem_cons_self)
  · intro timely before after state split reached
    refine reduce_rule (fun _ feedback => Agree feedback) (fun _ _ impossible => nomatch impossible)
      ?_ reached
    intro first event second prior next inner came agree turn
    have moves := fun current (moved : Moved scope first event prior.feedback current) fresh =>
      (moved.agree (keyed_reduce came) fresh agree
        (timely first event (second ++ after) prior (by rw [split, inner]; simp) came)).1
    cases turn with
    | repeated => exact agree
    | moved fresh moved => exact moves _ moved fresh
    | requested attempt middle fresh requests moved _ =>
        have inside : event ∈ events := by
          rw [split, inner]
          simp
        intro findingId finding found
        rw [Feedback.addFindings, Dict.get?_insertAll_map] at found
        split at found
        · rename_i member
          cases found
          exact ⟨_, (get?_addFindings _ _ _).trans (if_pos rfl), member, rfl⟩
        · obtain ⟨owner, owned, listed, equal⟩ := moves _ moved fresh findingId finding found
          have read : finding.requestEventId ∈ first.map ZfEvent.id := by
            rcases moved.get? finding.requestEventId with same | ⟨_, _, _, earlier, _⟩
            · exact (keyed_reduce came _ owner (same ▸ owned)).2
            · exact (keyed_reduce came _ _ earlier).2
          have apart : finding.requestEventId ≠ event.id := fun same =>
            fresh ⟨named event inside requests, same ▸ read⟩
          exact ⟨owner, ((get?_addFindings _ _ _).trans (if_neg apart)).trans owned, listed, equal⟩

theorem findings_agree_verified :
    (∀ before after state, verifiedLog = before ++ after →
      verifiedScope.reduce before = some state → Agree state.feedback) ↔
    ∀ before event after state, verifiedLog = before ++ event :: after →
      verifiedScope.reduce before = some state → ¬ Late before state.feedback event :=
  findings_agree_iff (by decide +kernel)

end ZaofuFormal.Rework
