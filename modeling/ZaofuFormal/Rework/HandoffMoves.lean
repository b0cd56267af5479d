import ZaofuFormal.Rework.Handoffs

/-!
# What an event does to the handoffs

Every event writes back handoffs that it found before it, each by one of six moves, and a
request adds a handoff of its own.
-/

namespace ZaofuFormal.Rework

open Foundation Workflow
open Candidates (boundTaskId)

section Moves

variable (scope : Scope) (before : Log) (event : ZfEvent) (request key : String)

/-- What the event, which names the given request, can make of the handoff under a key, and the
status that the findings of the handoff get. -/
inductive Move : Handoff → Handoff → Status → Prop where
  | superseded (prior : Handoff) (attempt : Int) (requests : Requests event)
      (task : prior.taskId = boundTaskId event) (opened : prior.status.isOpen = true)
      (meets : newReworkSupersedes prior (requestedHandoff scope.sha256 event attempt) = true) :
      Move prior { prior with status := .superseded, lastEventId := event.id } .superseded
  | delivered (handoff : Handoff) (typed : event.type ∈ deliveryTypes)
      (named : key = request) (filled : key ≠ "") :
      Move handoff (handoff.deliver event) .acknowledged
  | claimed (handoff : Handoff) (typed : event.type ∈ implSuccess)
      (task : handoff.taskId = boundTaskId event) (waits : handoff.status = .acknowledged)
      (filled : targetCommit event.body ≠ "")
      (same : identityMatches handoff event.body true = true) :
      Move handoff { handoff with
        status := .resolutionClaimed
        targetCommit := targetCommit event.body
        evidenceRefs := strings (event.body.get "evidence_refs")
        lastEventId := event.id } .resolutionClaimed
  | explicit (handoff : Handoff) (status : Status) (kept : String)
      (written : explicitFeedbackStatus event.type = some status) (named : key = request)
      (filled : key ≠ "") :
      Move handoff
        { handoff with status := status, targetCommit := kept, lastEventId := event.id } status
  | verified (handoff : Handoff) (verification : Verification)
      (typed : event.type ∈ verifySuccess) (independent : isIndependentVerification event = true)
      (passed : verificationPassed event.body = true)
      (read : verificationOf scope before event = some verification)
      (waits : handoff.status = .resolutionClaimed)
      (covered : handoff.targetCommit ∈ verification.targets handoff.taskId)
      (same : identityMatches handoff event.body false = true) :
      Move handoff { handoff with status := .verifiedClosed, lastEventId := event.id }
        .verifiedClosed
  | rejected (handoff : Handoff) (typed : event.type ∈ verifyFailure)
      (waits : handoff.status = .resolutionClaimed) :
      Move handoff { handoff with status := .residual, lastEventId := event.id } .residual

/-- Handoffs of the start are written back one after the other. -/
inductive Moved (start : Feedback) : Feedback → Prop where
  | start : Moved start start
  | put {current : Feedback} {key : String} {handoff after : Handoff} {status : Status}
      {commit : String} (moved : Moved start current)
      (found : start.handoffs.get? key = some handoff)
      (held : current.handoffs.get? key = some handoff)
      (move : Move scope before event (requestId event start.handoffs) key handoff after status) :
      Moved start (current.put key after status event commit)

end Moves

variable {scope : Scope} {before : Log} {event : ZfEvent}

/-- The handoff and its moved form belong to one request. -/
structure SameRequest (first second : Handoff) : Prop where
  request : second.requestEventId = first.requestEventId
  task : second.taskId = first.taskId
  findings : second.findingIds = first.findingIds
  fingerprint : second.failureFingerprint = first.failureFingerprint

theorem Move.sameRequest {request key : String} {handoff after : Handoff} {status : Status}
    (move : Move scope before event request key handoff after status) :
    SameRequest handoff after := by
  cases move <;> exact ⟨rfl, rfl, rfl, rfl⟩

/-- A moved feedback holds under each key what the start held, or one move of it. -/
theorem Moved.get? {start current : Feedback} (moved : Moved scope before event start current)
    (key : String) :
    current.handoffs.get? key = start.handoffs.get? key ∨ ∃ handoff after status,
      start.handoffs.get? key = some handoff ∧ current.handoffs.get? key = some after ∧
        Move scope before event (requestId event start.handoffs) key handoff after status := by
  induction moved with
  | start => exact .inl rfl
  | @put current other handoff after status commit _ found _ move ih =>
      by_cases here : key = other
      · subst here
        exact .inr ⟨handoff, after, status, found, Dict.get?_insert_self _ _ _, move⟩
      · rw [Feedback.put, Dict.get?_insert_ne _ _ here]
        exact ih

namespace Feedback

variable {feedback : Feedback} {commit : String} {revise : Handoff → Option Handoff}

/-- Revising goes through the keys and finds every handoff as it was. -/
theorem reviseAll_rule (holds : List String → Feedback → Prop)
    (initial : holds feedback.handoffs.keys feedback)
    (skip : ∀ current key handoff rest, holds (key :: rest) current →
      current.handoffs.get? key = some handoff → revise handoff = none → holds rest current)
    (write : ∀ current key handoff after rest, holds (key :: rest) current →
      feedback.handoffs.get? key = some handoff → current.handoffs.get? key = some handoff →
        revise handoff = some after →
          holds rest (current.put key after after.status event commit)) :
    holds [] (feedback.reviseAll event commit revise) := by
  have fold : ∀ (rest : List (String × Handoff)) (current : Feedback),
      (rest.map Prod.fst).Nodup → holds (rest.map Prod.fst) current →
      (∀ entry ∈ rest, feedback.handoffs.get? entry.1 = some entry.2 ∧
        current.handoffs.get? entry.1 = some entry.2) →
      holds [] (rest.foldl (reviseEntry event commit revise) current) := by
    intro rest
    induction rest with
    | nil => exact fun _ _ held _ => held
    | cons entry rest ih =>
        intro current distinct held agree
        obtain ⟨fresh, distinct⟩ := List.nodup_cons.mp distinct
        obtain ⟨found, now⟩ := agree entry List.mem_cons_self
        rw [List.foldl_cons, reviseEntry]
        cases revised : revise entry.2 with
        | none =>
            exact ih current distinct (skip _ _ _ _ held now revised) fun other member =>
              agree other (List.mem_cons_of_mem _ member)
        | some after =>
            refine ih _ distinct (write _ _ _ _ _ held found now revised) ?_
            intro other member
            have apart : other.1 ≠ entry.1 := fun same =>
              fresh (same ▸ List.mem_map_of_mem member)
            obtain ⟨otherFound, otherNow⟩ := agree other (List.mem_cons_of_mem _ member)
            exact ⟨otherFound, (Dict.get?_insert_ne _ _ apart).trans otherNow⟩
  refine fold _ feedback feedback.handoffs.nodupKeys initial fun entry member => ?_
  have found := (Dict.get?_eq_some_iff feedback.handoffs entry.1 entry.2).mpr member
  exact ⟨found, found⟩

theorem get?_put (key other : String) (handoff : Handoff) (status : Status) :
    (feedback.put key handoff status event commit).handoffs.get? other =
      if other = key then some handoff else feedback.handoffs.get? other :=
  Dict.get?_insert _ _ _ _

/-- No handoff that is still to be revised is left. -/
theorem revise_of_reviseAll (stable : ∀ prior after, revise prior = some after →
      revise after = none) {key : String} {handoff : Handoff}
    (held : (feedback.reviseAll event commit revise).handoffs.get? key = some handoff) :
    revise handoff = none := by
  have done := @reviseAll_rule event feedback commit revise
    (fun rest current => ∀ key handoff, current.handoffs.get? key = some handoff →
      key ∈ rest ∨ revise handoff = none)
    (fun key handoff found => .inl ((Dict.contains_iff_mem_keys _ _).mp
      (Option.isSome_iff_exists.mpr ⟨handoff, found⟩)))
    (fun current key handoff rest left now none other second found => by
      rcases left other second found with member | none
      · rcases List.mem_cons.mp member with rfl | later
        · cases Option.some.inj (found.symm.trans now)
          exact .inr none
        · exact .inl later
      · exact .inr none)
    (fun current key handoff after rest left _ _ revised other second found => by
      rw [get?_put] at found
      split at found
      · cases found
        exact .inr (stable _ _ revised)
      · rename_i apart
        exact (left other second found).imp_left fun member =>
          (List.mem_cons.mp member).resolve_left apart)
  exact (done key handoff held).resolve_left List.not_mem_nil

end Feedback

theorem delivery_apart : ∀ type ∈ deliveryTypes, type ∉ implSuccess ∧
    explicitFeedbackStatus type = none ∧ type ∉ verifySuccess ∧ type ∉ verifyFailure := by
  decide

theorem claim_apart : ∀ type ∈ implSuccess, type ∉ deliveryTypes ∧
    explicitFeedbackStatus type = none ∧ type ∉ verifySuccess ∧ type ∉ verifyFailure := by
  decide

theorem success_apart : ∀ type ∈ verifySuccess, type ∉ verifyFailure := by
  decide

theorem explicit_apart {type : String} {status : Status}
    (written : explicitFeedbackStatus type = some status) : type ∉ deliveryTypes ∧
      type ∉ implSuccess ∧ type ∉ verifySuccess ∧ type ∉ verifyFailure := by
  have listed := (Dict.find_eq_some_iff (by decide) type status).mp written
  have apart : ∀ entry ∈ explicitStatuses, entry.1 ∉ deliveryTypes ∧ entry.1 ∉ implSuccess ∧
      entry.1 ∉ verifySuccess ∧ entry.1 ∉ verifyFailure := by
    decide
  exact apart _ listed

namespace Reduction

variable {state : Reduction} {request : String}

@[simp] theorem feedback_changeAttempt (taskId : String) (payload : Json)
    (change : Attempt → Attempt) :
    (state.changeAttempt taskId payload change).feedback = state.feedback := by
  unfold changeAttempt
  split
  · rfl
  · split <;> rfl

@[simp] theorem feedback_startAttempt :
    (state.startAttempt event).feedback = state.feedback := by
  unfold startAttempt
  dsimp only
  split <;> rfl

@[simp] theorem feedback_accept : (state.accept event).feedback = state.feedback := by
  unfold accept
  dsimp only
  split
  · rfl
  · rw [feedback_changeAttempt]

theorem feedback_deliver_of_other (other : event.type ∉ deliveryTypes) :
    (state.deliver event request).feedback = state.feedback := by
  rw [deliver, if_pos (.inl other)]

theorem feedback_claim_of_other (other : event.type ∉ implSuccess) :
    (state.claim event).feedback = state.feedback := by
  unfold claim
  dsimp only
  rw [if_pos (.inl other)]

theorem setExplicit_of_other (other : explicitFeedbackStatus event.type = none) :
    state.setExplicit event request = state := by
  unfold setExplicit
  rw [other]

theorem verify_of_other (other : event.type ∉ verifySuccess) :
    state.verify scope before event = some state := by
  rw [verify, if_pos (.inl other)]

theorem reject_of_other (other : event.type ∉ verifyFailure) : state.reject event = state := by
  unfold reject
  dsimp only
  rw [if_pos (.inl other)]

theorem mem_mentions_requestId {handoffs : Dict String Handoff}
    (filled : requestId event handoffs ≠ "") : requestId event handoffs ∈ mentions event := by
  unfold requestId at filled ⊢
  cases found : (mentions event).find? handoffs.contains with
  | none =>
      rw [found] at filled
      exact absurd rfl filled
  | some named => exact List.mem_of_find?_eq_some found

theorem latestHandoff_eq_some {feedback : Feedback} {taskId key : String} {status : Status}
    {handoff : Handoff} (latest : feedback.latestHandoff taskId status = some (key, handoff)) :
    feedback.handoffs.get? key = some handoff ∧ handoff.taskId = taskId ∧
      handoff.status = status := by
  have member := List.mem_reverse.mp (List.mem_of_find?_eq_some latest)
  have both := List.find?_some latest
  rw [Bool.and_eq_true, decide_eq_true_iff, decide_eq_true_iff] at both
  exact ⟨(Dict.get?_eq_some_iff _ _ _).mpr member, both⟩

theorem feedback_deliver {handoff : Handoff} (typed : event.type ∈ deliveryTypes)
    (filled : request ≠ "") (found : state.feedback.handoffs.get? request = some handoff) :
    (state.deliver event request).feedback =
      state.feedback.put request (handoff.deliver event) .acknowledged event "" := by
  rw [deliver, if_neg (not_or.mpr ⟨fun other => other typed, filled⟩), found]
  rfl

theorem moved_deliver :
    Moved scope before event state.feedback
      (state.deliver event (requestId event state.feedback.handoffs)).feedback := by
  unfold deliver
  split
  · exact .start
  · rename_i active
    obtain ⟨typed, filled⟩ := not_or.mp active
    split
    · exact .start
    · rename_i handoff found
      exact .put .start found found
        (.delivered handoff (Decidable.not_not.mp typed) rfl filled)

theorem moved_claim : Moved scope before event state.feedback (state.claim event).feedback := by
  unfold claim
  dsimp only
  split
  · exact .start
  · rename_i active
    rw [feedback_changeAttempt]
    split
    · exact .start
    · rename_i key handoff latest
      obtain ⟨found, task, waits⟩ := latestHandoff_eq_some latest
      split
      · exact .start
      · rename_i filled
        split
        · exact .start
        · rename_i same
          exact .put .start found found (.claimed handoff
            (Decidable.not_not.mp (not_or.mp active).1) task waits filled
            ((Bool.not_eq_false _).mp same))

theorem moved_setExplicit :
    Moved scope before event state.feedback
      (state.setExplicit event (requestId event state.feedback.handoffs)).feedback := by
  unfold setExplicit
  split
  · rename_i status handoff written found
    dsimp only
    split
    · exact .start
    · rename_i filled
      split
      · exact .start
      · exact .put .start found found (.explicit handoff status _ written rfl filled)
  · exact .start

/-- The body of the verification loop: a handoff that is still claimed stands as it did before
the event. -/
theorem moved_verified {verification : Verification} {next : Feedback} {task key : String}
    {handoff after : Handoff} (typed : ¬ event.type ∉ verifySuccess)
    (independent : ¬ isIndependentVerification event = false)
    (passed : ¬ verificationPassed event.body = false)
    (read : verificationOf scope before event = some verification)
    (held : Moved scope before event state.feedback next ∧
      ∀ key handoff, next.handoffs.get? key = some handoff →
        handoff.status = .resolutionClaimed → state.feedback.handoffs.get? key = some handoff)
    (now : next.handoffs.get? key = some handoff)
    (revised : closes verification event task handoff = some after) :
    Moved scope before event state.feedback
        (next.put key after after.status event verification.target) ∧
      ∀ other second,
        (next.put key after after.status event verification.target).handoffs.get? other =
          some second → second.status = .resolutionClaimed →
            state.feedback.handoffs.get? other = some second := by
  unfold closes at revised
  split at revised
  · rename_i claimed
    cases revised
    obtain ⟨claimed, matched⟩ := claimed
    rw [claims, Bool.and_eq_true, decide_eq_true_iff, decide_eq_true_iff] at claimed
    unfold mismatch at matched
    split at matched
    · cases matched
    · rename_i covered
      split at matched
      · cases matched
      · rename_i same
        refine ⟨.put held.1 (held.2 key handoff now claimed.2) now (.verified handoff
          verification (Decidable.not_not.mp typed)
          ((Bool.not_eq_false _).mp independent) ((Bool.not_eq_false _).mp passed) read
          claimed.2 (Decidable.not_not.mp covered) ((Bool.not_eq_false _).mp same)), ?_⟩
        intro other second present waits
        rw [Feedback.get?_put] at present
        split at present
        · cases present
          cases waits
        · exact held.2 other second present waits
  · cases revised

theorem moved_verify {verified : Reduction}
    (done : state.verify scope before event = some verified) :
    Moved scope before event state.feedback verified.feedback := by
  unfold verify at done
  split at done
  · cases done
    exact .start
  · rename_i active
    rw [not_or, not_or] at active
    obtain ⟨typed, independent, passed⟩ := active
    obtain ⟨verification, read, rfl⟩ := Option.map_eq_some_iff.mp done
    -- What is still claimed was not written by an earlier task of the verification.
    have fold : ∀ (tasks : List String) (current : Reduction),
        Moved scope before event state.feedback current.feedback →
        (∀ key handoff, current.feedback.handoffs.get? key = some handoff →
          handoff.status = .resolutionClaimed →
            state.feedback.handoffs.get? key = some handoff) →
        Moved scope before event state.feedback
          (tasks.foldl (verifyTask verification event) current).feedback := by
      intro tasks
      induction tasks with
      | nil => exact fun _ moved _ => moved
      | cons task rest ih =>
          intro current moved untouched
          rw [List.foldl_cons]
          have both := Feedback.reviseAll_rule
            (fun _ next => Moved scope before event state.feedback next ∧
              ∀ key handoff, next.handoffs.get? key = some handoff →
                handoff.status = .resolutionClaimed →
                  state.feedback.handoffs.get? key = some handoff)
            ⟨moved, untouched⟩ (fun _ _ _ _ held _ _ => held)
            (fun next key handoff after rest held found now revised =>
              @moved_verified scope before event state verification next task key handoff after
                typed independent passed read held now revised)
          exact ih _ both.1 both.2
    exact fold _ state .start fun _ _ found _ => found

theorem moved_reject : Moved scope before event state.feedback (state.reject event).feedback := by
  unfold reject
  dsimp only
  split
  · exact .start
  · rename_i active
    split
    · exact .start
    · rename_i key handoff latest
      obtain ⟨found, _, waits⟩ := latestHandoff_eq_some latest
      split
      · exact .start
      · exact .put .start found found (.rejected handoff
          (Decidable.not_not.mp (not_or.mp active).1) waits)

end Reduction

/-- What one turn of the loop does to the feedback. -/
inductive Turn (scope : Scope) (before : Log) (event : ZfEvent) (start : Feedback) :
    Feedback → Prop where
  | repeated (seen : Seen before event) : Turn scope before event start start
  | requested (attempt : Int) (middle : Feedback) (fresh : ¬ Seen before event)
      (requests : Requests event) (moved : Moved scope before event start middle)
      (apart : ∀ key prior, middle.handoffs.get? key = some prior →
        prior.taskId = boundTaskId event → prior.status.isOpen = true →
          newReworkSupersedes prior (requestedHandoff scope.sha256 event attempt) = false) :
      Turn scope before event start
        (middle.addFindings (requestedHandoff scope.sha256 event attempt))
  | moved {next : Feedback} (fresh : ¬ Seen before event)
      (moved : Moved scope before event start next) : Turn scope before event start next

theorem turn_publish {feedback : Feedback} {attempt : Int} (fresh : ¬ Seen before event)
    (requests : Requests event) :
    Turn scope before event feedback
      (feedback.publish event (requestedHandoff scope.sha256 event attempt)) := by
  refine .requested attempt _ fresh requests ?_ ?_
  · refine Feedback.reviseAll_rule (fun _ current => Moved scope before event feedback current)
      .start (fun _ _ _ _ moved _ _ => moved) ?_
    intro current key prior after rest moved found now revised
    split at revised
    · rename_i superseded
      cases revised
      exact .put moved found now
        (.superseded prior attempt requests superseded.1 superseded.2.1 superseded.2.2)
    · cases revised
  · intro key prior held task opened
    have left := Feedback.revise_of_reviseAll (fun prior after revised => by
      split at revised
      · cases revised
        exact if_neg fun closed => nomatch closed.2.1
      · cases revised) held
    split at left
    · cases left
    · rename_i kept
      exact Bool.eq_false_iff.mpr fun meets => kept ⟨task, opened, meets⟩

/-- A delivery writes no handoff but the one it names. -/
theorem step_of_delivery (state : Reduction) (fresh : ¬ Seen before event)
    (typed : event.type ∈ deliveryTypes) : ∃ next, step scope before state event = some next ∧
      next.feedback = ((state.note event).deliver event
        (requestId event state.feedback.handoffs)).feedback := by
  obtain ⟨noClaim, unwritten, noSuccess, noFailure⟩ := delivery_apart _ typed
  have other : ¬ Requests event := fun requests => by
    rw [requests.1] at typed
    exact absurd typed (by decide)
  refine ⟨?next, ?stepped, ?feedback⟩
  case stepped =>
    rw [step, if_neg fresh]
    dsimp only
    rw [if_neg other, Reduction.setExplicit_of_other unwritten,
      Reduction.verify_of_other noSuccess, Option.map_some]
  case feedback =>
    rw [Reduction.reject_of_other noFailure, Reduction.feedback_accept,
      Reduction.feedback_claim_of_other noClaim, Reduction.feedback_startAttempt]
    rfl

theorem turn_of_step {state next : Reduction}
    (stepped : step scope before state event = some next) :
    Turn scope before event state.feedback next.feedback := by
  have first := stepped
  unfold step at stepped
  split at stepped
  · rename_i seen
    cases stepped
    exact .repeated seen
  · rename_i fresh
    dsimp only at stepped
    split at stepped
    · rename_i requests
      obtain ⟨attempt, _, rfl⟩ := Option.map_eq_some_iff.mp stepped
      exact turn_publish fresh requests
    · refine .moved fresh ?_
      obtain ⟨verified, done, rfl⟩ := Option.map_eq_some_iff.mp stepped
      -- The event is of one kind at most, so that at most one branch writes handoffs.
      by_cases delivery : event.type ∈ deliveryTypes
      · obtain ⟨other, same, feedback⟩ := step_of_delivery state fresh delivery
        cases Option.some.inj (first.symm.trans same)
        rw [feedback]
        exact @Reduction.moved_deliver scope before event (state.note event)
      have begun : ∀ request, (((state.note event).deliver event request).startAttempt
          event).feedback = state.feedback := fun request => by
        rw [Reduction.feedback_startAttempt, Reduction.feedback_deliver_of_other delivery]
        rfl
      by_cases result : event.type ∈ implSuccess
      · obtain ⟨_, unwritten, noSuccess, noFailure⟩ := claim_apart _ result
        rw [Reduction.setExplicit_of_other unwritten, Reduction.verify_of_other noSuccess] at done
        cases done
        rw [Reduction.reject_of_other noFailure, Reduction.feedback_accept, ← begun]
        exact Reduction.moved_claim
      have reported : ∀ request, (((((state.note event).deliver event request).startAttempt
          event).claim event).accept event).feedback = state.feedback := fun request => by
        rw [Reduction.feedback_accept, Reduction.feedback_claim_of_other result, begun]
      cases written : explicitFeedbackStatus event.type with
      | some status =>
          obtain ⟨_, _, noSuccess, noFailure⟩ := explicit_apart written
          rw [Reduction.verify_of_other noSuccess] at done
          cases done
          have moves := @Reduction.moved_setExplicit scope before event
            (((((state.note event).deliver event (requestId event
              state.feedback.handoffs)).startAttempt event).claim event).accept event)
          rw [reported] at moves
          rw [Reduction.reject_of_other noFailure]
          exact moves
      | none =>
          rw [Reduction.setExplicit_of_other written] at done
          have moves := Reduction.moved_verify done
          rw [reported] at moves
          by_cases success : event.type ∈ verifySuccess
          · rw [Reduction.reject_of_other (success_apart _ success)]
            exact moves
          · rw [Reduction.verify_of_other success] at done
            cases done
            have rejects := @Reduction.moved_reject scope before event
              (((((state.note event).deliver event (requestId event (state.note
                event).feedback.handoffs)).startAttempt event).claim event).accept event)
            rw [reported] at rejects
            exact rejects

end ZaofuFormal.Rework
