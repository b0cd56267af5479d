import ZaofuFormal.Foundation.Runs
import ZaofuFormal.Requests.Request

/-!
# Unclear requests do not move

A projection that is built from a spec is clarifying as long as a field is
missing or a question is open, and the later statuses are entered from clear
ones only.  A synthesis result without questions makes a clarifying request
ready without looking at its missing fields; every run in which no such result
meets a request with missing fields keeps unclear requests where they are.
-/

namespace ZaofuFormal.Requests

open Foundation
open Fallible (bind_eq_ok refuse_eq_ok_iff required_eq_ok_iff)

theorem attempt_invariant {α β : Type} {computed : Except RequestError α} {files : Files}
    {next : α → Outcome β} (invariant : Files → Prop) (initial : invariant files)
    (continued : ∀ value, computed = .ok value → invariant (next value).2) :
    invariant (attempt computed files next).2 := by
  cases computed with
  | error error => exact initial
  | ok value => exact continued value rfl

theorem andThen_invariant {α β : Type} {first : Outcome α} {next : α → Files → Outcome β}
    (invariant : Files → Prop) (initial : invariant first.2)
    (continued : ∀ value, first.1 = .ok value → invariant (next value first.2).2) :
    invariant (andThen first next).2 :=
  attempt_invariant invariant initial continued

@[simp] theorem writeRequirementSpec_requests (env : Env) (files : Files) (spec : RequirementSpec) :
    (writeRequirementSpec env files spec).2.requests = files.requests := by
  unfold writeRequirementSpec
  exact attempt_invariant (fun next => next.requests = files.requests) rfl fun _ _ => rfl

/-- Only a clarifying request has missing fields or open questions. -/
def Clear (projection : Projection) : Prop :=
  projection.status ≠ .clarifying →
    projection.missingRequiredFields = [] ∧ projection.openQuestions = []

def AllClear (files : Files) : Prop :=
  ∀ path projection, files.requests.get? path = some projection → Clear projection

theorem allClear_of_requests {files next : Files} (clear : AllClear files)
    (same : next.requests = files.requests) : AllClear next := by
  intro path projection found
  rw [same] at found
  exact clear path projection found

theorem AllClear.writeProjection {files : Files} (clear : AllClear files) {env : Env}
    {projection : Projection} (written : Clear projection) :
    AllClear (writeProjection env files projection) := by
  intro path other found
  rw [Requests.writeProjection, Dict.get?_insert] at found
  split at found
  · rw [← Option.some.inj found]
    exact written
  · exact clear path other found

variable {projection written : Projection}

theorem projectionOf_clear {env : Env} {manifest : Json} {spec : RequirementSpec}
    {specRef : SpecPath} {digest now : String} {prior : Option Projection}
    (built : projectionOf env manifest spec specRef digest prior now = .ok projection) :
    Clear projection := by
  unfold projectionOf at built
  obtain ⟨missing, _, built⟩ := bind_eq_ok built
  obtain ⟨origin, _, built⟩ := bind_eq_ok built
  cases built
  intro settled
  dsimp only at settled ⊢
  by_cases unclear : missing ≠ [] ∨ stringsOf spec.openQuestions ≠ []
  · rw [if_pos unclear] at settled
    exact absurd rfl settled
  · exact ⟨not_not.mp (not_or.mp unclear).1, not_not.mp (not_or.mp unclear).2⟩

/-- A change of a loaded projection keeps the projections clear when it turns
clear projections into clear ones. -/
theorem applyBinding_clear {env : Env} {files : Files} (clear : AllClear files)
    {requestId : String} {bind : Projection → Except RequestError Binding}
    (kept : ∀ projection written, loadWorkflowRequest env files requestId = some projection →
      Clear projection → bind projection = .ok (.written written) → Clear written) :
    AllClear (applyBinding env files requestId bind).2 := by
  refine attempt_invariant AllClear clear fun binding bound => ?_
  obtain ⟨projection, loaded, bound⟩ := bind_eq_ok bound
  cases binding with
  | unchanged projection => exact clear
  | written written =>
      have found := required_eq_ok_iff.mp loaded
      exact clear.writeProjection (kept projection written found (clear _ _ found) bound)

variable {env : Env} {files : Files}

theorem registerAgain_clear (clear : AllClear files) (call : Register) {existing : Projection}
    (loaded : Clear existing) : AllClear (registerAgain env files call existing).2 := by
  refine attempt_invariant AllClear clear fun (origin, current) _ => ?_
  have written : AllClear (writeRequirementSpec env files current).2 :=
    allClear_of_requests clear (by simp)
  refine andThen_invariant AllClear written fun reference _ => ?_
  exact attempt_invariant AllClear written fun _ _ => written.writeProjection loaded

theorem storeRevision_clear (clear : AllClear files) (manifest : Json) (spec : RequirementSpec)
    (prior : Option Projection) (now : String) :
    AllClear (storeRevision env files manifest spec prior now).2 := by
  have written : AllClear (writeRequirementSpec env files spec).2 :=
    allClear_of_requests clear (by simp)
  refine andThen_invariant AllClear written fun reference _ => ?_
  refine attempt_invariant AllClear written fun projection built => ?_
  obtain ⟨_, projected, built⟩ := bind_eq_ok built
  obtain ⟨_, _, built⟩ := bind_eq_ok built
  cases built
  exact written.writeProjection (projectionOf_clear projected)

theorem registerFirst_clear (clear : AllClear files) (call : Register) :
    AllClear (registerFirst env files call).2 :=
  attempt_invariant AllClear clear fun spec _ => storeRevision_clear clear _ spec _ _

theorem registerWorkflowIntake_clear (clear : AllClear files) (call : Register) :
    AllClear (registerWorkflowIntake env files call).2 := by
  refine attempt_invariant AllClear clear fun _ _ => ?_
  cases loaded : loadWorkflowRequest env files (manifestRequestId call.manifest) with
  | none => exact registerFirst_clear clear call
  | some existing => exact registerAgain_clear clear call (clear _ _ loaded)

theorem readRevision_clear (clear : AllClear files) (call : Revise) :
    AllClear (readRevision env files call).2 := by
  refine attempt_invariant AllClear clear fun _ _ => ?_
  have loaded : AllClear (loadOrRegister env files call).2 := by
    unfold loadOrRegister
    split
    · exact clear
    · exact registerWorkflowIntake_clear clear _
  refine andThen_invariant AllClear loaded fun prior _ => ?_
  exact attempt_invariant AllClear loaded fun _ _ => loaded

theorem writeRevision_clear (clear : AllClear files) (call : Revise) (observed : Observed) :
    AllClear (writeRevision env files call observed).2 :=
  storeRevision_clear clear call.manifest (revisedSpec call observed) (some observed.prior) call.now

theorem reviseWorkflowRequest_clear (clear : AllClear files) (call : Revise) :
    AllClear (reviseWorkflowRequest env files call).2 := by
  have read : AllClear (readRevision env files call).2 := readRevision_clear clear call
  exact andThen_invariant AllClear read fun observed _ => writeRevision_clear read call observed

/-- No status is entered from clarifying. -/
theorem mark_clear {call : Mark} (loaded : Clear projection)
    (marked : mark call projection = .ok (.written written)) : Clear written := by
  unfold mark at marked
  obtain ⟨status, _, marked⟩ := bind_eq_ok marked
  split at marked
  · cases marked
  · obtain ⟨_, allowed, marked⟩ := bind_eq_ok marked
    cases marked
    intro _
    refine loaded fun clarifying => ?_
    have entered := not_not.mp (refuse_eq_ok_iff.mp allowed)
    rw [clarifying] at entered
    cases entered

theorem bindProposal_clear {call : BindProposal}
    (loaded : Clear projection) (bound : bindProposal call projection = .ok (.written written)) :
    Clear written := by
  unfold bindProposal at bound
  obtain ⟨_, _, bound⟩ := bind_eq_ok bound
  split at bound
  · obtain ⟨_, _, bound⟩ := bind_eq_ok bound
    cases bound
  · obtain ⟨_, allowed, bound⟩ := bind_eq_ok bound
    cases bound
    intro _
    refine loaded fun clarifying => refuse_eq_ok_iff.mp allowed ?_
    rw [clarifying]
    exact ⟨by decide, by decide⟩

theorem bindSynthesisResult_clear {call : BindSynthesisResult}
    (complete : call.questions = [] → projection.missingRequiredFields = [])
    (bound : bindSynthesisResult call projection = .ok (.written written)) : Clear written := by
  unfold bindSynthesisResult at bound
  obtain ⟨_, _, bound⟩ := bind_eq_ok bound
  obtain ⟨_, _, bound⟩ := bind_eq_ok bound
  obtain ⟨_, _, bound⟩ := bind_eq_ok bound
  cases bound
  intro settled
  dsimp only at settled ⊢
  by_cases questions : call.questions ≠ []
  · rw [if_pos questions] at settled
    exact absurd rfl settled
  · exact ⟨complete (not_not.mp questions), not_not.mp questions⟩

theorem bindSynthesisOperation_clear {call : BindSynthesisOperation} (loaded : Clear projection)
    (bound : bindSynthesisOperation call projection = .ok (.written written)) : Clear written := by
  unfold bindSynthesisOperation at bound
  obtain ⟨_, _, bound⟩ := bind_eq_ok bound
  obtain ⟨_, _, bound⟩ := bind_eq_ok bound
  split at bound
  · cases bound
  · cases bound
    exact loaded

theorem adoptResearch_clear {call : AdoptResearch} (loaded : Clear projection)
    (bound : adoptResearch env call projection = .ok (.written written)) :
    Clear written := by
  unfold adoptResearch at bound
  obtain ⟨_, _, bound⟩ := bind_eq_ok bound
  obtain ⟨_, _, bound⟩ := bind_eq_ok bound
  obtain ⟨_, _, bound⟩ := bind_eq_ok bound
  split at bound
  · cases bound
  · obtain ⟨_, _, bound⟩ := bind_eq_ok bound
    cases bound
    exact loaded

/-- A marked projection was clear when the loaded ones were. -/
theorem markWorkflowRequest_ok {call : Mark} {marked : Projection}
    (clear : AllClear files) (answered : (markWorkflowRequest env files call).1 = .ok marked) :
    Clear marked := by
  unfold markWorkflowRequest applyBinding attempt at answered
  split at answered
  · cases answered
  · rename_i binding bound
    obtain ⟨projection, loaded, bound⟩ := bind_eq_ok bound
    have found := required_eq_ok_iff.mp loaded
    cases binding with
    | unchanged same =>
        cases answered
        unfold mark at bound
        obtain ⟨status, _, bound⟩ := bind_eq_ok bound
        split at bound
        · cases bound
          exact clear _ _ found
        · obtain ⟨_, _, bound⟩ := bind_eq_ok bound
          cases bound
    | written written =>
        cases answered
        exact mark_clear (clear _ _ found) bound

theorem markWorkflowRequest_clear (clear : AllClear files) (call : Mark) :
    AllClear (markWorkflowRequest env files call).2 :=
  applyBinding_clear clear fun _ _ _ loaded bound => mark_clear loaded bound

theorem rejectWorkflowProposal_clear (clear : AllClear files) (call : RejectProposal) :
    AllClear (rejectWorkflowProposal env files call).2 := by
  refine attempt_invariant AllClear clear fun _ _ => ?_
  have marked : AllClear (markWorkflowRequest env files
      ⟨call.requestId, "rejected", "", call.now⟩).2 := markWorkflowRequest_clear clear _
  refine andThen_invariant AllClear marked fun projection answered => ?_
  have cleared : Clear projection := markWorkflowRequest_ok clear answered
  exact marked.writeProjection cleared

/-- A synthesis result without open questions meets a request without missing fields. -/
def Admissible (env : Env) (files : Files) : Call → Prop
  | .bindSynthesisResult call => call.questions = [] →
      ((loadWorkflowRequest env files call.requestId).map
        Projection.missingRequiredFields).getD [] = []
  | _ => True

instance (env : Env) (files : Files) (call : Call) : Decidable (Admissible env files call) := by
  cases call with
  | bindSynthesisResult call => exact inferInstanceAs (Decidable (_ → _))
  | _ => exact inferInstanceAs (Decidable True)

theorem step_clear (clear : AllClear files) {call : Call} (admissible : Admissible env files call) :
    AllClear (step env files call) := by
  cases call with
  | register call => exact registerWorkflowIntake_clear clear call
  | revise call => exact reviseWorkflowRequest_clear clear call
  | mark call => exact markWorkflowRequest_clear clear call
  | bindProposal call =>
      exact applyBinding_clear clear fun _ _ _ loaded bound => bindProposal_clear loaded bound
  | bindSynthesisResult call =>
      refine applyBinding_clear clear fun projection _ loaded _ bound => ?_
      refine bindSynthesisResult_clear (fun questions => ?_) bound
      have missing := admissible questions
      rwa [loaded] at missing
  | bindSynthesisOperation call =>
      exact applyBinding_clear clear fun _ _ _ loaded bound =>
        bindSynthesisOperation_clear loaded bound
  | rejectProposal call => exact rejectWorkflowProposal_clear clear call
  | adoptResearch call =>
      exact applyBinding_clear clear fun _ _ _ loaded bound => adoptResearch_clear loaded bound

/-- No unclear request is in a later status than clarifying. -/
def NoUnclearRequestMoved (files : Files) : Prop :=
  ∀ path projection, files.requests.get? path = some projection →
    projection.status ≠ .clarifying → projection.status ≠ .rejected →
    projection.missingRequiredFields = [] ∧ projection.openQuestions = [] ∧
      requestReadinessBlockers (some projection) = []

theorem Clear.no_blockers (clear : Clear projection) (settled : projection.status ≠ .clarifying) :
    requestReadinessBlockers (some projection) = [] := by
  obtain ⟨missing, questions⟩ := clear settled
  rw [requestReadinessBlockers, missing, questions]
  rfl

theorem no_unclear_request_moved (env : Env) (calls : List Call)
    (admissible : Runs.Along (step env) (Admissible env) Files.empty calls) :
    NoUnclearRequestMoved (Runs.run (step env) Files.empty calls) := by
  have clear : AllClear (Runs.run (step env) Files.empty calls) :=
    admissible.invariant AllClear (fun files call clear allowed => step_clear clear allowed)
      fun _ _ found => by cases found
  intro path projection found settled _
  obtain ⟨missing, questions⟩ := clear path projection found settled
  exact ⟨missing, questions, (clear path projection found).no_blockers settled⟩

/-- SHA-256 of the two revisions of the sample requirement. -/
def sampleEnv : Env where
  isAlnum := Char.isAlphanum
  specDigest := fun spec =>
    if spec.revision = 1 then "7066048230f871b1312cd19d788387ec6d5e493ffcb12b9a4293d6b84cf41983"
    else "9317e054a63da4bcc9bc9b6fbbeeecf8aae400057aad966992ca1ea9dd49d0ae"
  bindingDigest := fun _ => ""
  redact := id

def sampleTime : String := "2025-01-01T00:00:00+00:00"

def sampleManifest : Json :=
  .obj [("request_id", .str "REQ-1"), ("kind", .str "prd"), ("objective", .str "build it"),
    ("created_at", .str sampleTime)]

def sampleSynthesis (revision : Int) (digest : String) : BindSynthesisResult where
  requestId := "REQ-1"
  requestRevision := revision
  requirementDigest := digest
  synthesisRef := ⟨"synthesis.json", ""⟩
  synthesisDigest := ""
  selectedFlowFamily := "prd"
  openQuestions := []
  now := sampleTime

/-- The target is filled in before a synthesis result without questions is bound. -/
def completedCalls : List Call :=
  [.register ⟨sampleManifest, .obj [], sampleTime⟩,
    .revise {
      manifest := sampleManifest
      intake := .obj []
      actor := "owner"
      targetRoot := some "app"
      confirm := true
      now := sampleTime },
    .bindSynthesisResult (sampleSynthesis 2
      "9317e054a63da4bcc9bc9b6fbbeeecf8aae400057aad966992ca1ea9dd49d0ae")]

theorem completed_request_ready :
    (((Runs.run (step sampleEnv) Files.empty completedCalls).requests.get? "REQ-1").map
        Projection.status = some .ready) ∧
      NoUnclearRequestMoved (Runs.run (step sampleEnv) Files.empty completedCalls) :=
  ⟨by decide +kernel, no_unclear_request_moved sampleEnv completedCalls (by decide +kernel)⟩

/-- The synthesis result is bound while the target is missing. -/
def incompleteCalls : List Call :=
  [.register ⟨sampleManifest, .obj [], sampleTime⟩,
    .bindSynthesisResult (sampleSynthesis 1
      "7066048230f871b1312cd19d788387ec6d5e493ffcb12b9a4293d6b84cf41983")]

theorem incompleteCalls_ready :
    ((Runs.run (step sampleEnv) Files.empty incompleteCalls).requests.get? "REQ-1").map
      (fun projection => (projection.status, projection.missingRequiredFields)) =
        some (.ready, ["target_root"]) := by
  decide +kernel

/-- A synthesis result makes a request ready that still misses its target. -/
theorem incomplete_request_moved :
    ¬∀ (env : Env) (calls : List Call),
      NoUnclearRequestMoved (Runs.run (step env) Files.empty calls) := by
  intro unmoved
  have states := incompleteCalls_ready
  cases found : (Runs.run (step sampleEnv) Files.empty incompleteCalls).requests.get? "REQ-1" with
  | none =>
      rw [found] at states
      cases states
  | some projection =>
      rw [found] at states
      obtain ⟨status, missing⟩ := Prod.mk.inj (Option.some.inj states)
      have clear := unmoved sampleEnv incompleteCalls "REQ-1" projection found
        (by rw [status]; decide) (by rw [status]; decide)
      rw [missing] at clear
      exact absurd clear.1 (by decide)

end ZaofuFormal.Requests
