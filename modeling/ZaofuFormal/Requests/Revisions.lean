import Mathlib.Data.List.Chain
import Mathlib.Logic.Function.Basic
import ZaofuFormal.Requests.Readiness

/-!
# Interleaved revisions of one request

A revision reads the request, checks what its caller expects of it, and later
writes the next spec and the projection.  Nothing connects the two phases.  As
long as no other revision is written between the phases of a revision, the
written revisions number themselves without gaps and every field that one of
them sets is still in the spec of the next one.
-/

namespace ZaofuFormal.Requests

open Foundation
open Fallible (bind_eq_ok refuse_eq_ok_iff required_eq_ok_iff)

/-! ## Clients and phases -/

inductive Phase where
  | read (client : Nat) (call : Revise)
  | write (client : Nat)

/-- A call that has read and not yet written, and how many revisions had been
written when it read. -/
structure Pending where
  call : Revise
  observed : Observed
  seen : Nat

/-- A call that returned, and the spec that its projection refers to. -/
structure Success where
  call : Revise
  projection : Projection
  stored : Option RequirementSpec

structure System where
  files : Files
  pending : Nat → Option Pending
  done : List Success

def System.start (files : Files) : System := ⟨files, fun _ => none, []⟩

def System.afterRead (system : System) (client : Nat) (call : Revise) :
    Outcome Observed → System
  | (.error _, files) =>
      { system with files, pending := Function.update system.pending client none }
  | (.ok observed, files) =>
      { system with
        files
        pending := Function.update system.pending client
          (some ⟨call, observed, system.done.length⟩) }

def System.afterWrite (system : System) (client : Nat) (call : Revise) :
    Outcome Projection → System
  | (.error _, files) =>
      { system with files, pending := Function.update system.pending client none }
  | (.ok projection, files) =>
      { files
        pending := Function.update system.pending client none
        done := system.done ++
          [⟨call, projection, files.specs.get? projection.requirementSpecRef⟩] }

def System.step (env : Env) (system : System) : Phase → System
  | .read client call => system.afterRead client call (readRevision env system.files call)
  | .write client =>
      match system.pending client with
      | none => system
      | some ⟨call, observed, _⟩ =>
          system.afterWrite client call (writeRevision env system.files call observed)

/-! ## Fields of a spec -/

inductive SpecField where
  | objective
  | sourceRoot
  | targetRoot
  | acceptance
  | constraints
  | openQuestions

/-- What a call sets a field to. -/
def Revise.sets (call : Revise) : SpecField → Option (List String)
  | .objective => call.objective.map fun text => [text]
  | .sourceRoot => call.sourceRoot.map fun text => [text]
  | .targetRoot => call.targetRoot.map fun text => [text]
  | .acceptance => call.acceptance
  | .constraints => call.constraints
  | .openQuestions => call.openQuestions

def RequirementSpec.texts (spec : RequirementSpec) : SpecField → List String
  | .objective => [spec.objective]
  | .sourceRoot => [spec.sourceRoot]
  | .targetRoot => [spec.targetRoot]
  | .acceptance => spec.acceptance
  | .constraints => spec.constraints
  | .openQuestions => spec.openQuestions

/-- Lists are normalised when they are stored. -/
def SpecField.normal : SpecField → List String → List String
  | .objective, texts | .sourceRoot, texts | .targetRoot, texts => texts
  | .acceptance, texts | .constraints, texts | .openQuestions, texts => stringsOf texts

theorem normal_normal (field : SpecField) (texts : List String) :
    field.normal (field.normal texts) = field.normal texts := by
  cases field with
  | objective | sourceRoot | targetRoot => rfl
  | acceptance | constraints | openQuestions => exact stringsOf_stringsOf texts

theorem revisedSpec_texts (call : Revise) (observed : Observed) (field : SpecField) :
    (revisedSpec call observed).texts field =
      field.normal ((call.sets field).getD (observed.current.texts field)) := by
  cases field with
  | objective => cases set : call.objective <;> simp [revisedSpec, normalizeRequirementSpec,
      RequirementSpec.texts, SpecField.normal, Revise.sets, set]
  | sourceRoot => cases set : call.sourceRoot <;> simp [revisedSpec, normalizeRequirementSpec,
      RequirementSpec.texts, SpecField.normal, Revise.sets, set]
  | targetRoot => cases set : call.targetRoot <;> simp [revisedSpec, normalizeRequirementSpec,
      RequirementSpec.texts, SpecField.normal, Revise.sets, set]
  | acceptance | constraints | openQuestions => rfl

/-- The later of two revisions keeps what the earlier one set, unless it sets
the same field itself. -/
structure Keeps (earlier later : Success) : Prop where
  fields : ∃ spec, later.stored = some spec ∧ ∀ field texts,
    earlier.call.sets field = some texts → later.call.sets field = none →
      spec.texts field = field.normal texts
  confirmed : earlier.call.confirm = true →
    ∃ spec, later.stored = some spec ∧ spec.confirmed = true
  answers : later.call.clarificationAnswers = none →
    ∃ before spec, earlier.stored = some before ∧ later.stored = some spec ∧
      spec.clarificationAnswers = before.clarificationAnswers

/-- No update is lost among the revisions that were written, in order. -/
structure LosesNoUpdate (done : List Success) : Prop where
  expected : done.Pairwise fun earlier later =>
    earlier.call.expectedRevision = later.call.expectedRevision →
      earlier.call.expectedRevision = none
  distinct : done.Pairwise fun earlier later =>
    earlier.projection.revision ≠ later.projection.revision
  consecutive : done.IsChain fun earlier later =>
    later.projection.revision = earlier.projection.revision + 1
  kept : done.IsChain Keeps

variable {observed : Observed} {projection prior written : Projection} {spec : RequirementSpec}
  {call : Revise} {client : Nat}

theorem revisedSpec_keeps {earlier later : Success} {before : Observed}
    (earlierStored : earlier.stored = some (revisedSpec earlier.call before))
    (current : observed.current = revisedSpec earlier.call before)
    (laterStored : later.stored = some (revisedSpec later.call observed)) :
    Keeps earlier later where
  fields := by
    refine ⟨_, laterStored, fun field texts sets leaves => ?_⟩
    rw [revisedSpec_texts, leaves, current, revisedSpec_texts, sets]
    exact normal_normal field texts
  confirmed := by
    intro confirms
    refine ⟨_, laterStored, ?_⟩
    simp [revisedSpec, normalizeRequirementSpec, current, confirms]
  answers := by
    intro leaves
    refine ⟨_, _, earlierStored, laterStored, ?_⟩
    simp only [revisedSpec, normalizeRequirementSpec, leaves, current]
    exact normalizeClarificationAnswers_normal _

/-! ## The files of one request -/

/-- Everything that is stored belongs to the request; a projection refers to a
spec of its own revision, and revisions are positive. -/
structure Stored (env : Env) (requestId : String) (files : Files) : Prop where
  request : ∀ path projection, files.requests.get? path = some projection →
    path = safeId env requestId ∧ projection.requestId = requestId ∧ 1 ≤ projection.revision ∧
      projection.requirementSpecRef.revision = projection.revision
  spec : ∀ path spec, files.specs.get? path = some spec →
    spec.requestId = requestId ∧ orOne spec.revision = path.revision

theorem orOne_of_pos {value : Int} (positive : 1 ≤ value) : orOne value = value := by
  rw [orOne, if_neg]
  omega

theorem one_le_orOne {value : Int} (positive : 1 ≤ value) : 1 ≤ orOne value := by
  rwa [orOne_of_pos positive]

variable {env : Env} {requestId : String} {files next : Files}

theorem Stored.load (stored : Stored env requestId files)
    (loaded : loadWorkflowRequest env files requestId = some projection) :
    projection.requestId = requestId ∧ 1 ≤ projection.revision ∧
      projection.requirementSpecRef.revision = projection.revision :=
  (stored.request _ projection loaded).2

theorem Stored.writeProjection (stored : Stored env requestId files) {projection : Projection}
    (owned : projection.requestId = requestId) (positive : 1 ≤ projection.revision)
    (referred : projection.requirementSpecRef.revision = projection.revision) :
    Stored env requestId (writeProjection env files projection) where
  request := by
    intro path other found
    rw [Requests.writeProjection, Dict.get?_insert] at found
    split at found
    · rename_i here
      obtain rfl := Option.some.inj found
      exact ⟨by rw [here, owned], owned, positive, referred⟩
    · exact stored.request path other found
  spec := stored.spec

/-- What writing a spec returns, and what it changes. -/
theorem writeRequirementSpec_cases (env : Env) (files : Files) (spec : RequirementSpec) :
    (∃ error, writeRequirementSpec env files spec = (.error error, files)) ∨
      ∃ path digest, path.revision = orOne spec.revision ∧
        writeRequirementSpec env files spec =
          (.ok (path, digest), { files with specs := files.specs.insert path spec }) := by
  unfold writeRequirementSpec attempt
  cases Fallible.refuse (PyString.strip spec.requestId = "")
      (RequestError.request "requirement spec requires request_id") with
  | error error => exact Or.inl ⟨error, rfl⟩
  | ok _ => exact Or.inr ⟨_, _, rfl, rfl⟩

theorem Stored.insert_spec (stored : Stored env requestId files) {path : SpecPath}
    (owned : spec.requestId = requestId)
    (numbered : path.revision = orOne spec.revision) :
    Stored env requestId { files with specs := files.specs.insert path spec } where
  request := stored.request
  spec := by
    intro other found present
    rw [Dict.get?_insert] at present
    split at present
    · rename_i here
      obtain rfl := Option.some.inj present
      exact ⟨owned, by rw [here, numbered]⟩
    · exact stored.spec other found present

theorem projectionOf_eq_ok {manifest : Json} {specRef : SpecPath}
    {digest now : String} {prior : Option Projection}
    (built : projectionOf env manifest spec specRef digest prior now = .ok projection) :
    projection.requestId = spec.requestId ∧ projection.revision = orOne spec.revision ∧
      projection.requirementSpecRef = specRef := by
  unfold projectionOf at built
  obtain ⟨missing, _, built⟩ := bind_eq_ok built
  obtain ⟨origin, _, built⟩ := bind_eq_ok built
  cases built
  exact ⟨rfl, rfl, rfl⟩

/-- What storing a revision returns, and what it changes. -/
inductive StoreEffect (env : Env) (files : Files) (spec : RequirementSpec) :
    Outcome Projection → Prop
  | refused (error : RequestError) : StoreEffect env files spec (.error error, files)
  | orphaned (error : RequestError) (path : SpecPath)
      (numbered : path.revision = orOne spec.revision) :
      StoreEffect env files spec
        (.error error, { files with specs := files.specs.insert path spec })
  | stored (projection : Projection) (owned : projection.requestId = spec.requestId)
      (revision : projection.revision = orOne spec.revision)
      (referred : projection.requirementSpecRef.revision = projection.revision) :
      StoreEffect env files spec (.ok projection, writeProjection env
        { files with specs := files.specs.insert projection.requirementSpecRef spec } projection)

theorem storeEffect_storeRevision (env : Env) (files : Files) (manifest : Json)
    (spec : RequirementSpec) (prior : Option Projection) (now : String) :
    StoreEffect env files spec (storeRevision env files manifest spec prior now) := by
  unfold storeRevision andThen
  rcases writeRequirementSpec_cases env files spec with
    ⟨error, written⟩ | ⟨path, digest, numbered, written⟩
  · rw [written]
    exact .refused error
  · rw [written]
    simp only [attempt]
    split
    · exact .orphaned _ path numbered
    · rename_i projection built
      obtain ⟨_, projected, built⟩ := bind_eq_ok built
      obtain ⟨_, _, built⟩ := bind_eq_ok built
      cases built
      obtain ⟨owned, revision, rfl⟩ := projectionOf_eq_ok projected
      exact .stored projection owned revision (numbered.trans revision.symm)

theorem StoreEffect.keeps_stored {outcome : Outcome Projection}
    (effect : StoreEffect env files spec outcome) (stored : Stored env requestId files)
    (owned : spec.requestId = requestId) (positive : 1 ≤ spec.revision) :
    Stored env requestId outcome.2 := by
  cases effect with
  | refused error => exact stored
  | orphaned error path numbered => exact stored.insert_spec owned numbered
  | stored projection same revision referred =>
      refine (stored.insert_spec owned (referred.trans revision)).writeProjection
        (same.trans owned) ?_ referred
      rw [revision]
      exact one_le_orOne positive

/-- Specs of other revisions stay where they are. -/
theorem StoreEffect.get?_specs {outcome : Outcome Projection}
    (effect : StoreEffect env files spec outcome) {path : SpecPath}
    (other : path.revision ≠ orOne spec.revision) :
    outcome.2.specs.get? path = files.specs.get? path := by
  cases effect with
  | refused error => rfl
  | orphaned error written numbered =>
      refine Dict.get?_insert_ne _ _ ?_
      rintro rfl
      exact other numbered
  | stored projection same revision referred =>
      refine Dict.get?_insert_ne _ _ ?_
      rintro rfl
      exact other (referred.trans revision)

theorem buildRequirementSpec_eq_ok {manifest intake : Json} {revision : Int} {confirmed : Bool}
    {now : String}
    (built : buildRequirementSpec manifest intake revision confirmed now = .ok spec) :
    spec.requestId = manifest.textAt "request_id" ∧ spec.revision = revision := by
  unfold buildRequirementSpec at built
  obtain ⟨_, _, built⟩ := bind_eq_ok built
  obtain ⟨_, _, built⟩ := bind_eq_ok built
  obtain ⟨_, _, built⟩ := bind_eq_ok built
  cases built
  exact ⟨rfl, rfl⟩

/-- A manifest of the request, whose id has no blanks around it. -/
def Names (requestId : String) (manifest : Json) : Prop :=
  manifest.textAt "request_id" = requestId ∧ PyString.strip requestId = requestId

instance (requestId : String) (manifest : Json) : Decidable (Names requestId manifest) :=
  inferInstanceAs (Decidable (_ ∧ _))

theorem Names.manifestRequestId {manifest : Json} (names : Names requestId manifest) :
    manifestRequestId manifest = requestId := by
  rw [Requests.manifestRequestId, names.1, names.2]

theorem registerFirst_stored (stored : Stored env requestId files) {call : Register}
    (names : Names requestId call.manifest) :
    Stored env requestId (registerFirst env files call).2 := by
  unfold registerFirst attempt
  cases built : buildRequirementSpec call.manifest call.intake 1 false call.now with
  | error error => exact stored
  | ok spec =>
      obtain ⟨owned, revision⟩ := buildRequirementSpec_eq_ok built
      exact (storeEffect_storeRevision env files call.manifest spec none call.now).keeps_stored
        stored (owned.trans names.1) (by rw [revision])

theorem registerAgain_stored (stored : Stored env requestId files) (call : Register)
    {existing : Projection} (loaded : loadWorkflowRequest env files requestId = some existing) :
    Stored env requestId (registerAgain env files call existing).2 := by
  obtain ⟨owned, positive, referred⟩ := stored.load loaded
  refine attempt_invariant (Stored env requestId) stored fun (origin, current) checked => ?_
  obtain ⟨_, _, checked⟩ := bind_eq_ok checked
  obtain ⟨_, _, checked⟩ := bind_eq_ok checked
  obtain ⟨_, _, checked⟩ := bind_eq_ok checked
  obtain ⟨spec, read, checked⟩ := bind_eq_ok checked
  cases checked
  obtain ⟨specOwned, numbered⟩ := stored.spec _ _ (required_eq_ok_iff.mp read)
  dsimp only
  rcases writeRequirementSpec_cases env files current with
    ⟨error, written⟩ | ⟨path, digest, pathNumbered, written⟩
  · rw [written]
    exact stored
  · rw [written]
    have inserted := stored.insert_spec specOwned pathNumbered
    change Stored env requestId (attempt (effectiveRefs call.manifest) _ _).2
    refine attempt_invariant (Stored env requestId) inserted fun _ _ => ?_
    refine inserted.writeProjection owned positive ?_
    exact pathNumbered.trans (numbered.trans referred)

theorem registerWorkflowIntake_stored (stored : Stored env requestId files) {call : Register}
    (names : Names requestId call.manifest) :
    Stored env requestId (registerWorkflowIntake env files call).2 := by
  refine attempt_invariant (Stored env requestId) stored fun _ _ => ?_
  rw [names.manifestRequestId]
  cases loaded : loadWorkflowRequest env files requestId with
  | none => exact registerFirst_stored stored names
  | some existing => exact registerAgain_stored stored call loaded

theorem loadOrRegister_of_some (names : Names requestId call.manifest)
    (loaded : loadWorkflowRequest env files requestId = some prior) :
    loadOrRegister env files call = (.ok prior, files) := by
  rw [loadOrRegister, names.manifestRequestId, loaded]

theorem loadOrRegister_stored (stored : Stored env requestId files)
    (names : Names requestId call.manifest) :
    Stored env requestId (loadOrRegister env files call).2 := by
  unfold loadOrRegister
  split
  · exact stored
  · exact registerWorkflowIntake_stored stored names

/-- The files after the reading phase are those after loading or registering. -/
theorem readRevision_files (env : Env) (files : Files) (call : Revise) :
    (readRevision env files call).2 = files ∨
      (readRevision env files call).2 = (loadOrRegister env files call).2 := by
  unfold readRevision
  refine attempt_invariant (fun next => next = files ∨ next = (loadOrRegister env files call).2)
    (Or.inl rfl) fun _ _ => Or.inr ?_
  exact andThen_invariant (fun next => next = (loadOrRegister env files call).2) rfl
    fun prior _ => attempt_invariant (fun next => next = (loadOrRegister env files call).2) rfl
      fun _ _ => rfl

theorem outcome_eq_of_fst {α : Type} {outcome : Outcome α} {value : α}
    (answered : outcome.1 = .ok value) : outcome = (.ok value, outcome.2) := by
  rw [← answered]

theorem attempt_eq_ok {α β : Type} {computed : Except RequestError α} {proceed : α → Outcome β}
    {result : β} (answered : attempt computed files proceed = (.ok result, next)) :
    ∃ value, computed = .ok value ∧ proceed value = (.ok result, next) := by
  cases computed with
  | error error => cases answered
  | ok value => exact ⟨value, rfl, answered⟩

/-- What a successful reading phase has observed. -/
theorem readRevision_eq_ok (read : readRevision env files call = (.ok observed, next)) :
    loadOrRegister env files call = (.ok observed.prior, next) ∧
      (∀ expected, call.expectedRevision = some expected → observed.prior.revision = expected) ∧
      next.specs.get? observed.prior.requirementSpecRef = some observed.current := by
  unfold readRevision at read
  obtain ⟨_, _, read⟩ := attempt_eq_ok read
  obtain ⟨prior, loaded, read⟩ := attempt_eq_ok read
  obtain ⟨current, checked, read⟩ := attempt_eq_ok read
  obtain ⟨_, preconditions, checked⟩ := bind_eq_ok checked
  cases read
  refine ⟨outcome_eq_of_fst loaded, fun expected same => ?_, required_eq_ok_iff.mp checked⟩
  unfold checkPreconditions at preconditions
  obtain ⟨_, fresh, _⟩ := bind_eq_ok preconditions
  have agrees := refuse_eq_ok_iff.mp fresh
  rw [same, Option.any_some] at agrees
  by_contra differs
  exact agrees (decide_eq_true (Ne.symm differs))

/-! ## The history before the interleaving -/

/-- A change that leaves the identity and the requirement of a request alone. -/
def SameRequirement (projection written : Projection) : Prop :=
  written.requestId = projection.requestId ∧ written.revision = projection.revision ∧
    written.requirementSpecRef = projection.requirementSpecRef

theorem applyBinding_stored (stored : Stored env requestId files) {otherId : String}
    {bind : Projection → Except RequestError Binding}
    (kept : ∀ projection written, bind projection = .ok (.written written) →
      SameRequirement projection written) :
    Stored env requestId (applyBinding env files otherId bind).2 := by
  refine attempt_invariant (Stored env requestId) stored fun binding bound => ?_
  obtain ⟨projection, loaded, bound⟩ := bind_eq_ok bound
  cases binding with
  | unchanged projection => exact stored
  | written written =>
      obtain ⟨_, owned, positive, referred⟩ := stored.request _ _ (required_eq_ok_iff.mp loaded)
      obtain ⟨sameId, sameRevision, sameRef⟩ := kept projection written bound
      exact stored.writeProjection (sameId.trans owned) (sameRevision ▸ positive)
        (by rw [sameRef, sameRevision, referred])

theorem mark_sameRequirement {call : Mark}
    (marked : mark call projection = .ok (.written written)) :
    SameRequirement projection written := by
  unfold mark at marked
  obtain ⟨status, _, marked⟩ := bind_eq_ok marked
  split at marked
  · cases marked
  · obtain ⟨_, _, marked⟩ := bind_eq_ok marked
    cases marked
    exact ⟨rfl, rfl, rfl⟩

theorem bindProposal_sameRequirement {call : BindProposal}
    (bound : bindProposal call projection = .ok (.written written)) :
    SameRequirement projection written := by
  unfold bindProposal at bound
  obtain ⟨_, _, bound⟩ := bind_eq_ok bound
  split at bound
  · obtain ⟨_, _, bound⟩ := bind_eq_ok bound
    cases bound
  · obtain ⟨_, _, bound⟩ := bind_eq_ok bound
    cases bound
    exact ⟨rfl, rfl, rfl⟩

theorem bindSynthesisResult_sameRequirement {call : BindSynthesisResult}
    (bound : bindSynthesisResult call projection = .ok (.written written)) :
    SameRequirement projection written := by
  unfold bindSynthesisResult at bound
  obtain ⟨_, _, bound⟩ := bind_eq_ok bound
  obtain ⟨_, _, bound⟩ := bind_eq_ok bound
  obtain ⟨_, _, bound⟩ := bind_eq_ok bound
  cases bound
  exact ⟨rfl, rfl, rfl⟩

theorem bindSynthesisOperation_sameRequirement {call : BindSynthesisOperation}
    (bound : bindSynthesisOperation call projection = .ok (.written written)) :
    SameRequirement projection written := by
  unfold bindSynthesisOperation at bound
  obtain ⟨_, _, bound⟩ := bind_eq_ok bound
  obtain ⟨_, _, bound⟩ := bind_eq_ok bound
  split at bound
  · cases bound
  · cases bound
    exact ⟨rfl, rfl, rfl⟩

theorem adoptResearch_sameRequirement {call : AdoptResearch}
    (bound : adoptResearch env call projection = .ok (.written written)) :
    SameRequirement projection written := by
  unfold adoptResearch at bound
  obtain ⟨_, _, bound⟩ := bind_eq_ok bound
  obtain ⟨_, _, bound⟩ := bind_eq_ok bound
  obtain ⟨_, _, bound⟩ := bind_eq_ok bound
  split at bound
  · cases bound
  · obtain ⟨_, _, bound⟩ := bind_eq_ok bound
    cases bound
    exact ⟨rfl, rfl, rfl⟩

theorem rejectWorkflowProposal_stored (stored : Stored env requestId files)
    (call : RejectProposal) : Stored env requestId (rejectWorkflowProposal env files call).2 := by
  refine attempt_invariant (Stored env requestId) stored fun _ _ => ?_
  have marked : Stored env requestId (markWorkflowRequest env files
      ⟨call.requestId, "rejected", "", call.now⟩).2 :=
    applyBinding_stored stored fun _ _ => mark_sameRequirement
  refine andThen_invariant (Stored env requestId) marked fun projection answered => ?_
  obtain ⟨binding, bound, wrote⟩ := attempt_eq_ok (outcome_eq_of_fst answered)
  obtain ⟨old, loaded, bound⟩ := bind_eq_ok bound
  obtain ⟨_, owned, positive, referred⟩ := stored.request _ _ (required_eq_ok_iff.mp loaded)
  have same : SameRequirement old projection := by
    cases binding with
    | unchanged kept =>
        obtain rfl := Except.ok.inj (congrArg Prod.fst wrote)
        unfold mark at bound
        obtain ⟨status, _, bound⟩ := bind_eq_ok bound
        split at bound
        · cases bound
          exact ⟨rfl, rfl, rfl⟩
        · obtain ⟨_, _, bound⟩ := bind_eq_ok bound
          cases bound
    | written written =>
        obtain rfl := Except.ok.inj (congrArg Prod.fst wrote)
        exact mark_sameRequirement bound
  obtain ⟨sameId, sameRevision, sameRef⟩ := same
  exact marked.writeProjection (sameId.trans owned) (sameRevision ▸ positive)
    (by rw [sameRef, sameRevision, referred])

/-- The manifests that a call carries name the request. -/
def OnRequest (requestId : String) : Call → Prop
  | .register call => Names requestId call.manifest
  | .revise call => Names requestId call.manifest
  | _ => True

instance (requestId : String) : (call : Call) → Decidable (OnRequest requestId call)
  | .register call => inferInstanceAs (Decidable (Names requestId call.manifest))
  | .revise call => inferInstanceAs (Decidable (Names requestId call.manifest))
  | .mark _ | .bindProposal _ | .bindSynthesisResult _ | .bindSynthesisOperation _
  | .rejectProposal _ | .adoptResearch _ => inferInstanceAs (Decidable True)

theorem revisedSpec_requestId (call : Revise) (observed : Observed) :
    (revisedSpec call observed).requestId = observed.current.requestId := rfl

theorem revisedSpec_revision (call : Revise) (observed : Observed) :
    (revisedSpec call observed).revision = observed.prior.revision + 1 := rfl

theorem writeRevision_effect (env : Env) (files : Files) (call : Revise) (observed : Observed) :
    StoreEffect env files (revisedSpec call observed) (writeRevision env files call observed) :=
  storeEffect_storeRevision env files call.manifest _ _ call.now

theorem loadWorkflowRequest_writeProjection (env : Env) (files : Files) (projection : Projection) :
    loadWorkflowRequest env (writeProjection env files projection) projection.requestId =
      some projection :=
  Dict.get?_insert_self _ _ _

/-- A request that is registered while it is read has its first revision. -/
theorem loadOrRegister_of_none (names : Names requestId call.manifest)
    (absent : loadWorkflowRequest env files requestId = none)
    (loaded : loadOrRegister env files call = (.ok prior, next)) :
    1 ≤ prior.revision ∧ loadWorkflowRequest env next requestId = some prior := by
  have load : loadWorkflowRequest env files (manifestRequestId call.manifest) = none := by
    rw [names.manifestRequestId, absent]
  rw [loadOrRegister, load] at loaded
  obtain ⟨_, _, loaded⟩ := attempt_eq_ok loaded
  dsimp only at loaded
  rw [load] at loaded
  obtain ⟨spec, built, loaded⟩ := attempt_eq_ok loaded
  obtain ⟨specOwned, specRevision⟩ := buildRequirementSpec_eq_ok built
  have effect := storeEffect_storeRevision env files call.manifest spec none call.now
  rw [loaded] at effect
  cases effect with
  | stored projection owned revision referred =>
      refine ⟨by rw [revision, specRevision]; decide, ?_⟩
      rw [← names.1, ← specOwned, ← owned]
      exact loadWorkflowRequest_writeProjection env _ prior

theorem reviseWorkflowRequest_stored (stored : Stored env requestId files)
    (names : Names requestId call.manifest) :
    Stored env requestId (reviseWorkflowRequest env files call).2 := by
  have read : Stored env requestId (readRevision env files call).2 := by
    rcases readRevision_files env files call with same | registered
    · rw [same]
      exact stored
    · rw [registered]
      exact loadOrRegister_stored stored names
  refine andThen_invariant (Stored env requestId) read fun observed answered => ?_
  obtain ⟨loaded, _, current⟩ := readRevision_eq_ok (outcome_eq_of_fst answered)
  have prior : 1 ≤ observed.prior.revision := by
    cases existing : loadWorkflowRequest env files requestId with
    | some prior =>
        rw [loadOrRegister_of_some names existing] at loaded
        obtain rfl := Except.ok.inj (congrArg Prod.fst loaded)
        exact (stored.load existing).2.1
    | none => exact (loadOrRegister_of_none names existing loaded).1
  have owned : (revisedSpec call observed).requestId = requestId := by
    rw [revisedSpec_requestId]
    exact (read.spec _ _ current).1
  have positive : 1 ≤ (revisedSpec call observed).revision := by
    rw [revisedSpec_revision]
    omega
  exact (writeRevision_effect env _ call observed).keeps_stored read owned positive

theorem step_stored (stored : Stored env requestId files) {call : Call}
    (onRequest : OnRequest requestId call) : Stored env requestId (step env files call) := by
  cases call with
  | register call => exact registerWorkflowIntake_stored stored onRequest
  | revise call => exact reviseWorkflowRequest_stored stored onRequest
  | mark call => exact applyBinding_stored stored fun _ _ => mark_sameRequirement
  | bindProposal call => exact applyBinding_stored stored fun _ _ => bindProposal_sameRequirement
  | bindSynthesisResult call =>
      exact applyBinding_stored stored fun _ _ => bindSynthesisResult_sameRequirement
  | bindSynthesisOperation call =>
      exact applyBinding_stored stored fun _ _ => bindSynthesisOperation_sameRequirement
  | rejectProposal call => exact rejectWorkflowProposal_stored stored call
  | adoptResearch call => exact applyBinding_stored stored fun _ _ => adoptResearch_sameRequirement

/-- The files after any sequence of calls on the request. -/
theorem history_stored {history : List Call}
    (onRequest : ∀ call ∈ history, OnRequest requestId call) :
    Stored env requestId (Runs.run (step env) Files.empty history) :=
  (Runs.along_of_forall_mem onRequest Files.empty).invariant (Stored env requestId)
    (fun _ _ stored allowed => step_stored stored allowed)
    ⟨(fun _ _ found => by cases found), fun _ _ found => by cases found⟩

/-! ## Serial interleavings -/

/-- Every call is about the request, and a revision is written only while no
other one has been written since it read. -/
def Serial (requestId : String) (system : System) : Phase → Prop
  | .read _ call => Names requestId call.manifest
  | .write client => ∀ pending ∈ system.pending client, pending.seen = system.done.length

instance (requestId : String) (system : System) (phase : Phase) :
    Decidable (Serial requestId system phase) := by
  cases phase with
  | read client call => exact inferInstanceAs (Decidable (Names _ _))
  | write client => exact inferInstanceAs (Decidable (∀ pending ∈ system.pending client, _))

/-- What is known about a call between its phases. -/
structure Waiting (env : Env) (requestId : String) (system : System) (pending : Pending) :
    Prop where
  expected : ∀ revision, pending.call.expectedRevision = some revision →
    pending.observed.prior.revision = revision
  seen : pending.seen ≤ system.done.length
  current : pending.seen = system.done.length →
    loadWorkflowRequest env system.files requestId = some pending.observed.prior ∧
      system.files.specs.get? pending.observed.prior.requirementSpecRef =
        some pending.observed.current

/-- The invariant of serial interleavings: the last revision that was written
is the stored one. -/
structure Tracked (env : Env) (requestId : String) (system : System) : Prop where
  stored : Stored env requestId system.files
  consecutive : system.done.IsChain fun earlier later =>
    later.projection.revision = earlier.projection.revision + 1
  kept : system.done.IsChain Keeps
  expected : ∀ success ∈ system.done, ∀ revision,
    success.call.expectedRevision = some revision → success.projection.revision = revision + 1
  last : ∀ success ∈ system.done.getLast?,
    loadWorkflowRequest env system.files requestId = some success.projection ∧
      system.files.specs.get? success.projection.requirementSpecRef = success.stored ∧
      ∃ observed, success.stored = some (revisedSpec success.call observed)
  pending : ∀ client pending, system.pending client = some pending →
    Waiting env requestId system pending

theorem tracked_start (stored : Stored env requestId files) :
    Tracked env requestId (.start files) where
  stored := stored
  consecutive := .nil
  kept := .nil
  expected := fun _ member => by cases member
  last := fun _ member => by cases member
  pending := fun _ _ found => by cases found

variable {system : System}

theorem pending_update {α : Type} {entries : Nat → Option α} {other : Nat}
    {entry : Option α} {value : α}
    (found : Function.update entries client entry other = some value) :
    entry = some value ∨ entries other = some value := by
  by_cases here : other = client
  · rw [here, Function.update_self] at found
    exact Or.inl found
  · rw [Function.update_of_ne here] at found
    exact Or.inr found

/-- Reading leaves the files of a registered request alone. -/
theorem Tracked.read (tracked : Tracked env requestId system) {entry : Option Pending}
    (files_or : files = system.files ∨
      (loadWorkflowRequest env system.files requestId = none ∧ Stored env requestId files))
    (waiting : ∀ pending, entry = some pending → Waiting env requestId
      { system with files } pending) :
    Tracked env requestId
      { system with files, pending := Function.update system.pending client entry } := by
  rcases files_or with rfl | ⟨absent, stored⟩
  · refine ⟨tracked.stored, tracked.consecutive, tracked.kept, tracked.expected, tracked.last,
      fun other pending found => ?_⟩
    rcases pending_update found with here | there
    · have known := waiting pending here
      exact ⟨known.expected, known.seen, known.current⟩
    · have known := tracked.pending other pending there
      exact ⟨known.expected, known.seen, known.current⟩
  · refine ⟨stored, tracked.consecutive, tracked.kept, tracked.expected, fun success member => ?_,
      fun other pending found => ?_⟩
    · have loaded := (tracked.last success member).1
      rw [absent] at loaded
      cases loaded
    · rcases pending_update found with here | there
      · have known := waiting pending here
        exact ⟨known.expected, known.seen, known.current⟩
      · have known := tracked.pending other pending there
        refine ⟨known.expected, known.seen, fun live => ?_⟩
        have loaded := (known.current live).1
        rw [absent] at loaded
        cases loaded

/-- The reading phase writes only when it registers the request. -/
theorem readRevision_registers (stored : Stored env requestId files)
    (names : Names requestId call.manifest) :
    (readRevision env files call).2 = files ∨
      (loadWorkflowRequest env files requestId = none ∧
        Stored env requestId (readRevision env files call).2) := by
  rcases readRevision_files env files call with same | registered
  · exact Or.inl same
  · cases loaded : loadWorkflowRequest env files requestId with
    | some prior =>
        rw [loadOrRegister_of_some names loaded] at registered
        exact Or.inl registered
    | none =>
        rw [registered]
        exact Or.inr ⟨rfl, loadOrRegister_stored stored names⟩

/-- A call that has just read waits with the stored projection and spec. -/
theorem readRevision_current (names : Names requestId call.manifest)
    (phase : readRevision env files call = (.ok observed, next)) :
    loadWorkflowRequest env next requestId = some observed.prior := by
  have registered := (readRevision_eq_ok phase).1
  cases loaded : loadWorkflowRequest env files requestId with
  | some prior =>
      rw [loadOrRegister_of_some names loaded] at registered
      obtain ⟨priorSame, filesSame⟩ := Prod.mk.inj registered
      rw [← Except.ok.inj priorSame, ← filesSame]
      exact loaded
  | none => exact (loadOrRegister_of_none names loaded registered).2

theorem Tracked.afterRead (tracked : Tracked env requestId system) (client : Nat) {call : Revise}
    {outcome : Outcome Observed} (names : Names requestId call.manifest)
    (phase : readRevision env system.files call = outcome) :
    Tracked env requestId (system.afterRead client call outcome) := by
  have registers := readRevision_registers tracked.stored names
  rw [phase] at registers
  obtain ⟨answer, files⟩ := outcome
  cases answer with
  | error error => exact tracked.read registers fun pending none => by cases none
  | ok observed =>
      obtain ⟨_, expected, current⟩ := readRevision_eq_ok phase
      refine tracked.read registers fun pending same => ?_
      obtain rfl := Option.some.inj same
      exact ⟨expected, le_rfl, fun _ => ⟨readRevision_current names phase, current⟩⟩

/-- A write that fails leaves at most an unreferred spec behind. -/
theorem Tracked.failed (tracked : Tracked env requestId system)
    (loaded : loadWorkflowRequest env system.files requestId = some prior)
    (stored : Stored env requestId next) (requests : next.requests = system.files.requests)
    (specs : ∀ path : SpecPath, path.revision ≠ prior.revision + 1 →
      next.specs.get? path = system.files.specs.get? path) (client : Nat) :
    Tracked env requestId { system with
      files := next
      pending := Function.update system.pending client none } := by
  have load : loadWorkflowRequest env next requestId =
      loadWorkflowRequest env system.files requestId := by
    rw [loadWorkflowRequest, loadWorkflowRequest, requests]
  have referred : ∀ projection, loadWorkflowRequest env system.files requestId = some projection →
      next.specs.get? projection.requirementSpecRef =
        system.files.specs.get? projection.requirementSpecRef := by
    intro projection found
    obtain rfl := Option.some.inj (loaded.symm.trans found)
    refine specs _ ?_
    rw [(tracked.stored.load loaded).2.2]
    omega
  refine ⟨stored, tracked.consecutive, tracked.kept, tracked.expected, fun success member => ?_,
    fun other pending found => ?_⟩
  · obtain ⟨found, spec, made⟩ := tracked.last success member
    exact ⟨load.trans found, (referred _ found).trans spec, made⟩
  · rcases pending_update found with here | there
    · cases here
    · have known := tracked.pending other pending there
      refine ⟨known.expected, known.seen, fun live => ?_⟩
      obtain ⟨found, spec⟩ := known.current live
      exact ⟨load.trans found, (referred _ found).trans spec⟩

/-- A write of the only call that is between its phases goes one revision on. -/
theorem Tracked.wrote (tracked : Tracked env requestId system) (client : Nat)
    (waits : Waiting env requestId system ⟨call, observed, system.done.length⟩)
    (stored : Stored env requestId next)
    (loaded : loadWorkflowRequest env next requestId = some projection)
    (number : projection.revision = observed.prior.revision + 1)
    (spec : next.specs.get? projection.requirementSpecRef = some (revisedSpec call observed)) :
    Tracked env requestId {
      files := next
      pending := Function.update system.pending client none
      done := system.done ++
        [⟨call, projection, next.specs.get? projection.requirementSpecRef⟩] } := by
  obtain ⟨priorLoaded, current⟩ := waits.current rfl
  -- The last revision that was written is the one that the call has read.
  have previous : ∀ success ∈ system.done.getLast?, observed.prior = success.projection ∧
      success.stored = some observed.current := by
    intro success member
    obtain ⟨found, spec, _⟩ := tracked.last success member
    have same := Option.some.inj (priorLoaded.symm.trans found)
    rw [← same, current] at spec
    exact ⟨same, spec.symm⟩
  refine ⟨stored, ?_, ?_, ?_, ?_, ?_⟩
  · refine List.isChain_append.mpr ⟨tracked.consecutive, .singleton _, fun earlier last later only => ?_⟩
    obtain rfl := Option.some.inj only
    rw [← (previous earlier last).1]
    exact number
  · refine List.isChain_append.mpr ⟨tracked.kept, .singleton _, fun earlier last later only => ?_⟩
    obtain rfl := Option.some.inj only
    obtain ⟨_, _, before, made⟩ := tracked.last earlier last
    have read := (previous earlier last).2
    rw [made] at read
    exact revisedSpec_keeps made (Option.some.inj read).symm spec
  · intro success member revision expects
    rcases List.mem_append.mp member with earlier | only
    · exact tracked.expected success earlier revision expects
    · obtain rfl := List.mem_singleton.mp only
      rw [number, waits.expected revision expects]
  · intro success member
    rw [List.getLast?_append_cons, List.getLast?_singleton] at member
    obtain rfl := Option.some.inj member
    exact ⟨loaded, rfl, observed, spec⟩
  · intro other pending found
    rcases pending_update found with here | there
    · cases here
    · have known := tracked.pending other pending there
      refine ⟨known.expected, ?_, fun live => ?_⟩
      · rw [List.length_append]
        exact le_trans known.seen (Nat.le_add_right _ _)
      · rw [List.length_append, List.length_singleton] at live
        have seen := known.seen
        omega

theorem Tracked.afterWrite (tracked : Tracked env requestId system) (client : Nat) {call : Revise}
    {observed : Observed} {outcome : Outcome Projection}
    (waits : Waiting env requestId system ⟨call, observed, system.done.length⟩)
    (effect : StoreEffect env system.files (revisedSpec call observed) outcome) :
    Tracked env requestId (system.afterWrite client call outcome) := by
  obtain ⟨loaded, current⟩ := waits.current rfl
  have positive := (tracked.stored.load loaded).2.1
  dsimp only at positive
  have owned : (revisedSpec call observed).requestId = requestId := by
    rw [revisedSpec_requestId]
    exact (tracked.stored.spec _ _ current).1
  have next : 1 ≤ (revisedSpec call observed).revision := by
    rw [revisedSpec_revision]
    omega
  have number : orOne (revisedSpec call observed).revision = observed.prior.revision + 1 :=
    orOne_of_pos next
  have stored := effect.keeps_stored tracked.stored owned next
  have specs : ∀ path : SpecPath, path.revision ≠ observed.prior.revision + 1 →
      outcome.2.specs.get? path = system.files.specs.get? path :=
    fun path other => effect.get?_specs (number ▸ other)
  cases effect with
  | refused error => exact tracked.failed loaded stored rfl specs client
  | orphaned error path numbered => exact tracked.failed loaded stored rfl specs client
  | stored projection same revision referred =>
      refine tracked.wrote client waits stored ?_ (revision.trans number) ?_
      · rw [← same.trans owned]
        exact loadWorkflowRequest_writeProjection env _ projection
      · exact Dict.get?_insert_self _ _ _

theorem step_read (env : Env) (system : System) (client : Nat) (call : Revise) :
    system.step env (.read client call) =
      system.afterRead client call (readRevision env system.files call) := rfl

theorem step_write_none (found : system.pending client = none) :
    system.step env (.write client) = system := by
  rw [System.step, found]

theorem step_write_some {seen : Nat} (found : system.pending client = some ⟨call, observed, seen⟩) :
    system.step env (.write client) =
      system.afterWrite client call (writeRevision env system.files call observed) := by
  rw [System.step, found]

theorem Tracked.step (tracked : Tracked env requestId system) {phase : Phase}
    (serial : Serial requestId system phase) :
    Tracked env requestId (system.step env phase) := by
  cases phase with
  | read client call =>
      rw [step_read]
      exact tracked.afterRead client serial rfl
  | write client =>
      cases found : system.pending client with
      | none =>
          rw [step_write_none found]
          exact tracked
      | some pending =>
          have fresh := serial pending found
          have waits := tracked.pending client pending found
          obtain ⟨call, observed, seen⟩ := pending
          obtain rfl := fresh
          rw [step_write_some found]
          exact tracked.afterWrite client waits (writeRevision_effect env _ call observed)

/-- Successes whose revisions go up by one have distinct and increasing revisions. -/
theorem pairwise_lt_of_consecutive {done : List Success}
    (consecutive : done.IsChain fun earlier later =>
      later.projection.revision = earlier.projection.revision + 1) :
    done.Pairwise fun earlier later => earlier.projection.revision < later.projection.revision := by
  have increasing : done.IsChain fun earlier later : Success =>
      earlier.projection.revision < later.projection.revision :=
    consecutive.imp fun earlier later same => by omega
  exact List.isChain_iff_pairwise.mp increasing

theorem Tracked.losesNoUpdate (tracked : Tracked env requestId system) :
    LosesNoUpdate system.done where
  expected := by
    have increasing := pairwise_lt_of_consecutive tracked.consecutive
    refine increasing.imp_of_mem fun {earlier later} earlierIn laterIn less same => ?_
    cases expects : earlier.call.expectedRevision with
    | none => rfl
    | some revision =>
        rw [expects] at same
        have first := tracked.expected earlier earlierIn revision expects
        have second := tracked.expected later laterIn revision same.symm
        omega
  distinct := (pairwise_lt_of_consecutive tracked.consecutive).imp fun less => less.ne
  consecutive := tracked.consecutive
  kept := tracked.kept

/-- In every serial interleaving of revisions, after any history of the
request, no update is lost. -/
theorem serial_revisions_lose_no_update (env : Env) (requestId : String) (history : List Call)
    (onRequest : ∀ call ∈ history, OnRequest requestId call) (phases : List Phase)
    (serial : Runs.Along (System.step env) (Serial requestId)
      (.start (Runs.run (step env) Files.empty history)) phases) :
    LosesNoUpdate (Runs.run (System.step env)
      (.start (Runs.run (step env) Files.empty history)) phases).done := by
  have tracked := serial.invariant (Tracked env requestId)
    (fun system phase tracked allowed => tracked.step allowed)
    (tracked_start (history_stored onRequest))
  exact tracked.losesNoUpdate

/-! ## Two revisions of a registered request -/

/-- SHA-256 of the specs of the sample interleavings. -/
def revisionEnv : Env where
  isAlnum := Char.isAlphanum
  specDigest := fun spec =>
    if spec.revision = 1 then "7066048230f871b1312cd19d788387ec6d5e493ffcb12b9a4293d6b84cf41983"
    else if spec.revision = 3 then
      "84b7ebca25aef6f3c15109ab83f6c259a63628fc6fb0a962d18225f1887163a9"
    else if spec.targetRoot = "" then
      "b7327e2a0b8f997f3e8ece8aba622a500b2a8abb404825d5b0e3f0311295c22f"
    else "73bd9a01c1b7285ce25a0ba7be9b71c331f5a011acd6da90eb935da9456ad3e8"
  bindingDigest := fun _ => ""
  redact := id

def registeredHistory : List Call := [.register ⟨sampleManifest, .obj [], sampleTime⟩]

def objectiveCall : Revise where
  manifest := sampleManifest
  intake := .obj []
  actor := "first"
  objective := some "ship it"
  expectedRevision := some 1
  now := sampleTime

def targetCall (expectedRevision : Int) : Revise where
  manifest := sampleManifest
  intake := .obj []
  actor := "second"
  targetRoot := some "app"
  expectedRevision := some expectedRevision
  now := sampleTime

/-- What the calls of an interleaving expected and which revisions they wrote. -/
def writtenRevisions (phases : List Phase) : List (Option Int × Int) :=
  (Runs.run (System.step revisionEnv)
    (.start (Runs.run (step revisionEnv) Files.empty registeredHistory)) phases).done.map
      fun success => (success.call.expectedRevision, success.projection.revision)

def oneAfterTheOther : List Phase :=
  [.read 0 objectiveCall, .write 0, .read 1 (targetCall 2), .write 1]

theorem one_after_the_other_loses_no_update :
    writtenRevisions oneAfterTheOther = [(some 1, 2), (some 2, 3)] ∧
      LosesNoUpdate (Runs.run (System.step revisionEnv)
        (.start (Runs.run (step revisionEnv) Files.empty registeredHistory))
          oneAfterTheOther).done :=
  ⟨by decide +kernel, serial_revisions_lose_no_update revisionEnv "REQ-1" registeredHistory
    (by decide +kernel) oneAfterTheOther (by decide +kernel)⟩

def bothReadFirst : List Phase :=
  [.read 0 objectiveCall, .read 1 (targetCall 1), .write 0, .write 1]

theorem bothReadFirst_revisions : writtenRevisions bothReadFirst = [(some 1, 2), (some 1, 2)] := by
  decide +kernel

/-- Every phase that reads is about the request. -/
def AboutRequest (requestId : String) : Phase → Prop
  | .read _ call => Names requestId call.manifest
  | .write _ => True

instance (requestId : String) (phase : Phase) : Decidable (AboutRequest requestId phase) := by
  cases phase with
  | read client call => exact inferInstanceAs (Decidable (Names _ _))
  | write client => exact inferInstanceAs (Decidable True)

/-- Two calls that expect the same revision both succeed, with the same revision. -/
theorem interleaved_revisions_lose_update :
    ¬∀ (env : Env) (requestId : String) (history : List Call),
      (∀ call ∈ history, OnRequest requestId call) → ∀ phases : List Phase,
        (∀ phase ∈ phases, AboutRequest requestId phase) →
          LosesNoUpdate (Runs.run (System.step env)
            (.start (Runs.run (step env) Files.empty history)) phases).done := by
  intro none_lost
  have lossless := (none_lost revisionEnv "REQ-1" registeredHistory (by decide +kernel)
    bothReadFirst (by decide +kernel)).expected
  have pairs : (writtenRevisions bothReadFirst).Pairwise fun earlier later =>
      earlier.1 = later.1 → earlier.1 = none := List.pairwise_map.mpr lossless
  rw [bothReadFirst_revisions] at pairs
  exact absurd pairs (by decide)

end ZaofuFormal.Requests
