import ZaofuFormal.State.RoleSessions
import ZaofuFormal.Foundation.Digest
import ZaofuFormal.Foundation.Runs

/-!
# The life cycle of Task-stage bindings

A binding is placed at ever later epochs, its role configuration and workspace
generation are fixed, and it goes from active to sealed and from sealed to
archived.  Binding and activating refuse an archived binding, while sealing and
the observation of a Codex session do not look at the status: a run keeps the
life cycle one-way exactly when neither of the two meets an archived binding.
-/

namespace ZaofuFormal.State.RoleSessions

open Foundation

/-- Placements at ever later epochs, of which the last is the current one. -/
structure TaskStageBinding.Placed (binding : TaskStageBinding) : Prop where
  increasing : binding.placementHistory.Pairwise fun earlier later =>
    earlier.placementEpoch < later.placementEpoch
  current : ∃ placement, binding.placementHistory.getLast? = some placement ∧
    placement.roleInstance = binding.currentRoleInstance ∧
    placement.placementEpoch = binding.currentPlacementEpoch

/-- What a later state of a binding owes to an earlier one. -/
structure TaskStageBinding.Follows (binding later : TaskStageBinding) : Prop where
  roleConfigDigest : later.roleConfigDigest = binding.roleConfigDigest
  workspaceGeneration : later.workspaceGeneration = binding.workspaceGeneration
  archives : later.status = .archived → binding.status = .sealed ∨ binding.status = .archived
  archived : binding.status = .archived →
    later.status = .archived ∧ later.sessionId = binding.sessionId

theorem TaskStageBinding.Follows.refl (binding : TaskStageBinding) : binding.Follows binding :=
  ⟨rfl, rfl, .inr, fun archived => ⟨archived, rfl⟩⟩

def AllPlaced (bindings : Dict String TaskStageBinding) : Prop :=
  ∀ key binding, bindings.get? key = some binding → binding.Placed

/-- What one operation may do to the bindings. -/
structure OneWay (before after : Dict String TaskStageBinding) : Prop where
  placed : AllPlaced after
  followed : ∀ key binding, before.get? key = some binding →
    ∃ later, after.get? key = some later ∧ binding.Follows later
  created : ∀ key later, before.get? key = none → after.get? key = some later →
    later.status ≠ .archived

theorem OneWay.refl {bindings : Dict String TaskStageBinding} (placed : AllPlaced bindings) :
    OneWay bindings bindings where
  placed := placed
  followed := fun _ binding found => ⟨binding, found, .refl binding⟩
  created := fun _ _ missing found => by rw [missing] at found; cases found

variable {bindings : Dict String TaskStageBinding} {later binding : TaskStageBinding}

theorem allPlaced_insert (placed : AllPlaced bindings) {key : String} (laterPlaced : later.Placed) :
    AllPlaced (bindings.insert key later) := by
  intro other binding found
  rw [Dict.get?_insert] at found
  split at found
  · cases found
    exact laterPlaced
  · exact placed other binding found

/-- Rewriting one binding is one-way exactly when the rewritten binding is. -/
theorem oneWay_insert_iff (placed : AllPlaced bindings) {key : String}
    (found : bindings.get? key = some binding) (laterPlaced : later.Placed) :
    OneWay bindings (bindings.insert key later) ↔ binding.Follows later := by
  constructor
  · intro oneWay
    obtain ⟨rewritten, present, follows⟩ := oneWay.followed key binding found
    rw [Dict.get?_insert_self] at present
    cases present
    exact follows
  · intro follows
    refine ⟨allPlaced_insert placed laterPlaced, fun other held heldFound => ?_,
      fun other created missing createdFound => ?_⟩
    · by_cases here : other = key
      · rw [here, found] at heldFound
        cases heldFound
        exact ⟨later, here ▸ bindings.get?_insert_self key later, follows⟩
      · exact ⟨held, (bindings.get?_insert_ne later here).trans heldFound, .refl held⟩
    · by_cases here : other = key
      · rw [here, found] at missing
        cases missing
      · rw [bindings.get?_insert_ne later here, missing] at createdFound
        cases createdFound

theorem oneWay_insert_new (placed : AllPlaced bindings)
    {key : String} (missing : bindings.get? key = none)
    (laterPlaced : later.Placed) (live : later.status ≠ .archived) :
    OneWay bindings (bindings.insert key later) where
  placed := allPlaced_insert placed laterPlaced
  followed := by
    intro other held heldFound
    have different : other ≠ key := fun here => by rw [here, missing] at heldFound; cases heldFound
    exact ⟨held, (bindings.get?_insert_ne later different).trans heldFound, .refl held⟩
  created := by
    intro other created absent createdFound
    rw [Dict.get?_insert] at createdFound
    split at createdFound
    · cases createdFound
      exact live
    · rw [absent] at createdFound
      cases createdFound

/-- A new current placement at a later epoch. -/
theorem placed_place {request : BindRequest}
    (increasing : binding.placementHistory.Pairwise fun earlier later =>
      earlier.placementEpoch < later.placementEpoch)
    (later : ∀ previous ∈ binding.placementHistory.getLast?,
      previous.placementEpoch < request.placementEpoch) :
    (binding.place request).Placed where
  increasing := by
    have trans : IsTrans Placement fun earlier later =>
        earlier.placementEpoch < later.placementEpoch := ⟨fun _ _ _ => lt_trans⟩
    rw [← List.isChain_iff_pairwise] at increasing ⊢
    refine List.isChain_append.mpr ⟨increasing, List.isChain_singleton _, ?_⟩
    intro previous last next head
    cases head
    exact later previous last
  current := ⟨request.placement, List.getLast?_concat, rfl, rfl⟩

/-- A rewriting that leaves the placements alone. -/
theorem TaskStageBinding.Placed.of_eq (placed : binding.Placed)
    (history : later.placementHistory = binding.placementHistory)
    (roleInstance : later.currentRoleInstance = binding.currentRoleInstance)
    (epoch : later.currentPlacementEpoch = binding.currentPlacementEpoch) : later.Placed where
  increasing := history ▸ placed.increasing
  current := by
    rw [history, roleInstance, epoch]
    exact placed.current

theorem follows_of_live (roleConfigDigest : later.roleConfigDigest = binding.roleConfigDigest)
    (workspaceGeneration : later.workspaceGeneration = binding.workspaceGeneration)
    (live : binding.status ≠ .archived) (laterLive : later.status ≠ .archived) :
    binding.Follows later :=
  ⟨roleConfigDigest, workspaceGeneration, fun archived => absurd archived laterLive,
    fun archived => absurd archived live⟩

theorem active_live : BindingStatus.active ≠ .archived := by decide

/-- Sealing is one-way unless the binding is archived. -/
theorem follows_sealed_iff (binding : TaskStageBinding) :
    binding.Follows { binding with status := .sealed } ↔ binding.status ≠ .archived := by
  constructor
  · intro follows archived
    cases (follows.archived archived).1
  · exact fun live => follows_of_live rfl rfl live nofun

/-- An observation is one-way unless it gives an archived binding another session. -/
theorem follows_observed_iff (binding : TaskStageBinding) (instanceId uuid : String)
    (sessionPath : Option String) :
    binding.Follows (binding.observed instanceId uuid sessionPath) ↔
      (binding.status = .archived → uuid = binding.sessionId) := by
  constructor
  · exact fun follows archived => (follows.archived archived).2
  · exact fun same => ⟨rfl, rfl, .inr, fun archived => ⟨archived, same archived⟩⟩

theorem rebindComplaint_eq_empty {request : BindRequest}
    (accepted : rebindComplaint request binding = "") : binding.status ≠ .archived := by
  intro archived
  rw [rebindComplaint, if_pos archived] at accepted
  exact absurd accepted (by decide)

theorem activationComplaint_eq_empty {roleInstance : String}
    (accepted : activationComplaint binding roleInstance = "") : binding.status ≠ .archived := by
  intro archived
  rw [activationComplaint, if_pos archived] at accepted
  exact absurd accepted (by decide)

/-- A placement either leaves the registry alone or is later than the last one. -/
theorem placeBinding_bindings (request : BindRequest) (key : String)
    (binding : TaskStageBinding) (registry : Registry) :
    (placeBinding request key binding registry).2 = registry ∨
      (placeBinding request key binding registry).2 =
          registry.setBinding key (binding.place request) ∧
        ∀ previous ∈ binding.placementHistory.getLast?,
          previous.placementEpoch < request.placementEpoch := by
  unfold placeBinding
  cases binding.placementHistory.getLast? with
  | none => exact .inr ⟨rfl, fun _ impossible => nomatch impossible⟩
  | some previous =>
      dsimp only
      by_cases regressed : request.placementEpoch < previous.placementEpoch
      · rw [if_pos regressed]
        exact .inl rfl
      rw [if_neg regressed]
      by_cases same : request.placementEpoch = previous.placementEpoch
      · rw [if_pos same]
        left
        split <;> rfl
      rw [if_neg same]
      refine .inr ⟨rfl, fun last found => ?_⟩
      cases found
      omega

theorem bindTaskStageSession_oneWay (env : Env) (request : BindRequest) (registry : Registry)
    (placed : AllPlaced registry.taskStageBindings) :
    OneWay registry.taskStageBindings
      (bindTaskStageSession env request registry).2.taskStageBindings := by
  unfold bindTaskStageSession
  split
  · exact .refl placed
  split
  · exact .refl placed
  rename_i key _
  split
  · rename_i missing
    rcases placeBinding_bindings request key (newBinding env request key) registry with
      kept | ⟨written, later⟩
    · rw [kept]
      exact .refl placed
    · rw [written]
      exact oneWay_insert_new placed missing (placed_place List.Pairwise.nil later) active_live
  · rename_i binding found
    by_cases accepted : rebindComplaint request binding = ""
    · rw [if_neg (not_not.mpr accepted)]
      rcases placeBinding_bindings request key binding registry with kept | ⟨written, later⟩
      · rw [kept]
        exact .refl placed
      · rw [written]
        have increasing := (placed key binding found).increasing
        exact (oneWay_insert_iff placed found (placed_place increasing later)).mpr
          (follows_of_live rfl rfl (rebindComplaint_eq_empty accepted) active_live)
    · rw [if_pos accepted]
      exact .refl placed

@[simp] theorem taskStageBindings_releaseOthers (registry : Registry) (instanceId uuid : String) :
    (registry.releaseOthers instanceId uuid).taskStageBindings = registry.taskStageBindings := by
  unfold Registry.releaseOthers
  induction registry.others instanceId uuid generalizing registry with
  | nil => rfl
  | cons other rest ih =>
      rw [List.foldl_cons, ih]
      rfl

theorem taskStageBindings_projectSession (binding : TaskStageBinding) (roleInstance : String)
    (registry : Registry) :
    (projectSession binding roleInstance registry).taskStageBindings =
      registry.taskStageBindings := by
  unfold projectSession
  split
  · rfl
  split
  · dsimp only
    split <;> exact taskStageBindings_releaseOthers _ _ _
  · rfl

theorem activateTaskStageSession_oneWay (bindingKey roleInstance : String) (registry : Registry)
    (placed : AllPlaced registry.taskStageBindings) :
    OneWay registry.taskStageBindings
      (activateTaskStageSession bindingKey roleInstance registry).2.taskStageBindings := by
  unfold activateTaskStageSession
  dsimp only
  split
  · exact .refl placed
  split
  · exact .refl placed
  rename_i binding found
  by_cases accepted : activationComplaint binding (PyString.strip roleInstance) = ""
  · rw [if_neg (not_not.mpr accepted)]
    have activePlaced : ({ binding with status := .active } : TaskStageBinding).Placed :=
      (placed _ binding found).of_eq rfl rfl rfl
    have follows : binding.Follows { binding with status := .active } :=
      follows_of_live rfl rfl (activationComplaint_eq_empty accepted) active_live
    simp only [Registry.setBinding, taskStageBindings_projectSession]
    exact (oneWay_insert_iff placed found activePlaced).mpr follows
  · rw [if_pos accepted]
    exact .refl placed

theorem archiveTaskStageSession_oneWay (env : Env) (identity : BindingIdentity)
    (registry : Registry) (placed : AllPlaced registry.taskStageBindings) :
    OneWay registry.taskStageBindings
      (archiveTaskStageSession env identity registry).2.taskStageBindings := by
  unfold archiveTaskStageSession
  split
  · exact .refl placed
  split
  · exact .refl placed
  rename_i binding found
  by_cases closed : binding.status = .sealed
  · rw [if_neg (not_not.mpr closed)]
    have live : binding.status ≠ .archived := by rw [closed]; decide
    have follows : binding.Follows { binding with status := .archived } :=
      ⟨rfl, rfl, fun _ => .inl closed, fun archived => absurd archived live⟩
    have archivedPlaced : ({ binding with status := .archived } : TaskStageBinding).Placed :=
      (placed _ binding found).of_eq rfl rfl rfl
    exact (oneWay_insert_iff placed found archivedPlaced).mpr follows
  · rw [if_pos closed]
    exact .refl placed

theorem OneWay.of_eq {before after : Dict String TaskStageBinding} (placed : AllPlaced before)
    (same : after = before) : OneWay before after :=
  same.symm ▸ .refl placed

theorem taskStageBindings_getOrCreate (env : Env) (instanceId backend : String)
    (registry : Registry) :
    (getOrCreate env instanceId backend registry).2.taskStageBindings =
      registry.taskStageBindings := by
  unfold getOrCreate
  dsimp only
  split
  · split <;> rfl
  · rfl

theorem taskStageBindings_markBackend (instanceId backend : String) (registry : Registry) :
    (markBackend instanceId backend registry).2.taskStageBindings =
      registry.taskStageBindings := by
  unfold markBackend
  dsimp only
  split
  · rfl
  · split <;> rfl

theorem taskStageBindings_markSpawned (instanceId : String) (registry : Registry) :
    (markSpawned instanceId registry).2.taskStageBindings = registry.taskStageBindings := by
  unfold markSpawned
  dsimp only
  split <;> rfl

theorem taskStageBindings_bindProviderSessionConfig (instanceId digest ref : String)
    (explicit : Bool) (registry : Registry) :
    (bindProviderSessionConfig instanceId digest ref explicit registry).2.taskStageBindings =
      registry.taskStageBindings := by
  unfold bindProviderSessionConfig
  split
  · rfl
  · dsimp only
    generalize decide (recycleReason (registry.metaOf instanceId) digest explicit ≠ "") = recycled
    cases recycled <;> rfl

/-- No archived binding is sealed again or observed under another session. -/
def SparesArchived (env : Env) (registry : Registry) : Call → Prop
  | .sealTaskStageSession identity =>
      ∀ key binding, taskStageBindingKey env identity = .ok key →
        registry.taskStageBindings.get? key = some binding → binding.status ≠ .archived
  | .bindCodexSession instanceId sessionId _ =>
      ∀ uuid binding, env.parseUuid sessionId = some uuid →
        registry.activeBinding instanceId = some binding →
        binding.status = .archived → uuid = binding.sessionId
  | _ => True

theorem sealTaskStageSession_oneWay_iff (env : Env) (identity : BindingIdentity)
    (registry : Registry) (placed : AllPlaced registry.taskStageBindings) :
    OneWay registry.taskStageBindings
        (sealTaskStageSession env identity registry).2.taskStageBindings ↔
      ∀ key binding, taskStageBindingKey env identity = .ok key →
        registry.taskStageBindings.get? key = some binding → binding.status ≠ .archived := by
  unfold sealTaskStageSession
  cases taskStageBindingKey env identity with
  | error error => exact iff_of_true (.refl placed) fun _ _ impossible => by cases impossible
  | ok key =>
      dsimp only
      cases found : registry.taskStageBindings.get? key with
      | none =>
          refine iff_of_true (.refl placed) fun other binding same present => ?_
          cases same
          rw [found] at present
          cases present
      | some binding =>
          have sealedPlaced : ({ binding with status := .sealed } : TaskStageBinding).Placed :=
            (placed key binding found).of_eq rfl rfl rfl
          refine (oneWay_insert_iff placed found sealedPlaced).trans ?_
          rw [follows_sealed_iff]
          constructor
          · intro live other held same present
            cases same
            cases found.symm.trans present
            exact live
          · exact fun live => live key binding rfl found

theorem bindCodexSession_oneWay_iff (env : Env) (instanceId sessionId : String)
    (sessionPath : Option String) (registry : Registry)
    (placed : AllPlaced registry.taskStageBindings) :
    OneWay registry.taskStageBindings
        (bindCodexSession env instanceId sessionId sessionPath registry).2.taskStageBindings ↔
      ∀ uuid binding, env.parseUuid sessionId = some uuid →
        registry.activeBinding instanceId = some binding →
        binding.status = .archived → uuid = binding.sessionId := by
  unfold bindCodexSession
  cases env.parseUuid sessionId with
  | none => exact iff_of_true (.refl placed) fun _ _ impossible => by cases impossible
  | some uuid =>
      dsimp only [Registry.setEntry]
      rw [taskStageBindings_releaseOthers]
      cases found : registry.activeBinding instanceId with
      | none =>
          exact iff_of_true (.refl placed) fun _ _ _ impossible => by cases impossible
      | some binding =>
          have observedPlaced : (binding.observed instanceId uuid sessionPath).Placed :=
            (placed _ binding found).of_eq rfl rfl rfl
          refine (oneWay_insert_iff placed found observedPlaced).trans ?_
          rw [follows_observed_iff]
          constructor
          · intro same other held parsed present
            cases parsed
            cases present
            exact same
          · exact fun same => same uuid binding rfl rfl

/-- A call is one-way exactly when it spares the archived bindings. -/
theorem oneWay_call_iff (env : Env) (registry : Registry) (call : Call)
    (placed : AllPlaced registry.taskStageBindings) :
    OneWay registry.taskStageBindings (registry.call env call).taskStageBindings ↔
      SparesArchived env registry call := by
  cases call with
  | getOrCreate instanceId backend =>
      exact iff_of_true (OneWay.of_eq placed (taskStageBindings_getOrCreate ..)) True.intro
  | markBackend instanceId backend =>
      exact iff_of_true (OneWay.of_eq placed (taskStageBindings_markBackend ..)) True.intro
  | markSpawned instanceId =>
      exact iff_of_true (OneWay.of_eq placed (taskStageBindings_markSpawned ..)) True.intro
  | bindProviderSessionConfig instanceId digest ref explicit =>
      exact iff_of_true (OneWay.of_eq placed
        (taskStageBindings_bindProviderSessionConfig ..)) True.intro
  | rotate instanceId => exact iff_of_true (.refl placed) True.intro
  | clear instanceId => exact iff_of_true (.refl placed) True.intro
  | bindCodexSession instanceId sessionId sessionPath =>
      exact bindCodexSession_oneWay_iff env instanceId sessionId sessionPath registry placed
  | bindTaskStageSession request =>
      dsimp only [Registry.call, SparesArchived]
      exact iff_of_true (bindTaskStageSession_oneWay env request registry placed) True.intro
  | activateTaskStageSession bindingKey roleInstance =>
      dsimp only [Registry.call, SparesArchived]
      exact iff_of_true (activateTaskStageSession_oneWay bindingKey roleInstance registry placed)
        True.intro
  | sealTaskStageSession identity =>
      dsimp only [Registry.call, SparesArchived]
      exact sealTaskStageSession_oneWay_iff env identity registry placed
  | archiveTaskStageSession identity =>
      dsimp only [Registry.call, SparesArchived]
      exact iff_of_true (archiveTaskStageSession_oneWay env identity registry placed) True.intro

/-- A run keeps every binding in its one-way life cycle exactly when it neither
seals an archived binding nor observes one under another session. -/
theorem bindings_one_way_iff (env : Env) (calls : List Call) :
    Runs.Along (Registry.call env)
        (fun registry call => OneWay registry.taskStageBindings
          (registry.call env call).taskStageBindings) {} calls ↔
      Runs.Along (Registry.call env) (SparesArchived env) {} calls := by
  refine Runs.along_congr (fun registry => AllPlaced registry.taskStageBindings) ?_ ?_ ?_ calls
  · exact fun _ _ _ oneWay => oneWay.placed
  · exact fun registry call placed => oneWay_call_iff env registry call placed
  · intro key binding found
    cases found

def reopenEnv : Env where
  projectRoot := "/repo"
  uuid5 := Digest.tableDigest
    [("/repo:task-stage:task-stage-c46208a685338e15cb906e92:codex",
      "48a03527-d918-558b-b656-cc7f2532893d")]
  parseUuid := fun text => if text.length = 36 then some text else none
  digest := Digest.tableDigest [("R1|T1|build|A1", "c46208a685338e15cb906e92")]

def reopenIdentity : BindingIdentity where
  workflowRunId := "R1"
  taskId := "T1"
  stage := "build"
  reworkAffinityId := "A1"

/-- A binding is sealed, archived, observed under another session and sealed again. -/
def reopenCalls : List Call :=
  [.bindTaskStageSession {
      identity := reopenIdentity
      roleInstance := "dev-1"
      roleConfigDigest := "cfg"
      workspaceGeneration := 1
      placementEpoch := 1
      backend := "codex" },
    .activateTaskStageSession "task-stage-c46208a685338e15cb906e92" "dev-1",
    .sealTaskStageSession reopenIdentity,
    .archiveTaskStageSession reopenIdentity,
    .bindCodexSession "dev-1" "88888888-8888-8888-8888-888888888888" none,
    .sealTaskStageSession reopenIdentity]

/-- The status and session of the binding after the first calls of the run. -/
def reopened (count : Nat) : Option (BindingStatus × String) :=
  ((Runs.run (Registry.call reopenEnv) {} (reopenCalls.take count)).taskStageBindings.get?
    "task-stage-c46208a685338e15cb906e92").map fun binding => (binding.status, binding.sessionId)

theorem archived_binding_reopened :
    reopened 4 = some (.archived, "48a03527-d918-558b-b656-cc7f2532893d") ∧
      reopened 5 = some (.archived, "88888888-8888-8888-8888-888888888888") ∧
      reopened 6 = some (.sealed, "88888888-8888-8888-8888-888888888888") ∧
      ¬Runs.Along (Registry.call reopenEnv)
        (fun registry call => OneWay registry.taskStageBindings
          (registry.call reopenEnv call).taskStageBindings) {} reopenCalls := by
  have archived : reopened 5 = some (.archived, "88888888-8888-8888-8888-888888888888") := by
    decide +kernel
  have reopenedAfter : reopened 6 = some (.sealed, "88888888-8888-8888-8888-888888888888") := by
    decide +kernel
  refine ⟨by decide +kernel, archived, reopenedAfter, fun along => ?_⟩
  obtain ⟨binding, found, before⟩ := Option.map_eq_some_iff.mp archived
  obtain ⟨later, laterFound, after⟩ := Option.map_eq_some_iff.mp reopenedAfter
  obtain ⟨rewritten, present, follows⟩ :=
    along.2.2.2.2.2.1.followed "task-stage-c46208a685338e15cb906e92" binding found
  cases present.symm.trans laterFound
  have stays : later.status = .archived := (follows.archived (congrArg Prod.fst before)).1
  have left : later.status = .sealed := congrArg Prod.fst after
  cases stays.symm.trans left

end ZaofuFormal.State.RoleSessions
