import ZaofuFormal.State.RoleSessions
import ZaofuFormal.Foundation.Digest
import ZaofuFormal.Foundation.Runs

/-!
# One instance for one session UUID

An observed or relocated session is taken from every other instance before it
is registered, while a generated UUID is registered as it is.  No two instances
share a UUID along a run exactly when every generated UUID is free at the
moment it is generated.
-/

namespace ZaofuFormal.State.RoleSessions

open Foundation

/-- No two keys of a dictionary have the same value. -/
def Unshared (entries : Dict String String) : Prop :=
  ∀ first second uuid, entries.get? first = some uuid → entries.get? second = some uuid →
    first = second

theorem Unshared.erase {entries : Dict String String} (unshared : Unshared entries)
    (instanceId : String) : Unshared (entries.erase instanceId) := by
  intro first second uuid firstFound secondFound
  rw [Dict.get?_erase] at firstFound secondFound
  split at firstFound
  · cases firstFound
  split at secondFound
  · cases secondFound
  exact unshared first second uuid firstFound secondFound

variable {entries : Dict String String} {registry : Registry}

/-- A value may be written at a key exactly when no other key has it. -/
theorem Unshared.insert_iff (unshared : Unshared entries) (instanceId uuid : String) :
    Unshared (entries.insert instanceId uuid) ↔
      ∀ other, other ≠ instanceId → entries.get? other ≠ some uuid := by
  constructor
  · intro after other different held
    refine different (after other instanceId uuid ?_ (entries.get?_insert_self instanceId uuid))
    rw [entries.get?_insert_ne uuid different]
    exact held
  · intro free first second shared firstFound secondFound
    rw [Dict.get?_insert] at firstFound secondFound
    by_cases atFirst : first = instanceId <;> by_cases atSecond : second = instanceId
    · rw [atFirst, atSecond]
    · rw [if_pos atFirst] at firstFound
      rw [if_neg atSecond, ← Option.some.inj firstFound] at secondFound
      exact absurd secondFound (free second atSecond)
    · rw [if_pos atSecond] at secondFound
      rw [if_neg atFirst, ← Option.some.inj secondFound] at firstFound
      exact absurd firstFound (free first atFirst)
    · rw [if_neg atFirst] at firstFound
      rw [if_neg atSecond] at secondFound
      exact unshared first second shared firstFound secondFound

@[simp] theorem entries_setMeta (registry : Registry) (instanceId : String)
    (record : InstanceMeta) : (registry.setMeta instanceId record).entries = registry.entries :=
  rfl

@[simp] theorem entries_setBinding (registry : Registry) (key : String)
    (binding : TaskStageBinding) : (registry.setBinding key binding).entries = registry.entries :=
  rfl

@[simp] theorem entries_dropEntry (registry : Registry) (instanceId : String) :
    (registry.dropEntry instanceId).entries = registry.entries.erase instanceId :=
  rfl

@[simp] theorem entries_setEntry (registry : Registry) (instanceId uuid : String) :
    (registry.setEntry instanceId uuid).entries = registry.entries.insert instanceId uuid :=
  rfl

theorem mem_others (registry : Registry) (instanceId uuid other : String) :
    other ∈ registry.others instanceId uuid ↔
      other ≠ instanceId ∧ registry.entries.get? other = some uuid := by
  constructor
  · intro member
    obtain ⟨entry, kept, rfl⟩ := List.mem_map.mp member
    obtain ⟨present, meets⟩ := List.mem_filter.mp kept
    obtain ⟨different, same⟩ := of_decide_eq_true meets
    exact ⟨different, (Dict.get?_eq_some_iff _ _ _).mpr (same ▸ present)⟩
  · rintro ⟨different, found⟩
    have present := (Dict.get?_eq_some_iff _ _ _).mp found
    exact List.mem_map.mpr ⟨(other, uuid),
      List.mem_filter.mpr ⟨present, decide_eq_true ⟨different, rfl⟩⟩, rfl⟩

/-- What is left of the entries once a list of instances was dropped. -/
theorem get?_dropAll (names : List String) (registry : Registry) (other : String) :
    (names.foldl (fun released name =>
      (released.setMeta name { released.metaOf name with sessionPath := none }).dropEntry name)
      registry).entries.get? other =
      if other ∈ names then none else registry.entries.get? other := by
  induction names generalizing registry with
  | nil => simp
  | cons name rest ih =>
      rw [List.foldl_cons, ih, entries_dropEntry, entries_setMeta, Dict.get?_erase]
      by_cases here : other = name
      · simp [here]
      · simp [here]

theorem get?_releaseOthers (registry : Registry) (instanceId uuid other : String) :
    (registry.releaseOthers instanceId uuid).entries.get? other =
      if other ∈ registry.others instanceId uuid then none
      else registry.entries.get? other :=
  get?_dropAll _ registry other

/-- A released UUID is registered without being shared. -/
theorem Unshared.take (unshared : Unshared registry.entries) (instanceId uuid : String) :
    Unshared ((registry.releaseOthers instanceId uuid).entries.insert instanceId uuid) := by
  have rest : Unshared (registry.releaseOthers instanceId uuid).entries := by
    intro first second shared firstFound secondFound
    rw [get?_releaseOthers] at firstFound secondFound
    split at firstFound
    · cases firstFound
    split at secondFound
    · cases secondFound
    exact unshared first second shared firstFound secondFound
  refine (rest.insert_iff instanceId uuid).mpr fun other different held => ?_
  rw [get?_releaseOthers] at held
  split at held
  · cases held
  · rename_i kept
    exact kept ((mem_others registry instanceId uuid other).mpr ⟨different, held⟩)

/-- The instance a call generates a UUID for, and that UUID. -/
def generated (env : Env) (registry : Registry) : Call → Option (String × String)
  | .getOrCreate instanceId backend =>
      let record := registry.metaOf instanceId
      if registry.entries.contains instanceId ∧ ¬backendChanged record backend then none
      else some (instanceId,
        uuid5Seed env instanceId (rotatedFor record backend).rotationCounter backend)
  | .rotate instanceId => some (instanceId,
      uuid5Seed env instanceId ((registry.metaOf instanceId).rotationCounter + 1) "")
  | _ => none

/-- What a call does to the entries besides generating a UUID. -/
inductive Registry.Moves (registry : Registry) : Dict String String → Prop
  | kept : registry.Moves registry.entries
  | dropped (instanceId : String) : registry.Moves (registry.entries.erase instanceId)
  | taken (instanceId uuid : String) {before : Registry}
      (same : before.entries = registry.entries) :
      registry.Moves ((before.releaseOthers instanceId uuid).entries.insert instanceId uuid)

theorem Registry.Moves.of_eq (same : entries = registry.entries) : registry.Moves entries :=
  same ▸ .kept

theorem Registry.Moves.unshared
    (moves : registry.Moves entries) (unshared : Unshared registry.entries) :
    Unshared entries := by
  cases moves with
  | kept => exact unshared
  | dropped instanceId => exact unshared.erase instanceId
  | taken instanceId uuid same => exact Unshared.take (same ▸ unshared) instanceId uuid

theorem getOrCreate_entries (env : Env) (instanceId backend : String) (registry : Registry) :
    (getOrCreate env instanceId backend registry).2.entries =
      match generated env registry (.getOrCreate instanceId backend) with
      | none => registry.entries
      | some seed => registry.entries.insert seed.1 seed.2 := by
  unfold getOrCreate generated Dict.contains
  cases found : registry.entries.get? instanceId with
  | none => simp [found]
  | some uuid =>
      by_cases changed : backendChanged (registry.metaOf instanceId) backend
      · simp [changed]
      · simp only [found, changed, decide_false, Option.isSome_some, not_false_eq_true, and_self,
          if_true]
        split <;> rfl

theorem markBackend_moves (instanceId backend : String) (registry : Registry) :
    registry.Moves (markBackend instanceId backend registry).2.entries := by
  unfold markBackend
  dsimp only
  split
  · exact .dropped instanceId
  · split <;> exact .kept

theorem bindProviderSessionConfig_moves (instanceId digest ref : String) (explicit : Bool)
    (registry : Registry) :
    registry.Moves
      (bindProviderSessionConfig instanceId digest ref explicit registry).2.entries := by
  unfold bindProviderSessionConfig
  split
  · exact .kept
  · dsimp only
    generalize decide (recycleReason (registry.metaOf instanceId) digest explicit ≠ "") = recycled
    cases recycled with
    | false => exact .kept
    | true => exact .dropped instanceId

theorem projectSession_moves (binding : TaskStageBinding) (roleInstance : String)
    {before : Registry} (same : before.entries = registry.entries) :
    registry.Moves (projectSession binding roleInstance before).entries := by
  unfold projectSession
  split
  · rw [entries_dropEntry, entries_setMeta, same]
    exact .dropped roleInstance
  split
  · have taken := Registry.Moves.taken roleInstance binding.sessionId same
    split <;> exact taken
  · rw [same]
    exact .kept

theorem activateTaskStageSession_moves (bindingKey roleInstance : String)
    (registry : Registry) :
    registry.Moves (activateTaskStageSession bindingKey roleInstance registry).2.entries := by
  unfold activateTaskStageSession
  dsimp only
  split
  · exact .kept
  split
  · exact .kept
  split
  · exact .kept
  · exact projectSession_moves _ _ rfl

theorem bindCodexSession_moves (env : Env) (instanceId sessionId : String)
    (sessionPath : Option String) (registry : Registry) :
    registry.Moves (bindCodexSession env instanceId sessionId sessionPath registry).2.entries := by
  unfold bindCodexSession
  cases env.parseUuid sessionId with
  | none => exact .kept
  | some uuid =>
      dsimp only
      refine .taken instanceId uuid ?_
      split <;> rfl

theorem placeBinding_entries (request : BindRequest) (key : String)
    (binding : TaskStageBinding) (registry : Registry) :
    (placeBinding request key binding registry).2.entries = registry.entries := by
  unfold placeBinding
  dsimp only
  split
  · rfl
  split
  · rfl
  split
  · split <;> rfl
  · rfl

theorem bindTaskStageSession_entries (env : Env) (request : BindRequest)
    (registry : Registry) :
    (bindTaskStageSession env request registry).2.entries = registry.entries := by
  unfold bindTaskStageSession
  split
  · rfl
  split
  · rfl
  split
  · exact placeBinding_entries _ _ _ _
  split
  · rfl
  · exact placeBinding_entries _ _ _ _

theorem sealTaskStageSession_entries (env : Env) (identity : BindingIdentity)
    (registry : Registry) :
    (sealTaskStageSession env identity registry).2.entries = registry.entries := by
  unfold sealTaskStageSession
  split
  · rfl
  split <;> rfl

theorem archiveTaskStageSession_entries (env : Env) (identity : BindingIdentity)
    (registry : Registry) :
    (archiveTaskStageSession env identity registry).2.entries = registry.entries := by
  unfold archiveTaskStageSession
  split
  · rfl
  split
  · rfl
  split <;> rfl

theorem bindTaskStageSession_moves (env : Env) (request : BindRequest)
    (registry : Registry) :
    registry.Moves (bindTaskStageSession env request registry).2.entries :=
  .of_eq (bindTaskStageSession_entries env request registry)

theorem sealTaskStageSession_moves (env : Env) (identity : BindingIdentity)
    (registry : Registry) :
    registry.Moves (sealTaskStageSession env identity registry).2.entries :=
  .of_eq (sealTaskStageSession_entries env identity registry)

theorem archiveTaskStageSession_moves (env : Env) (identity : BindingIdentity)
    (registry : Registry) :
    registry.Moves (archiveTaskStageSession env identity registry).2.entries :=
  .of_eq (archiveTaskStageSession_entries env identity registry)

/-- A call writes the UUID it generates, and otherwise keeps, drops or takes one. -/
theorem call_entries (env : Env) (registry : Registry) (call : Call) :
    match generated env registry call with
    | none => registry.Moves (registry.call env call).entries
    | some seed => (registry.call env call).entries = registry.entries.insert seed.1 seed.2 := by
  cases call with
  | getOrCreate instanceId backend =>
      have entries := getOrCreate_entries env instanceId backend registry
      generalize generated env registry (.getOrCreate instanceId backend) = seed at entries ⊢
      cases seed with
      | none =>
          change registry.Moves (getOrCreate env instanceId backend registry).2.entries
          rw [entries]
          exact .kept
      | some seed => exact entries
  | rotate instanceId => rfl
  | markBackend instanceId backend =>
      exact markBackend_moves instanceId backend registry
  | markSpawned instanceId =>
      change registry.Moves (markSpawned instanceId registry).2.entries
      unfold markSpawned
      dsimp only
      split <;> exact .kept
  | bindProviderSessionConfig instanceId digest ref explicit =>
      exact bindProviderSessionConfig_moves instanceId digest ref explicit registry
  | clear instanceId => exact .dropped instanceId
  | bindCodexSession instanceId sessionId sessionPath =>
      exact bindCodexSession_moves env instanceId sessionId sessionPath registry
  | bindTaskStageSession request =>
      dsimp only [generated, Registry.call]
      exact bindTaskStageSession_moves env request registry
  | activateTaskStageSession bindingKey roleInstance =>
      exact activateTaskStageSession_moves bindingKey roleInstance registry
  | sealTaskStageSession identity =>
      dsimp only [generated, Registry.call]
      exact sealTaskStageSession_moves env identity registry
  | archiveTaskStageSession identity =>
      dsimp only [generated, Registry.call]
      exact archiveTaskStageSession_moves env identity registry

/-- A UUID that the call generates is not registered for another instance. -/
def GeneratesFree (env : Env) (registry : Registry) (call : Call) : Prop :=
  ∀ seed ∈ generated env registry call, registry.others seed.1 seed.2 = []

instance (env : Env) (registry : Registry) (call : Call) :
    Decidable (GeneratesFree env registry call) :=
  inferInstanceAs (Decidable (∀ seed ∈ generated env registry call,
    registry.others seed.1 seed.2 = []))

/-- A call keeps the UUIDs unshared exactly when it generates a free one or none. -/
theorem unshared_call_iff (env : Env) (unshared : Unshared registry.entries) (call : Call) :
    Unshared (registry.call env call).entries ↔ GeneratesFree env registry call := by
  have entries := call_entries env registry call
  unfold GeneratesFree
  generalize generated env registry call = seed at entries ⊢
  cases seed with
  | none =>
      constructor
      · intro _ seed impossible
        cases impossible
      · exact fun _ => entries.unshared unshared
  | some seed =>
      rw [entries, unshared.insert_iff]
      simp only [Option.mem_def, Option.some.injEq, forall_eq', List.eq_nil_iff_forall_not_mem]
      constructor
      · intro free other member
        obtain ⟨different, held⟩ := (mem_others registry seed.1 seed.2 other).mp member
        exact free other different held
      · intro free other different held
        exact free other ((mem_others registry seed.1 seed.2 other).mpr ⟨different, held⟩)

/-- No two instances share a UUID, and a UUID is attributed to an instance
exactly when it is the one registered for it. -/
structure IdentifiesWorkers (registry : Registry) : Prop where
  unshared : Unshared registry.entries
  attributed : ∀ uuid instanceId, getInstanceByUuid registry uuid = some instanceId ↔
    registry.entries.get? instanceId = some uuid

theorem get?_of_getInstanceByUuid {uuid instanceId : String}
    (found : getInstanceByUuid registry uuid = some instanceId) :
    registry.entries.get? instanceId = some uuid := by
  obtain ⟨entry, first, rfl⟩ := Option.map_eq_some_iff.mp found
  have same : entry.2 = uuid := by simpa using List.find?_some first
  exact (Dict.get?_eq_some_iff _ _ _).mpr (same ▸ List.mem_of_find?_eq_some first)

theorem identifiesWorkers_iff (registry : Registry) :
    IdentifiesWorkers registry ↔ Unshared registry.entries := by
  refine ⟨IdentifiesWorkers.unshared, fun unshared => ⟨unshared, fun uuid instanceId => ?_⟩⟩
  refine ⟨get?_of_getInstanceByUuid, fun registered => ?_⟩
  have present := (Dict.get?_eq_some_iff _ _ _).mp registered
  cases found : getInstanceByUuid registry uuid with
  | none =>
      have missing := List.find?_eq_none.mp (Option.map_eq_none_iff.mp found) _ present
      exact absurd (decide_eq_true rfl) missing
  | some other =>
      rw [unshared other instanceId uuid (get?_of_getInstanceByUuid found) registered]

/-- Along a run from the empty registry every session UUID identifies one worker
exactly when no call generates a UUID that another instance is registered under. -/
theorem session_uuids_identify_iff (env : Env) (calls : List Call) :
    (∀ before, before <+: calls →
        IdentifiesWorkers (Runs.run (Registry.call env) {} before)) ↔
      Runs.Along (Registry.call env) (GeneratesFree env) {} calls := by
  have empty : Unshared ({} : Registry).entries := fun _ _ _ found => nomatch found
  constructor
  · intro always
    by_contra stopped
    obtain ⟨before, call, after, rfl, along, taken⟩ := Runs.exists_of_not_along stopped
    have here := always before (List.prefix_append _ _)
    have there := always (before ++ [call]) ⟨after, by simp⟩
    rw [Runs.run_append] at there
    exact taken ((unshared_call_iff env here.unshared call).mp there.unshared)
  · rintro along before ⟨after, rfl⟩
    refine (identifiesWorkers_iff _).mpr ?_
    refine along.initial.invariant (fun registry => Unshared registry.entries) ?_ empty
    exact fun registry call unshared free => (unshared_call_iff env unshared call).mpr free

/-- `uuid5` in the DNS name space at the seed of `dev-1` under `/repo`. -/
def repoSeeds : List (String × String) :=
  [("/repo:dev-1", "0fce7578-7742-5e1a-a2e0-7ca968922a84")]

def repoEnv : Env where
  projectRoot := "/repo"
  uuid5 := Digest.tableDigest repoSeeds
  parseUuid := fun text => if text.length = 36 then some text else none
  digest := Digest.tableDigest []

theorem repoSeeds_table : Digest.Table repoSeeds where
  distinct := by decide
  unmarked := by decide
  noColon := by decide

/-- The session generated for `dev-1` is observed in `dev-2` and then generated again. -/
def sharedCalls : List Call :=
  [.getOrCreate "dev-1" "",
    .bindCodexSession "dev-2" "0fce7578-7742-5e1a-a2e0-7ca968922a84" none,
    .getOrCreate "dev-1" ""]

theorem generated_session_shared :
    Function.Injective repoEnv.uuid5 ∧
      (Runs.run (Registry.call repoEnv) {} sharedCalls).entries.entries =
        [("dev-2", "0fce7578-7742-5e1a-a2e0-7ca968922a84"),
          ("dev-1", "0fce7578-7742-5e1a-a2e0-7ca968922a84")] ∧
      ¬IdentifiesWorkers (Runs.run (Registry.call repoEnv) {} sharedCalls) := by
  have entries : (Runs.run (Registry.call repoEnv) {} sharedCalls).entries.entries =
      [("dev-2", "0fce7578-7742-5e1a-a2e0-7ca968922a84"),
        ("dev-1", "0fce7578-7742-5e1a-a2e0-7ca968922a84")] := by decide
  refine ⟨Digest.tableDigest_injective repoSeeds_table, entries, fun identifies => ?_⟩
  have shared := identifies.unshared "dev-1" "dev-2" "0fce7578-7742-5e1a-a2e0-7ca968922a84"
    ((Dict.get?_eq_some_iff _ _ _).mpr (by rw [entries]; decide))
    ((Dict.get?_eq_some_iff _ _ _).mpr (by rw [entries]; decide))
  exact absurd shared (by decide)

end ZaofuFormal.State.RoleSessions
