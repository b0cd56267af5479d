import Mathlib.Data.List.Infix
import Mathlib.Data.Set.Lattice
import Mathlib.Order.Bounds.Basic
import ZaofuFormal.Foundation.Lists
import ZaofuFormal.Foundation.Passes

/-!
# Producible stage events

The check asks which events a configuration can ever produce and reports the
declared stage events outside of that set.  Roles fire when one of their
triggers is producible; the entry stage fires without triggers.
-/

namespace ZaofuFormal.Workflow.Reachability

open Foundation

structure RoleConfig where
  name : String
  triggers : List String
  publishes : List String
  deriving DecidableEq

structure Config where
  dagEnabled : Bool
  stageOrder : List String
  roles : List RoleConfig

structure StageReachabilityReport where
  producible : List String := []
  unproducibleStageEvents : List String := []
  deriving DecidableEq

def seedEvents : List String := ["task.assigned"]

def kernelTransforms : List (String × List String) :=
  [("dev.build.done", ["static_gate.passed", "static_gate.failed", "static_gate.skipped"])]

def fanoutMarkerEvents : List String := ["task_map.ready", "candidate.ready"]

/-- The dotted entries of the stage order; the others are stage labels. -/
def stageEvents (config : Config) : List String :=
  config.stageOrder.filter fun event => event.toList.contains '.'

/-- The roles that publish an event. -/
def publishers (config : Config) (event : String) : List RoleConfig :=
  config.roles.filter fun role => decide (event ∈ role.publishes)

/-- A role publishes an event of a fanout child. -/
def publishesChild (config : Config) : Bool :=
  config.roles.any fun role =>
    role.publishes.any fun event => decide (".child.".toList <:+: event.toList)

/-- The stage event at which the search for the entry stops. -/
def entryEvent (config : Config) : Option String :=
  (stageEvents config).find? fun event =>
    decide (event ∉ seedEvents) && !kernelTransforms.any fun transform =>
      decide (event ∈ transform.2)

def entryPublishers (config : Config) : List RoleConfig :=
  ((entryEvent config).map (publishers config)).getD []

/-- The producible events and the names of the roles that have fired. -/
structure Spread where
  producible : List String
  fired : List String

def entrySpread (config : Config) : Spread where
  producible := seedEvents ∪ (entryPublishers config).flatMap RoleConfig.publishes
  fired := (entryPublishers config).map RoleConfig.name

def applyTransform (transform : String × List String) (spread : Spread) : Option Spread :=
  if transform.1 ∈ spread.producible ∧ ¬transform.2 ⊆ spread.producible then
    some { spread with producible := spread.producible ∪ transform.2 }
  else none

def fireRole (role : RoleConfig) (spread : Spread) : Option Spread :=
  if role.name ∈ spread.fired then none
  else if role.triggers.any fun trigger => decide (trigger ∈ spread.producible) then
    some ⟨spread.producible ∪ role.publishes, role.name :: spread.fired⟩
  else none

/-- The steps of one pass over the transforms and the roles. -/
def passSteps (config : Config) : List (Spread → Option Spread) :=
  kernelTransforms.map applyTransform ++ config.roles.map fireRole

/-- How much a pass can still change. -/
def remaining (config : Config) (spread : Spread) : Nat :=
  (kernelTransforms.flatMap Prod.snd).countP (fun event => decide (event ∉ spread.producible)) +
    config.roles.countP fun role => decide (role.name ∉ spread.fired)

/-- The report, or nothing should the passes run out of fuel. -/
def checkStageReachability (config : Config) : Option StageReachabilityReport :=
  let stages := stageEvents config
  if !config.dagEnabled then some {}
  else if stages = [] ∨ config.roles = [] then some {}
  else if fanoutMarkerEvents.any fun marker => decide (marker ∈ stages) then some {}
  else if publishesChild config then some {}
  else
    (Passes.settle (passSteps config) (remaining config (entrySpread config) + 1)
      (entrySpread config)).map fun spread =>
        { producible := spread.producible
          unproducibleStageEvents := stages.filter fun event => event ∉ spread.producible }

/-- The first stage event that some role publishes. -/
def firstPublished (config : Config) : Option String :=
  (stageEvents config).find? fun event => decide (publishers config event ≠ [])

/-- What the publishers of the first published stage event publish. -/
def firstOutputs (config : Config) : List String :=
  ((firstPublished config).map (publishers config)).getD [] |>.flatMap RoleConfig.publishes

/-- The events hold the seeds and what the entry publishes, and they are closed
under the kernel and under firing roles. -/
structure StageClosed (config : Config) (entry : List String) (events : Set String) : Prop where
  seed : ∀ event ∈ seedEvents, event ∈ events
  entry : ∀ event ∈ entry, event ∈ events
  transform : ∀ transform ∈ kernelTransforms, transform.1 ∈ events →
    ∀ event ∈ transform.2, event ∈ events
  fire : ∀ role ∈ config.roles, ∀ trigger ∈ role.triggers, trigger ∈ events →
    ∀ event ∈ role.publishes, event ∈ events

/-- The configurations that the check can judge. -/
structure InScope (config : Config) : Prop where
  enabled : config.dagEnabled = true
  dotted : stageEvents config ≠ []
  unmarked : ∀ marker ∈ fanoutMarkerEvents, marker ∉ stageEvents config
  childless : publishesChild config = false

/-- The check ends, with the least closed set and the stage events outside of it. -/
def ReachabilityExact (config : Config) : Prop :=
  ∃ report, checkStageReachability config = some report ∧
    IsLeast {events | StageClosed config (firstOutputs config) events}
      {event | event ∈ report.producible} ∧
    report.unproducibleStageEvents =
      (stageEvents config).filter fun event => event ∉ report.producible

/-- The event can be produced from what an entry publishes. -/
inductive Derives (config : Config) (entry : List String) : String → Prop where
  | seed {event : String} (seeded : event ∈ seedEvents) : Derives config entry event
  | entry {event : String} (published : event ∈ entry) : Derives config entry event
  | transform {transform : String × List String} {event : String}
      (known : transform ∈ kernelTransforms) (source : Derives config entry transform.1)
      (made : event ∈ transform.2) : Derives config entry event
  | fire {role : RoleConfig} {trigger event : String} (known : role ∈ config.roles)
      (waits : trigger ∈ role.triggers) (triggered : Derives config entry trigger)
      (published : event ∈ role.publishes) : Derives config entry event

theorem stageClosed_derives (config : Config) (entry : List String) :
    StageClosed config entry {event | Derives config entry event} where
  seed _ := Derives.seed
  entry _ := Derives.entry
  transform _ known source _ := Derives.transform known source
  fire _ known _ waits triggered _ := Derives.fire known waits triggered

theorem Derives.mem {config : Config} {entry : List String} {events : Set String}
    (closed : StageClosed config entry events) {event : String}
    (derives : Derives config entry event) : event ∈ events := by
  induction derives with
  | seed seeded => exact closed.seed _ seeded
  | entry published => exact closed.entry _ published
  | transform known _ made ih => exact closed.transform _ known ih _ made
  | fire known waits _ published ih => exact closed.fire _ known _ waits ih _ published

theorem isLeast_derives (config : Config) (entry : List String) :
    IsLeast {events | StageClosed config entry events} {event | Derives config entry event} :=
  ⟨stageClosed_derives config entry, fun _ closed _ derives => derives.mem closed⟩

/-- A second entry adds nothing when all it publishes is producible already. -/
theorem Derives.of_entry {config : Config} {first second : List String}
    (inside : ∀ event ∈ first, Derives config second event) {event : String}
    (derives : Derives config first event) : Derives config second event := by
  induction derives with
  | seed seeded => exact Derives.seed seeded
  | entry published => exact inside _ published
  | transform known _ made ih => exact Derives.transform known ih made
  | fire known waits _ published ih => exact Derives.fire known waits ih published

/-- What the publishers of the entry event publish. -/
def entryOutputs (config : Config) : List String :=
  (entryPublishers config).flatMap RoleConfig.publishes

def Triggered (config : Config) (role : RoleConfig) : Prop :=
  ∃ trigger ∈ role.triggers, Derives config (entryOutputs config) trigger

/-- Where two roles of one name can start, the second publishes nothing of its own. -/
def NamesSeparate (config : Config) : Prop :=
  ∀ first ∈ config.roles, ∀ second ∈ config.roles, first.name = second.name →
    first ∈ entryPublishers config ∨ Triggered config first → Triggered config second →
      second ∈ entryPublishers config ∨ second.publishes ⊆ first.publishes

/-- The producible events are sound, and each fired name belongs to a role that
can start and whose events are producible. -/
structure Sound (config : Config) (spread : Spread) : Prop where
  derives : ∀ event ∈ spread.producible, Derives config (entryOutputs config) event
  seed : seedEvents ⊆ spread.producible
  entry : entryOutputs config ⊆ spread.producible
  fired : ∀ name ∈ spread.fired, ∃ role ∈ config.roles, role.name = name ∧
    (role ∈ entryPublishers config ∨ Triggered config role) ∧
    role.publishes ⊆ spread.producible

section Passes

variable {config : Config}

variable {role : RoleConfig} {spread : Spread}

theorem mem_publishers {event : String} :
    role ∈ publishers config event ↔ role ∈ config.roles ∧ event ∈ role.publishes := by
  rw [publishers, List.mem_filter, decide_eq_true_eq]

theorem mem_roles_of_mem_entryPublishers
    (member : role ∈ entryPublishers config) : role ∈ config.roles := by
  unfold entryPublishers at member
  cases found : entryEvent config with
  | none =>
      rw [found] at member
      cases member
  | some event =>
      rw [found] at member
      exact (mem_publishers.mp member).1

theorem sound_entrySpread : Sound config (entrySpread config) where
  derives event member := by
    rcases List.mem_union_iff.mp member with seeded | published
    · exact Derives.seed seeded
    · exact Derives.entry published
  seed := fun _ seeded => List.mem_union_iff.mpr (Or.inl seeded)
  entry := fun _ published => List.mem_union_iff.mpr (Or.inr published)
  fired name member := by
    obtain ⟨role, entering, same⟩ := List.mem_map.mp member
    refine ⟨role, mem_roles_of_mem_entryPublishers entering, same, Or.inl entering, ?_⟩
    intro event published
    exact List.mem_union_iff.mpr (Or.inr (List.mem_flatMap.mpr ⟨role, entering, published⟩))

/-- More producible events keep a sound spread sound if they are derived. -/
theorem Sound.extend (sound : Sound config spread) {events : List String}
    (derives : ∀ event ∈ events, Derives config (entryOutputs config) event) :
    Sound config { spread with producible := spread.producible ∪ events } := by
  have grows : spread.producible ⊆ spread.producible ∪ events :=
    fun _ member => List.mem_union_iff.mpr (Or.inl member)
  refine ⟨?_, List.Subset.trans sound.seed grows, List.Subset.trans sound.entry grows, ?_⟩
  · intro event member
    rcases List.mem_union_iff.mp member with old | new
    · exact sound.derives event old
    · exact derives event new
  · intro name member
    obtain ⟨role, known, same, starts, published⟩ := sound.fired name member
    exact ⟨role, known, same, starts, List.Subset.trans published grows⟩

theorem Sound.transformed {transform : String × List String} {after : Spread}
    (known : transform ∈ kernelTransforms)
    (applied : applyTransform transform spread = some after) (sound : Sound config spread) :
    Sound config after := by
  unfold applyTransform at applied
  split at applied
  · rename_i source
    cases applied
    exact sound.extend fun event made =>
      Derives.transform known (sound.derives _ source.1) made
  · cases applied

theorem Sound.roleFired {after : Spread} (known : role ∈ config.roles)
    (applied : fireRole role spread = some after) (sound : Sound config spread) :
    Sound config after := by
  unfold fireRole at applied
  split at applied
  · cases applied
  split at applied
  · rename_i fires
    cases applied
    obtain ⟨trigger, waits, present⟩ := List.any_eq_true.mp fires
    have triggered := sound.derives trigger (of_decide_eq_true present)
    have extended := sound.extend fun event published =>
      Derives.fire known waits triggered published
    refine ⟨extended.derives, extended.seed, extended.entry, ?_⟩
    refine List.forall_mem_cons.mpr ⟨?_, extended.fired⟩
    refine ⟨role, known, rfl, Or.inr ⟨trigger, waits, triggered⟩, ?_⟩
    exact fun _ published => List.mem_union_iff.mpr (Or.inr published)
  · cases applied

theorem Sound.passStep (step : Spread → Option Spread) (member : step ∈ passSteps config)
    (before after : Spread) (applied : step before = some after) (sound : Sound config before) :
    Sound config after := by
  rcases List.mem_append.mp member with transforms | fires
  · obtain ⟨transform, known, rfl⟩ := List.mem_map.mp transforms
    exact sound.transformed known applied
  · obtain ⟨role, known, rfl⟩ := List.mem_map.mp fires
    exact sound.roleFired known applied

/-- A sound spread that no step changes holds exactly the derived events. -/
theorem Sound.mem_iff_derives (sound : Sound config spread)
    (separate : NamesSeparate config) (still : ∀ step ∈ passSteps config, step spread = none)
    (event : String) :
    event ∈ spread.producible ↔ Derives config (entryOutputs config) event := by
  refine ⟨sound.derives event, fun derives => ?_⟩
  have closed : StageClosed config (entryOutputs config) {event | event ∈ spread.producible} := by
    refine ⟨fun _ seeded => sound.seed seeded, fun _ entering => sound.entry entering, ?_, ?_⟩
    · intro transform known source made member
      have idle := still (applyTransform transform)
        (List.mem_append_left _ (List.mem_map_of_mem known))
      unfold applyTransform at idle
      by_contra absent
      rw [if_pos ⟨source, fun inside => absent (inside member)⟩] at idle
      cases idle
    · intro role known trigger waits present published member
      have idle := still (fireRole role) (List.mem_append_right _ (List.mem_map_of_mem known))
      unfold fireRole at idle
      split at idle
      · rename_i named
        obtain ⟨first, firstKnown, same, starts, inside⟩ := sound.fired role.name named
        have triggered : Triggered config role := ⟨trigger, waits, sound.derives trigger present⟩
        rcases separate first firstKnown role known same starts triggered with entering | shared
        · exact sound.entry (List.mem_flatMap.mpr ⟨role, entering, member⟩)
        · exact inside (shared member)
      · have fires : (role.triggers.any fun trigger => decide (trigger ∈ spread.producible)) =
            true :=
          List.any_eq_true.mpr ⟨trigger, waits, decide_eq_true present⟩
        rw [if_pos fires] at idle
        cases idle
  exact derives.mem closed

/-- More known items leave fewer unknown ones. -/
theorem unknown_mono {α β : Type} [DecidableEq β] {items : List α} (key : α → β)
    {known more : List β} (grows : known ⊆ more) (item : α) (_ : item ∈ items)
    (unknown : decide (key item ∉ more) = true) : decide (key item ∉ known) = true :=
  decide_eq_true fun present => of_decide_eq_true unknown (grows present)

/-- Every step that applies leaves less to change. -/
theorem passStep_lt (step : Spread → Option Spread) (member : step ∈ passSteps config)
    (before after : Spread) (applied : step before = some after) :
    remaining config after < remaining config before := by
  rcases List.mem_append.mp member with transforms | fires
  · obtain ⟨transform, known, rfl⟩ := List.mem_map.mp transforms
    unfold applyTransform at applied
    split at applied
    · rename_i source
      cases applied
      obtain ⟨event, made, missing⟩ : ∃ event ∈ transform.2, event ∉ before.producible := by
        by_contra none
        exact source.2 fun event made => by_contra fun missing => none ⟨event, made, missing⟩
      refine Nat.add_lt_add_right ?_ _
      have listed : event ∈ kernelTransforms.flatMap Prod.snd :=
        List.mem_flatMap.mpr ⟨transform, known, made⟩
      refine Lists.countP_lt (unknown_mono id ?_) listed ?_ ?_
      · exact fun _ present => List.mem_union_iff.mpr (Or.inl present)
      · exact decide_eq_true missing
      · exact decide_eq_false fun absent => absent (List.mem_union_iff.mpr (Or.inr made))
    · cases applied
  · obtain ⟨role, known, rfl⟩ := List.mem_map.mp fires
    unfold fireRole at applied
    split at applied
    · cases applied
    rename_i unfired
    split at applied
    · cases applied
      refine Nat.add_lt_add_of_le_of_lt ?_ ?_
      · refine List.countP_mono_left (unknown_mono id ?_)
        exact fun _ present => List.mem_union_iff.mpr (Or.inl present)
      · refine Lists.countP_lt
          (unknown_mono RoleConfig.name (List.subset_cons_self _ _)) known ?_ ?_
        · exact decide_eq_true unfired
        · exact decide_eq_false fun absent => absent List.mem_cons_self
    · cases applied

theorem exists_settled (config : Config) : ∃ spread, Passes.settle (passSteps config)
    (remaining config (entrySpread config) + 1) (entrySpread config) = some spread :=
  Passes.exists_settle passStep_lt (Nat.lt_succ_self _)

/-- Inside the scope the check reports what the passes reach. -/
theorem check_of_scope (scope : InScope config) (staffed : config.roles ≠ []) :
    ∃ spread, checkStageReachability config = some
        { producible := spread.producible
          unproducibleStageEvents :=
            (stageEvents config).filter fun event => event ∉ spread.producible } ∧
      Sound config spread ∧ ∀ step ∈ passSteps config, step spread = none := by
  obtain ⟨spread, settled⟩ := exists_settled config
  have unmarked : (fanoutMarkerEvents.any fun marker => decide (marker ∈ stageEvents config)) =
      false := by
    rw [List.any_eq_false]
    exact fun marker member present =>
      scope.unmarked marker member (of_decide_eq_true present)
  refine ⟨spread, ?_, Passes.settle_rule Sound.passStep sound_entrySpread settled⟩
  unfold checkStageReachability
  dsimp only
  rw [scope.enabled, if_neg (by decide), if_neg (not_or.mpr ⟨scope.dotted, staffed⟩), unmarked,
    if_neg (by decide), scope.childless, if_neg (by decide), settled]
  rfl

end Passes

/-- Each of the two entries publishes only what can be produced from the other. -/
def EntriesAgree (config : Config) : Prop :=
  (∀ event ∈ entryOutputs config, Derives config (firstOutputs config) event) ∧
    ∀ event ∈ firstOutputs config, Derives config (entryOutputs config) event

/-- The report is exact if and only if there are roles and the search stops at
an entry with the same consequences. -/
theorem reachability_exact_iff (config : Config) (scope : InScope config)
    (separate : NamesSeparate config) :
    ReachabilityExact config ↔ config.roles ≠ [] ∧ EntriesAgree config := by
  by_cases staffed : config.roles = []
  · refine iff_of_false ?_ fun both => both.1 staffed
    rintro ⟨report, checked, least, _⟩
    have empty : checkStageReachability config = some {} := by
      unfold checkStageReachability
      dsimp only
      rw [scope.enabled, if_neg (by decide), if_pos (Or.inr staffed)]
    cases empty.symm.trans checked
    have seeded := least.1.seed "task.assigned" List.mem_cons_self
    cases seeded
  · obtain ⟨spread, checked, sound, still⟩ := check_of_scope scope staffed
    have reached : {event | event ∈ spread.producible} =
        {event | Derives config (entryOutputs config) event} :=
      Set.ext (sound.mem_iff_derives separate still)
    rw [and_iff_right staffed]
    constructor
    · rintro ⟨report, same, least, _⟩
      cases checked.symm.trans same
      have equal := least.unique (isLeast_derives config (firstOutputs config))
      dsimp only at equal
      rw [reached] at equal
      have agree : ∀ event, Derives config (entryOutputs config) event ↔
          Derives config (firstOutputs config) event := fun event =>
        Set.ext_iff.mp equal event
      exact ⟨fun event published => (agree event).mp (Derives.entry published),
        fun event published => (agree event).mpr (Derives.entry published)⟩
    · rintro ⟨forth, back⟩
      refine ⟨_, checked, ?_, rfl⟩
      have equal : {event | event ∈ spread.producible} =
          {event | Derives config (firstOutputs config) event} := by
        rw [reached]
        exact Set.ext fun event => ⟨Derives.of_entry forth, Derives.of_entry back⟩
      dsimp only
      rw [equal]
      exact isLeast_derives config (firstOutputs config)

theorem namesSeparate_of_nodup {config : Config}
    (distinct : (config.roles.map RoleConfig.name).Nodup) : NamesSeparate config := by
  intro first firstKnown second secondKnown same _ _
  have equal : first = second := List.inj_on_of_nodup_map distinct firstKnown secondKnown same
  exact Or.inr (equal ▸ List.Subset.refl _)

theorem entriesAgree_of_eq {config : Config} (same : entryOutputs config = firstOutputs config) :
    EntriesAgree config :=
  ⟨fun _ published => Derives.entry (same ▸ published),
    fun _ published => Derives.entry (same ▸ published)⟩

/-- Four roles that hand a task on by their triggers. -/
def racingConfig : Config where
  dagEnabled := true
  stageOrder := ["task.assigned", "dev.build.done", "static_gate.passed", "review.approved",
    "test.passed", "judge.passed"]
  roles :=
    [⟨"dev", ["task.assigned"], ["dev.build.done", "dev.blocked"]⟩,
      ⟨"review", ["static_gate.passed"], ["review.approved", "review.rejected"]⟩,
      ⟨"test", ["review.approved"], ["test.passed", "test.failed"]⟩,
      ⟨"judge", ["test.passed"], ["judge.passed", "judge.failed"]⟩]

theorem racing_reachability_exact : ReachabilityExact racingConfig :=
  (reachability_exact_iff racingConfig ⟨rfl, by decide, by decide, by decide⟩
    (namesSeparate_of_nodup (by decide))).mpr ⟨by decide, entriesAgree_of_eq (by decide)⟩

/-- A leading stage that no role publishes, before the stage of the one role. -/
def unpublishedLead : Config where
  dagEnabled := true
  stageOrder := ["plan.approved", "dev.build.done"]
  roles := [⟨"dev", [], ["dev.build.done"]⟩]

theorem unpublished_lead_inexact :
    InScope unpublishedLead ∧ ¬ReachabilityExact unpublishedLead := by
  refine ⟨⟨rfl, by decide, by decide, by decide⟩, ?_⟩
  rintro ⟨report, checked, least, _⟩
  have reported : checkStageReachability unpublishedLead =
      some ⟨["task.assigned"], ["plan.approved", "dev.build.done"]⟩ := by
    decide +kernel
  cases reported.symm.trans checked
  have published := least.1.entry "dev.build.done" (by decide)
  exact absurd published (by decide)

end ZaofuFormal.Workflow.Reachability
