import ZaofuFormal.Foundation.Digest
import ZaofuFormal.State.TaskAttemptLanes

/-!
# Runs of the TaskAttempt store

Each store operation preserves `Coherent`, so every run from the empty store
ends in a coherent store.  The lane laws are then read off the invariant.
-/

namespace ZaofuFormal.State.TaskAttempts

open Foundation

variable {data disk : StoreData} {env : Env} {dispatch : Dispatch} {identity : DispatchIdentity}
  {lane : Lane} {row : TaskAttempt} {operation : Operation}

theorem loadUnlocked_ok (loaded : loadUnlocked env disk = .ok data) :
    data = { disk with schemaVersion := storeSchemaVersion } := by
  unfold loadUnlocked at loaded
  split at loaded
  · cases loaded
  · split at loaded
    · cases loaded
    · cases loaded
    · cases loaded
    · exact (Except.ok.inj loaded).symm

/-- A single-row operation leaves the file alone or saves one rewritten row. -/
theorem rewriteAttempt_cases (env : Env) (attemptId : String)
    (rewrite : TaskAttempt → Option TaskAttempt) (disk : StoreData) :
    (rewriteAttempt env attemptId rewrite disk).2 = disk ∨
      ∃ row changed, disk.attempts.get? attemptId = some row ∧ rewrite row = some changed ∧
        (rewriteAttempt env attemptId rewrite disk).2 =
          saveUnlocked { disk with
            schemaVersion := storeSchemaVersion
            attempts := disk.attempts.insert attemptId changed } := by
  unfold rewriteAttempt
  split
  · exact Or.inl rfl
  · rename_i data loaded
    have loadedEq := loadUnlocked_ok loaded
    subst loadedEq
    split
    · exact Or.inl rfl
    · rename_i row found
      split
      · exact Or.inl rfl
      · rename_i changed rewritten
        exact Or.inr ⟨row, changed, found, rewritten, rfl⟩

/-- Expiry leaves the file alone or rewrites every lapsed row. -/
theorem expire_cases (env : Env) (nowIso : String) (isExpired : String → Bool)
    (disk : StoreData) :
    (expire env nowIso isExpired disk).2 = disk ∨
      (expire env nowIso isExpired disk).2 =
        saveUnlocked { disk with
          schemaVersion := storeSchemaVersion
          attempts := disk.attempts.mapValues fun row =>
            if leaseLapsed isExpired row then expireRow nowIso row else row } := by
  unfold expire
  split
  · exact Or.inl rfl
  · rename_i data loaded
    have loadedEq := loadUnlocked_ok loaded
    subst loadedEq
    dsimp only
    split
    · exact Or.inl rfl
    · exact Or.inr rfl

/-- What a creating `ensureForDispatch` has checked and what it writes. -/
structure Creates (env : Env) (dispatch : Dispatch) (disk : StoreData)
    (identity : DispatchIdentity) : Prop where
  admitted : dispatchIdentity env dispatch = .ok identity
  fresh : disk.attempts.get? identity.attemptId = none
  withinBudget : ¬ (0 < dispatch.maxAttempts ∧
    dispatch.maxAttempts < (disk.nextPosition identity.lane).2)
  outcome : (ensureForDispatch env dispatch disk).1 = .ok {
    attempt := preparedAttempt dispatch identity (disk.nextPosition identity.lane)
    created := true
    supersededAttemptId := (supersedePrior disk identity.lane.scope dispatch.operationId
      identity.attemptId dispatch.createdAt).2 }
  file : (ensureForDispatch env dispatch disk).2 = saveUnlocked { disk with
    schemaVersion := storeSchemaVersion
    attempts := (supersedePrior disk identity.lane.scope dispatch.operationId
      identity.attemptId dispatch.createdAt).1.insert identity.attemptId
        (preparedAttempt dispatch identity (disk.nextPosition identity.lane))
    current := disk.current.insert identity.lane.scope identity.attemptId }

/-- An `ensureForDispatch` either creates a row or leaves the file unchanged. -/
theorem ensureForDispatch_cases (env : Env) (dispatch : Dispatch) (disk : StoreData) :
    ((ensureForDispatch env dispatch disk).2 = disk ∧
      ∀ result, (ensureForDispatch env dispatch disk).1 = .ok result → result.created = false) ∨
    ∃ identity, Creates env dispatch disk identity := by
  cases admitted : dispatchIdentity env dispatch with
  | error error =>
      left
      simp [ensureForDispatch, admitted]
  | ok identity =>
      cases loaded : loadUnlocked env disk with
      | error error =>
          left
          simp [ensureForDispatch, admitted, loaded]
      | ok data =>
          have loadedEq := loadUnlocked_ok loaded
          subst loadedEq
          cases fresh : disk.attempts.get? identity.attemptId with
          | some existing =>
              left
              simp [ensureForDispatch, admitted, loaded, fresh]
          | none =>
              by_cases exhausted : 0 < dispatch.maxAttempts ∧
                  dispatch.maxAttempts < (disk.nextPosition identity.lane).2
              · left
                obtain ⟨message, raised⟩ : ∃ message, ensureForDispatch env dispatch disk =
                    (.error (.limit message), disk) := by
                  simp only [ensureForDispatch, admitted, loaded, fresh]
                  exact ⟨_, if_pos exhausted⟩
                rw [raised]
                refine ⟨rfl, fun result impossible => ?_⟩
                cases impossible
              · right
                have created : ensureForDispatch env dispatch disk =
                    createAttempt dispatch identity disk
                      { disk with schemaVersion := storeSchemaVersion } := by
                  simp only [ensureForDispatch, admitted, loaded, fresh]
                refine ⟨identity, admitted, fresh, exhausted, ?_, ?_⟩
                · rw [created]
                  exact congrArg Prod.fst (if_neg exhausted)
                · rw [created]
                  exact congrArg Prod.snd (if_neg exhausted)

theorem ensureForDispatch_limit_unchanged {message : String}
    (raised : (ensureForDispatch env dispatch disk).1 = .error (.limit message)) :
    (ensureForDispatch env dispatch disk).2 = disk := by
  rcases ensureForDispatch_cases env dispatch disk with ⟨unchanged, _⟩ | ⟨identity, creates⟩
  · exact unchanged
  · rw [creates.outcome] at raised
    cases raised

theorem rewriteAttempt_reworked (env : Env) (disk : StoreData) (attemptId : String)
    {rewrite : TaskAttempt → Option TaskAttempt}
    (reworks : ∀ {row changed}, rewrite row = some changed → Reworks row changed) :
    ∃ effect, Reworked disk (rewriteAttempt env attemptId rewrite disk).2 effect := by
  rcases rewriteAttempt_cases env attemptId rewrite disk with
    unchanged | ⟨row, changed, found, rewritten, file⟩
  · rw [unchanged]
    exact ⟨_, .refl disk⟩
  · rw [file]
    refine ⟨fun otherId other => if otherId = attemptId then changed else other, ?_⟩
    apply Reworked.save
    constructor
    · intro otherId
      rw [Dict.get?_insert]
      by_cases same : otherId = attemptId
      · simp [same, found]
      · simp [same]
    · exact fun scope => rfl
    · intro otherId other present
      by_cases same : otherId = attemptId
      · rw [same, found] at present
        cases present
        simpa [same] using reworks rewritten
      · simpa [same] using Reworks.refl other

theorem expireRow_reworks (nowIso : String) (row : TaskAttempt) :
    Reworks row (expireRow nowIso row) := by
  refine ⟨rfl, rfl, rfl, rfl, rfl, rfl, rfl, rfl, ?_⟩
  intro active
  have expired : "expired" ∈ activeStatuses := active
  exact absurd expired (by decide)

theorem expire_reworked (env : Env) (disk : StoreData) (nowIso : String)
    (isExpired : String → Bool) :
    ∃ effect, Reworked disk (expire env nowIso isExpired disk).2 effect := by
  rcases expire_cases env nowIso isExpired disk with unchanged | file
  · rw [unchanged]
    exact ⟨_, .refl disk⟩
  · rw [file]
    refine ⟨fun _ row => if leaseLapsed isExpired row then expireRow nowIso row else row, ?_⟩
    apply Reworked.save
    constructor
    · exact fun attemptId => Dict.get?_mapValues _ _ _
    · exact fun scope => rfl
    · intro attemptId row present
      split
      · exact expireRow_reworks nowIso row
      · exact .refl row

/-- The ids of a dispatch do not contain the character that joins identities. -/
structure Dispatch.CleanIds (dispatch : Dispatch) : Prop where
  run : Clean dispatch.runId
  task : Clean dispatch.taskId

theorem dispatchIdentity_ok (admitted : dispatchIdentity env dispatch = .ok identity) :
    (identity.runId = "legacy" ∨ identity.runId = PyString.strip dispatch.runId) ∧
      identity.taskId = PyString.strip dispatch.taskId ∧
      identity.attemptKey = attemptKeyFor env identity.runId identity.taskId
        dispatch.operationId (keyRole dispatch.role dispatch.instanceId)
        identity.identityVersion := by
  unfold dispatchIdentity at admitted
  dsimp only at admitted
  split at admitted
  · cases admitted
  split at admitted
  · cases admitted
  split at admitted
  · cases admitted
  split at admitted
  · cases admitted
  obtain rfl := Except.ok.inj admitted
  dsimp only
  refine ⟨?_, rfl, rfl⟩
  split
  · exact Or.inl rfl
  · exact Or.inr rfl

theorem preparedAttempt_identified (clean : dispatch.CleanIds)
    (admitted : dispatchIdentity env dispatch = .ok identity) (position : Nat × Nat) :
    Identified env (preparedAttempt dispatch identity position) := by
  obtain ⟨runId, taskId, attemptKey⟩ := dispatchIdentity_ok admitted
  refine ⟨attemptKey, ?_, ?_⟩
  · change Clean identity.runId
    rcases runId with legacy | stripped
    · rw [legacy]
      decide
    · rw [stripped]
      exact clean.run.strip
  · change Clean identity.taskId
    rw [taskId]
    exact clean.task.strip

theorem supersede_not_active (attemptId updatedAt : String) (row : TaskAttempt) :
    ¬ (supersede attemptId updatedAt row).Active := by
  change "superseded" ∉ activeStatuses
  decide

theorem supersede_reworks (attemptId updatedAt : String) (row : TaskAttempt) :
    Reworks row (supersede attemptId updatedAt row) :=
  ⟨rfl, rfl, rfl, rfl, rfl, rfl, rfl, rfl,
    fun active => absurd active (supersede_not_active attemptId updatedAt row)⟩

/-- The effect of `supersedePrior` on one row. -/
def superseding (disk : StoreData) (scope operationId attemptId updatedAt : String)
    (rowId : String) (row : TaskAttempt) : TaskAttempt :=
  let priorId := (disk.current.get? scope).getD ""
  if rowId = priorId ∧ priorId ≠ attemptId ∧ replacesPrior operationId row then
    supersede attemptId updatedAt row
  else row

theorem superseding_reworks (disk : StoreData) (scope operationId attemptId updatedAt : String)
    (rowId : String) (row : TaskAttempt) :
    Reworks row (superseding disk scope operationId attemptId updatedAt rowId row) := by
  unfold superseding
  dsimp only
  split
  · exact supersede_reworks attemptId updatedAt row
  · exact .refl row

theorem supersedePrior_get? (disk : StoreData) (scope operationId attemptId updatedAt : String)
    (rowId : String) :
    (supersedePrior disk scope operationId attemptId updatedAt).1.get? rowId =
      (disk.attempts.get? rowId).map
        (superseding disk scope operationId attemptId updatedAt rowId) := by
  unfold supersedePrior superseding
  dsimp only
  cases prior : disk.attempts.get? ((disk.current.get? scope).getD "") with
  | none =>
      by_cases same : rowId = (disk.current.get? scope).getD ""
      · simp [same, prior]
      · simp [same]
  | some priorRow =>
      by_cases replaced : (disk.current.get? scope).getD "" ≠ attemptId ∧
          replacesPrior operationId priorRow
      · simp only [replaced, ne_eq, not_false_eq_true, and_self, if_true]
        rw [Dict.get?_insert]
        by_cases same : rowId = (disk.current.get? scope).getD ""
        · simp [same, prior, replaced]
        · simp [same]
      · simp only [replaced, if_false]
        by_cases same : rowId = (disk.current.get? scope).getD ""
        · simp only [same, prior, Option.map_some, true_and, replaced, if_false]
        · simp [same]

/-- After the current row gave way, its lane has no active row. -/
theorem Coherent.superseded_quiet (coherent : Coherent env disk) {attemptId : String}
    (fresh : disk.attempts.get? attemptId = none)
    (operationId updatedAt : String) {rowId : String}
    (found : disk.attempts.get? rowId = some row) (member : row.lane = lane) :
    ¬ (superseding disk lane.scope operationId attemptId updatedAt rowId row).Active := by
  intro active
  have wasActive := (superseding_reworks _ _ _ _ _ _ _).active active
  obtain ⟨current, pointer, currentFound, _, _, onlyActive⟩ := coherent.current found
  have same : row = current := onlyActive wasActive
  rw [← same, coherent.keyed found, member] at pointer
  have different : rowId ≠ attemptId := by
    intro hit
    rw [hit, fresh] at found
    cases found
  have replaced : superseding disk lane.scope operationId attemptId updatedAt rowId row =
      supersede attemptId updatedAt row := by
    simp [superseding, pointer, different, replacesPrior, wasActive]
  rw [replaced] at active
  exact supersede_not_active attemptId updatedAt row active

/-- Where the next attempt of a lane goes: first, into a new series after a
success, or behind the latest row of the running series. -/
theorem nextPosition_spec (disk : StoreData) (lane : Lane) :
    (operationRows disk lane = [] ∧ disk.nextPosition lane = (1, 1)) ∨
      ∃ latest ∈ operationRows disk lane,
        (∀ row ∈ operationRows disk lane, row.AtMost latest) ∧
        ((latest.status = "succeeded" ∧ disk.nextPosition lane = (latest.series + 1, 1)) ∨
          disk.nextPosition lane = (latest.series, latest.ordinal + 1)) := by
  cases found : latestOperation (operationRows disk lane) with
  | none =>
      left
      refine ⟨latestOperation_eq_none found, ?_⟩
      rw [StoreData.nextPosition, found]
      rfl
  | some latest =>
      right
      obtain ⟨member, greatest⟩ := latestOperation_spec found
      refine ⟨latest, member, greatest, ?_⟩
      by_cases succeeded : latest.status = "succeeded"
      · left
        simp [StoreData.nextPosition, found, nextPosition, succeeded]
      · right
        simp [StoreData.nextPosition, found, nextPosition, succeeded]

theorem nextPosition_above (member : row ∈ operationRows disk lane) :
    row.series < (disk.nextPosition lane).1 ∨
      (row.series = (disk.nextPosition lane).1 ∧ row.ordinal < (disk.nextPosition lane).2) := by
  rcases nextPosition_spec disk lane with ⟨none, _⟩ | ⟨latest, _, greatest, position⟩
  · rw [none] at member
    cases member
  · have atMost := greatest row member
    unfold TaskAttempt.AtMost at atMost
    rcases position with ⟨_, next⟩ | next
    · rw [next]
      dsimp only
      omega
    · rw [next]
      dsimp only
      omega

theorem nextPosition_positive (lane : Lane) (positive : ∀ rowId row,
      disk.attempts.get? rowId = some row → 1 ≤ row.series) :
    1 ≤ (disk.nextPosition lane).1 ∧ 1 ≤ (disk.nextPosition lane).2 := by
  rcases nextPosition_spec disk lane with ⟨_, next⟩ | ⟨latest, member, _, ⟨_, next⟩ | next⟩
  · rw [next]
    exact ⟨Nat.le_refl 1, Nat.le_refl 1⟩
  · rw [next]
    exact ⟨Nat.le_add_left 1 _, Nat.le_refl 1⟩
  · obtain ⟨⟨latestId, found⟩, _⟩ := (mem_operationRows_iff disk lane latest).mp member
    rw [next]
    exact ⟨positive latestId latest found, Nat.le_add_left 1 _⟩

theorem Coherent.create (lawful : env.Lawful)
    (coherent : Coherent env disk) (clean : dispatch.CleanIds)
    (creates : Creates env dispatch disk identity) :
    Coherent env (ensureForDispatch env dispatch disk).2 := by
  let lane := identity.lane
  let row := preparedAttempt dispatch identity (disk.nextPosition lane)
  let rewrite := superseding disk lane.scope dispatch.operationId identity.attemptId
    dispatch.createdAt
  let quieted : StoreData := { disk with
    attempts := (supersedePrior disk lane.scope dispatch.operationId identity.attemptId
      dispatch.createdAt).1 }
  have reworked : Reworked disk quieted rewrite :=
    ⟨fun rowId => supersedePrior_get? _ _ _ _ _ rowId, fun _ => rfl,
      fun _ => superseding_reworks _ _ _ _ _ _ _⟩
  rw [creates.file]
  apply Coherent.save
  have quietedCoherent : Coherent env quieted := coherent.rework reworked
  apply quietedCoherent.extend lawful row
  · rw [reworked.attempts, show row.attemptId = identity.attemptId from rfl, creates.fresh]
    rfl
  · exact preparedAttempt_identified clean creates.admitted _
  · exact nextPosition_positive lane fun _ _ found => (coherent.positive found).1
  · exact fun rowId => Dict.get?_insert _ _ _ _
  · exact fun scope => Dict.get?_insert _ _ _ _
  · intro rowId other found sameLane
    obtain ⟨old, present, rfl⟩ := reworked.origin found
    rw [(superseding_reworks _ _ _ _ _ _ _).lane] at sameLane
    exact coherent.superseded_quiet creates.fresh _ _ present sameLane
  · intro rowId other found sameLane
    obtain ⟨old, present, rfl⟩ := reworked.origin found
    have reworks : Reworks old (rewrite rowId old) := superseding_reworks _ _ _ _ _ _ _
    rw [reworks.lane] at sameLane
    rw [reworks.series, reworks.ordinal]
    exact nextPosition_above ((mem_operationRows_iff disk lane old).mpr ⟨⟨rowId, present⟩, sameLane⟩)
  · intro later
    change 1 < (disk.nextPosition lane).2 at later
    change ∃ previousId previous, quieted.attempts.get? previousId = some previous ∧
      previous.lane = lane ∧ previous.series = (disk.nextPosition lane).1 ∧
      previous.ordinal + 1 = (disk.nextPosition lane).2
    rcases nextPosition_spec disk lane with ⟨_, next⟩ | ⟨latest, member, _, ⟨_, next⟩ | next⟩
    · rw [next] at later
      exact absurd later (Nat.lt_irrefl 1)
    · rw [next] at later
      exact absurd later (Nat.lt_irrefl 1)
    · obtain ⟨⟨latestId, found⟩, sameLane⟩ := (mem_operationRows_iff disk lane latest).mp member
      have reworks : Reworks latest (rewrite latestId latest) := superseding_reworks _ _ _ _ _ _ _
      refine ⟨latestId, rewrite latestId latest, ?_, ?_, ?_, ?_⟩
      · exact reworked.image found
      · rw [reworks.lane, sameLane]
      · rw [reworks.series, next]
      · rw [reworks.ordinal, next]

/-- The operations of a run: ids are clean and `update` does not revive a row. -/
def Operation.Admissible : Operation → Prop
  | .ensureForDispatch dispatch => dispatch.CleanIds
  | .update _ settlement => settlement.status ∉ activeStatuses
  | _ => True

/-- What one admissible call does: it reworks rows in place or creates one row. -/
theorem step_cases (env : Env) (disk : StoreData) (admissible : operation.Admissible) :
    (∃ effect, Reworked disk (step env disk operation) effect) ∨
      ∃ dispatch identity, operation = .ensureForDispatch dispatch ∧
        Creates env dispatch disk identity := by
  cases operation with
  | ensureForDispatch dispatch =>
      rcases ensureForDispatch_cases env dispatch disk with ⟨unchanged, _⟩ | ⟨identity, creates⟩
      · left
        rw [step, unchanged]
        exact ⟨_, .refl disk⟩
      · exact Or.inr ⟨dispatch, identity, rfl, creates⟩
  | claimDelivery attemptId updatedAt =>
      left
      apply rewriteAttempt_reworked env disk attemptId
      intro row changed rewritten
      split at rewritten
      · cases rewritten
      · rename_i prepared
        cases rewritten
        refine ⟨rfl, rfl, rfl, rfl, rfl, rfl, rfl, rfl, fun _ => ?_⟩
        rw [TaskAttempt.Active, not_not.mp prepared]
        decide
  | markSent attemptId updatedAt =>
      left
      apply rewriteAttempt_reworked env disk attemptId
      intro row changed rewritten
      split at rewritten
      · cases rewritten
      · rename_i delivered
        cases rewritten
        refine ⟨rfl, rfl, rfl, rfl, rfl, rfl, rfl, rfl, fun _ => ?_⟩
        exact List.mem_cons_of_mem _ (not_not.mp delivered)
  | renewLease attemptId updatedAt leaseExpiresAt =>
      left
      apply rewriteAttempt_reworked env disk attemptId
      intro row changed rewritten
      split at rewritten
      · cases rewritten
      · rename_i active
        cases rewritten
        exact ⟨rfl, rfl, rfl, rfl, rfl, rfl, rfl, rfl, fun _ => not_not.mp active⟩
  | update attemptId settlement =>
      left
      apply rewriteAttempt_reworked env disk attemptId
      intro row changed rewritten
      cases rewritten
      exact ⟨rfl, rfl, rfl, rfl, rfl, rfl, rfl, rfl, fun active => absurd active admissible⟩
  | expire nowIso isExpired =>
      left
      exact expire_reworked env disk nowIso isExpired

theorem step_coherent (lawful : env.Lawful)
    (coherent : Coherent env disk) (admissible : operation.Admissible) :
    Coherent env (step env disk operation) := by
  rcases step_cases env disk admissible with
    ⟨effect, reworked⟩ | ⟨dispatch, identity, rfl, creates⟩
  · exact coherent.rework reworked
  · exact coherent.create lawful admissible creates

/-- Every run of admissible operations ends in a coherent store. -/
theorem run_coherent (lawful : env.Lawful) {operations : List Operation}
    (admissible : ∀ operation ∈ operations, operation.Admissible) :
    Coherent env (Runs.run (step env) StoreData.empty operations) := by
  have along : Runs.Along (step env) (fun _ operation => operation.Admissible)
      StoreData.empty operations := Runs.along_of_forall_mem admissible _
  exact along.invariant (Coherent env)
    (fun _ _ coherent admitted => step_coherent lawful coherent admitted) (coherent_empty env)

/-- No stored ordinal exceeds the budget. -/
def WithinBudget (budget : Nat) (data : StoreData) : Prop :=
  ∀ attemptId row, data.attempts.get? attemptId = some row → row.ordinal ≤ budget

theorem withinBudget_empty (budget : Nat) : WithinBudget budget StoreData.empty := by
  intro attemptId row found
  cases found

def Operation.UsesBudget (budget : Nat) : Operation → Prop
  | .ensureForDispatch dispatch => dispatch.maxAttempts = budget
  | _ => True

theorem step_withinBudget {budget : Nat} (positive : 0 < budget) (within : WithinBudget budget disk)
    (admissible : operation.Admissible) (uses : operation.UsesBudget budget) :
    WithinBudget budget (step env disk operation) := by
  rcases step_cases env disk admissible with
    ⟨effect, reworked⟩ | ⟨dispatch, identity, rfl, creates⟩
  · intro attemptId row found
    obtain ⟨old, present, rfl⟩ := reworked.origin found
    rw [(reworked.reworks present).ordinal]
    exact within attemptId old present
  · rw [step, creates.file]
    intro attemptId row found
    simp only [saveUnlocked, Dict.get?_sortKeys, Dict.get?_insert] at found
    split at found
    · cases found
      have inside := creates.withinBudget
      rw [show dispatch.maxAttempts = (budget : Int) from uses] at inside
      change (disk.nextPosition identity.lane).2 ≤ budget
      omega
    · rw [supersedePrior_get?, Option.map_eq_some_iff] at found
      obtain ⟨old, present, rfl⟩ := found
      rw [(superseding_reworks _ _ _ _ _ _ _).ordinal]
      exact within attemptId old present

theorem run_withinBudget {budget : Nat} (positive : 0 < budget) {operations : List Operation}
    (admissible : ∀ operation ∈ operations, operation.Admissible)
    (uses : ∀ operation ∈ operations, operation.UsesBudget budget) :
    WithinBudget budget (Runs.run (step env) StoreData.empty operations) := by
  have along : Runs.Along (step env)
      (fun _ operation => operation.Admissible ∧ operation.UsesBudget budget)
      StoreData.empty operations :=
    Runs.along_of_forall_mem
      (fun operation member => ⟨admissible operation member, uses operation member⟩) _
  exact along.invariant (WithinBudget budget)
    (fun _ _ within admitted => step_withinBudget positive within admitted.1 admitted.2)
    (withinBudget_empty budget)

/-- What holds of the rows of one lane. -/
structure LaneLaws (data : StoreData) (lane : Lane) : Prop where
  oneActive : ∀ first ∈ operationRows data lane, ∀ second ∈ operationRows data lane,
    first.Active → second.Active → first = second
  activeCurrent : ∀ row ∈ operationRows data lane, row.Active →
    data.current.get? lane.scope = some row.attemptId
  currentLatest : operationRows data lane ≠ [] → ∃ current ∈ operationRows data lane,
    data.current.get? lane.scope = some current.attemptId ∧
    ∀ row ∈ operationRows data lane, row.AtMost current
  positionsUnique :
    ((operationRows data lane).map fun row => (row.series, row.ordinal)).Nodup
  seriesNumbered : ∀ series, ∃ count,
    (((operationRows data lane).filter fun row => decide (row.series = series)).map
      TaskAttempt.ordinal).Perm (List.range' 1 count)

theorem Coherent.current_of_mem (coherent : Coherent env data)
    (member : row ∈ operationRows data lane) :
    ∃ current ∈ operationRows data lane,
      data.current.get? lane.scope = some current.attemptId ∧ row.AtMost current ∧
        (row.Active → row = current) := by
  obtain ⟨⟨attemptId, found⟩, rfl⟩ := (mem_operationRows_iff data lane row).mp member
  obtain ⟨current, pointer, currentFound, sameLane, atMost, active⟩ := coherent.current found
  refine ⟨current, ?_, pointer, atMost, active⟩
  exact (mem_operationRows_iff data row.lane current).mpr ⟨⟨_, currentFound⟩, sameLane⟩

/-- One lane has one current row. -/
theorem Coherent.current_unique (coherent : Coherent env data) {first second : TaskAttempt}
    (firstMember : first ∈ operationRows data lane)
    (secondMember : second ∈ operationRows data lane)
    (same : first.attemptId = second.attemptId) : first = second := by
  obtain ⟨⟨firstId, firstFound⟩, _⟩ := (mem_operationRows_iff data lane first).mp firstMember
  obtain ⟨⟨secondId, secondFound⟩, _⟩ := (mem_operationRows_iff data lane second).mp secondMember
  rw [coherent.keyed firstFound, coherent.keyed secondFound] at same
  rw [same, secondFound] at firstFound
  exact (Option.some.inj firstFound).symm

theorem Coherent.positionsUnique (coherent : Coherent env data) (lane : Lane) :
    ((operationRows data lane).map fun row => (row.series, row.ordinal)).Nodup := by
  apply List.Nodup.map_on _ (operationRows_nodup lane coherent.keyed)
  intro first firstMember second secondMember same
  obtain ⟨⟨firstId, firstFound⟩, firstLane⟩ :=
    (mem_operationRows_iff data lane first).mp firstMember
  obtain ⟨⟨secondId, secondFound⟩, secondLane⟩ :=
    (mem_operationRows_iff data lane second).mp secondMember
  rw [Prod.mk.injEq] at same
  exact coherent.distinct firstFound secondFound (firstLane.trans secondLane.symm) same.1 same.2

theorem Coherent.seriesNumbered (coherent : Coherent env data) (lane : Lane) (series : Nat) :
    ∃ count, (((operationRows data lane).filter fun row => decide (row.series = series)).map
      TaskAttempt.ordinal).Perm (List.range' 1 count) := by
  refine ⟨_, Lists.perm_range'_of_downClosed ?distinct ?positive ?closed⟩
  case distinct =>
    apply List.Nodup.map_on _ ((operationRows_nodup lane coherent.keyed).filter _)
    intro first firstMember second secondMember same
    simp only [List.mem_filter, decide_eq_true_eq] at firstMember secondMember
    apply List.inj_on_of_nodup_map (coherent.positionsUnique lane)
      firstMember.1 secondMember.1
    rw [firstMember.2, secondMember.2, same]
  case positive =>
    intro ordinal member
    simp only [List.mem_map, List.mem_filter, mem_operationRows_iff] at member
    obtain ⟨row, ⟨⟨⟨attemptId, found⟩, _⟩, _⟩, rfl⟩ := member
    exact (coherent.positive found).2
  case closed =>
    intro ordinal member later
    simp only [List.mem_map, List.mem_filter, mem_operationRows_iff, decide_eq_true_eq]
      at member ⊢
    obtain ⟨row, ⟨⟨⟨attemptId, found⟩, sameLane⟩, sameSeries⟩, rfl⟩ := member
    obtain ⟨previousId, previous, previousFound, previousLane, previousSeries, next⟩ :=
      coherent.filled found later
    refine ⟨previous, ⟨⟨⟨previousId, previousFound⟩, ?_⟩, ?_⟩, by omega⟩
    · exact previousLane.trans sameLane
    · exact previousSeries.trans sameSeries

theorem Coherent.laneLaws (coherent : Coherent env data) (lane : Lane) : LaneLaws data lane where
  oneActive := by
    intro first firstMember second secondMember firstActive secondActive
    obtain ⟨current, currentMember, pointer, _, isCurrent⟩ := coherent.current_of_mem firstMember
    obtain ⟨other, otherMember, otherPointer, _, isOther⟩ := coherent.current_of_mem secondMember
    rw [isCurrent firstActive, isOther secondActive]
    apply coherent.current_unique currentMember otherMember
    rw [pointer] at otherPointer
    exact Option.some.inj otherPointer
  activeCurrent := by
    intro row member active
    obtain ⟨current, _, pointer, _, isCurrent⟩ := coherent.current_of_mem member
    rw [isCurrent active, pointer]
  currentLatest := by
    intro nonempty
    obtain ⟨present, presentMember⟩ := List.exists_mem_of_ne_nil _ nonempty
    obtain ⟨current, currentMember, pointer, _, _⟩ := coherent.current_of_mem presentMember
    refine ⟨current, currentMember, pointer, ?_⟩
    intro row member
    obtain ⟨other, otherMember, otherPointer, atMost, _⟩ := coherent.current_of_mem member
    rw [pointer] at otherPointer
    have same := coherent.current_unique currentMember otherMember (Option.some.inj otherPointer)
    rw [same]
    exact atMost
  positionsUnique := coherent.positionsUnique lane
  seriesNumbered := coherent.seriesNumbered lane

/-- A created attempt that no row of its lane shares a series with either opens
the lane or follows a succeeded last row of the series before. -/
def StartsSeriesAfterSuccess (env : Env) (disk : StoreData) (dispatch : Dispatch) : Prop :=
  ∀ result, (ensureForDispatch env dispatch disk).1 = .ok result → result.created = true →
    (∀ row ∈ operationRows disk result.attempt.lane, row.series ≠ result.attempt.series) →
    (operationRows disk result.attempt.lane = [] ∧ result.attempt.series = 1) ∨
      ∃ last ∈ operationRows disk result.attempt.lane,
        last.series + 1 = result.attempt.series ∧ last.status = "succeeded" ∧
        ∀ row ∈ operationRows disk result.attempt.lane,
          row.series = last.series → row.ordinal ≤ last.ordinal

theorem startsSeriesAfterSuccess (env : Env) (disk : StoreData) (dispatch : Dispatch) :
    StartsSeriesAfterSuccess env disk dispatch := by
  intro result returned created fresh
  rcases ensureForDispatch_cases env dispatch disk with ⟨_, notCreated⟩ | ⟨identity, creates⟩
  · rw [notCreated result returned] at created
    cases created
  · rw [creates.outcome] at returned
    cases returned
    change (∀ row ∈ operationRows disk identity.lane,
      row.series ≠ (disk.nextPosition identity.lane).1) at fresh
    change (operationRows disk identity.lane = [] ∧ (disk.nextPosition identity.lane).1 = 1) ∨
      ∃ last ∈ operationRows disk identity.lane,
        last.series + 1 = (disk.nextPosition identity.lane).1 ∧ last.status = "succeeded" ∧
        ∀ row ∈ operationRows disk identity.lane,
          row.series = last.series → row.ordinal ≤ last.ordinal
    rcases nextPosition_spec disk identity.lane with
      ⟨none, next⟩ | ⟨latest, member, greatest, ⟨succeeded, next⟩ | next⟩
    · left
      exact ⟨none, by rw [next]⟩
    · right
      refine ⟨latest, member, by rw [next], succeeded, ?_⟩
      intro row rowMember sameSeries
      have atMost := greatest row rowMember
      unfold TaskAttempt.AtMost at atMost
      omega
    · have running := fresh latest member
      rw [next] at running
      exact absurd rfl running

/-- A numbered series whose ordinals stay within the budget has at most that many rows. -/
theorem LaneLaws.seriesBound (laws : LaneLaws data lane)
    {budget : Nat} (within : WithinBudget budget data) (series : Nat) :
    ((operationRows data lane).filter fun row => decide (row.series = series)).length ≤
      budget := by
  obtain ⟨count, numbered⟩ := laws.seriesNumbered series
  have total := numbered.length_eq
  rw [List.length_map, List.length_range'] at total
  rw [total]
  cases count with
  | zero => exact Nat.zero_le budget
  | succ count =>
      have top : count + 1 ∈ List.range' 1 (count + 1) := by
        rw [List.mem_range'_1]
        omega
      have member := numbered.mem_iff.mpr top
      simp only [List.mem_map, List.mem_filter, mem_operationRows_iff] at member
      obtain ⟨row, ⟨⟨⟨attemptId, found⟩, _⟩, _⟩, ordinal⟩ := member
      rw [← ordinal]
      exact within attemptId row found

/-- Every run of the store keeps the laws of every lane, opens a series only
after a success, respects a shared budget and survives an exhausted one. -/
theorem run_laneLaws {env : Env} (lawful : env.Lawful) {operations : List Operation}
    (admissible : ∀ operation ∈ operations, operation.Admissible) :
    let store := Runs.run (step env) StoreData.empty operations
    (∀ lane, LaneLaws store lane) ∧
      (∀ dispatch, StartsSeriesAfterSuccess env store dispatch) ∧
      (∀ budget, 0 < budget → (∀ operation ∈ operations, operation.UsesBudget budget) →
        ∀ lane series, ((operationRows store lane).filter fun row =>
          decide (row.series = series)).length ≤ budget) ∧
      (∀ dispatch message,
        (ensureForDispatch env dispatch store).1 = .error (.limit message) →
        (ensureForDispatch env dispatch store).2 = store) := by
  intro store
  have coherent : Coherent env store := run_coherent lawful admissible
  refine ⟨coherent.laneLaws, startsSeriesAfterSuccess env store, ?_, ?_⟩
  · intro budget positive uses lane series
    exact (coherent.laneLaws lane).seriesBound (run_withinBudget positive admissible uses) series
  · intro dispatch message raised
    exact ensureForDispatch_limit_unchanged raised

/-- Digests of the identities that two dispatches of one operation give rise to. -/
def retryDigests : List (String × String) :=
  [("R1|T1|op-1|dev", "04b737a1cb30c731771e"),
    ("R1|T1|d1", "c1eb1a4ba08a7c737f79"),
    ("R1|T1|d2", "99f586d4313a7c043b0c"),
    ("lease|ta-c1eb1a4ba08a7c737f79", "179e6f239ca09743effe"),
    ("lease|ta-99f586d4313a7c043b0c", "cd1f42a30b68282c936f")]

theorem retryDigests_table : Digest.Table retryDigests :=
  ⟨by decide, by decide, by decide⟩

def retryEnv : Env where
  digest := Digest.tableDigest retryDigests
  path := "task_attempts.json"

theorem retryEnv_lawful : retryEnv.Lawful :=
  ⟨Digest.tableDigest_injective retryDigests_table,
    Digest.colon_notMem_tableDigest retryDigests_table⟩

def retryDispatch (dispatchId : String) : Dispatch where
  runId := "R1"
  taskId := "T1"
  dispatchId := dispatchId
  role := "dev"
  instanceId := "dev-1"
  operationId := "op-1"
  maxAttempts := 2

/-- A first attempt is delivered and fails, and the operation is dispatched again. -/
def retryRun : List Operation :=
  [.ensureForDispatch (retryDispatch "d1"),
    .claimDelivery "ta-c1eb1a4ba08a7c737f79" "t1",
    .markSent "ta-c1eb1a4ba08a7c737f79" "t2",
    .update "ta-c1eb1a4ba08a7c737f79" { status := "failed", updatedAt := "t3" },
    .ensureForDispatch (retryDispatch "d2")]

theorem retryRun_admissible : ∀ operation ∈ retryRun, operation.Admissible := by
  simp only [retryRun, List.forall_mem_cons, List.not_mem_nil, false_implies, implies_true,
    and_true]
  have settled : "failed" ∉ activeStatuses := by decide
  exact ⟨⟨by decide, by decide⟩, trivial, trivial, settled, by decide, by decide⟩

theorem retryRun_laneLaws :
    (∀ lane, LaneLaws (Runs.run (step retryEnv) StoreData.empty retryRun) lane) ∧
      (operationRows (Runs.run (step retryEnv) StoreData.empty retryRun)
        ⟨"R1", "T1", "tak-04b737a1cb30c731771e"⟩).map (fun row => (row.ordinal, row.status)) =
        [(2, "prepared"), (1, "superseded")] :=
  ⟨(run_laneLaws retryEnv_lawful retryRun_admissible).1, by decide +kernel⟩

end ZaofuFormal.State.TaskAttempts
