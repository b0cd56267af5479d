import ZaofuFormal.State.TaskAttemptRuns

/-!
# Reading the TaskAttempt store back

Every operation validates the whole file when it loads it, and the writers check
less than the loader: `ensure_for_dispatch` takes a blank operation id and
`update` takes any status.  A run of calls that return leaves a file that loads
exactly when none of its calls did one of the two.
-/

namespace ZaofuFormal.State.TaskAttempts

open Foundation

/-- The next load returns. -/
def Readable (env : Env) (disk : StoreData) : Prop :=
  ∃ data, loadUnlocked env disk = .ok data

def TaskAttempt.version (row : TaskAttempt) : String :=
  if row.identityVersion = "" then identityRoleV1 else row.identityVersion

/-- The conditions under which `attemptRowError` has no complaint. -/
structure RowValid (env : Env) (attemptId : String) (row : TaskAttempt) : Prop where
  filled : ∀ field ∈ requiredFields row, PyString.isBlank field.2 = false
  schema : row.schemaVersion = attemptSchemaVersion
  keyed : row.attemptId = attemptId
  known : row.version ∈ attemptIdentityVersions
  derived : row.attemptKey = attemptKeyFor env row.runId row.taskId row.operationId
    (keyRole row.role row.instanceId) row.version
  status : row.status ∈ attemptStatuses
  positive : 1 ≤ row.ordinal ∧ 1 ≤ row.series
  placed : 0 ≤ row.placementEpoch
  epoch : row.version = identityOperationV2 → 1 ≤ row.placementEpoch

theorem attemptRowError_eq_empty_iff (env : Env) (attemptId : String) (row : TaskAttempt) :
    attemptRowError env attemptId row = "" ↔ RowValid env attemptId row := by
  have filled : ((requiredFields row).filter fun field =>
      PyString.isBlank field.2).map Prod.fst = [] ↔
        ∀ field ∈ requiredFields row, PyString.isBlank field.2 = false := by
    rw [List.map_eq_nil_iff, List.filter_eq_nil_iff]
    simp only [Bool.not_eq_true]
  unfold attemptRowError
  simp only
  rw [show (if row.identityVersion = "" then identityRoleV1 else row.identityVersion) =
    row.version from rfl]
  constructor
  · intro empty
    by_cases missing : ((requiredFields row).filter fun field =>
        PyString.isBlank field.2).map Prod.fst ≠ []
    · rw [if_pos missing] at empty
      simp at empty
    rw [if_neg missing] at empty
    by_cases schema : row.schemaVersion ≠ attemptSchemaVersion
    · rw [if_pos schema] at empty
      simp at empty
    rw [if_neg schema] at empty
    by_cases keyed : row.attemptId ≠ attemptId
    · rw [if_pos keyed] at empty
      simp at empty
    rw [if_neg keyed] at empty
    by_cases known : row.version ∉ attemptIdentityVersions
    · rw [if_pos known] at empty
      simp at empty
    rw [if_neg known] at empty
    by_cases derived : row.attemptKey ≠ attemptKeyFor env row.runId row.taskId row.operationId
        (keyRole row.role row.instanceId) row.version
    · rw [if_pos derived] at empty
      simp at empty
    rw [if_neg derived] at empty
    by_cases status : row.status ∉ attemptStatuses
    · rw [if_pos status] at empty
      simp at empty
    rw [if_neg status] at empty
    by_cases positive : row.ordinal < 1 ∨ row.series < 1
    · rw [if_pos positive] at empty
      simp at empty
    rw [if_neg positive] at empty
    by_cases placed : row.placementEpoch < 0
    · rw [if_pos placed] at empty
      simp at empty
    rw [if_neg placed] at empty
    by_cases epoch : row.version = identityOperationV2 ∧ row.placementEpoch < 1
    · rw [if_pos epoch] at empty
      simp at empty
    exact ⟨filled.mp (not_not.mp missing), not_not.mp schema, not_not.mp keyed, not_not.mp known,
      not_not.mp derived, not_not.mp status, by omega, by omega, fun second => by
        have := not_and.mp epoch second
        omega⟩
  · intro valid
    rw [if_neg (not_not.mpr (filled.mpr valid.filled)), if_neg (not_not.mpr valid.schema),
      if_neg (not_not.mpr valid.keyed), if_neg (not_not.mpr valid.known),
      if_neg (not_not.mpr valid.derived), if_neg (not_not.mpr valid.status),
      if_neg (by have := valid.positive; omega), if_neg (by have := valid.placed; omega),
      if_neg fun both => by have := valid.epoch both.1; omega]

/-- The file holds valid rows, and every pointer leads to a row of its lane. -/
structure FileValid (env : Env) (disk : StoreData) : Prop where
  schema : disk.schemaVersion = "" ∨ disk.schemaVersion = storeSchemaVersion
  rows : ∀ attemptId row, disk.attempts.get? attemptId = some row → RowValid env attemptId row
  pointers : ∀ scope attemptId, disk.current.get? scope = some attemptId →
    ∃ row, disk.attempts.get? attemptId = some row ∧ scope = row.lane.scope

theorem rowReasons_eq_nil_iff (env : Env) (disk : StoreData) :
    rowReasons env disk = [] ↔
      ∀ attemptId row, disk.attempts.get? attemptId = some row → RowValid env attemptId row := by
  rw [rowReasons, List.filter_eq_nil_iff]
  simp only [List.mem_map, decide_eq_true_eq, not_not, forall_exists_index, and_imp,
    forall_apply_eq_imp_iff₂]
  constructor
  · intro quiet attemptId row found
    exact (attemptRowError_eq_empty_iff env attemptId row).mp
      (quiet (attemptId, row) ((disk.attempts.get?_eq_some_iff attemptId row).mp found))
  · intro valid entry member
    exact (attemptRowError_eq_empty_iff env entry.1 entry.2).mpr
      (valid _ _ ((disk.attempts.get?_eq_some_iff entry.1 entry.2).mpr member))

theorem pointers_iff (disk : StoreData) :
    (danglingScopes disk = [] ∧ mismatchedScopes disk = []) ↔
      ∀ scope attemptId, disk.current.get? scope = some attemptId →
        ∃ row, disk.attempts.get? attemptId = some row ∧ scope = row.lane.scope := by
  rw [danglingScopes, mismatchedScopes, List.map_eq_nil_iff, List.map_eq_nil_iff,
    List.filter_eq_nil_iff, List.filter_eq_nil_iff]
  constructor
  · rintro ⟨attached, matched⟩ scope attemptId pointer
    have member := (disk.current.get?_eq_some_iff scope attemptId).mp pointer
    have held := attached (scope, attemptId) member
    have same := matched (scope, attemptId) member
    cases found : disk.attempts.get? attemptId with
    | none => simp [Dict.contains, found] at held
    | some row =>
        simp only [found, Bool.not_eq_true', decide_eq_false_iff_not, not_not] at same
        exact ⟨row, rfl, same⟩
  · intro valid
    constructor
    · intro entry member
      obtain ⟨row, found, _⟩ :=
        valid _ _ ((disk.current.get?_eq_some_iff entry.1 entry.2).mpr member)
      simp [Dict.contains, found]
    · intro entry member
      obtain ⟨row, found, same⟩ :=
        valid _ _ ((disk.current.get?_eq_some_iff entry.1 entry.2).mpr member)
      simp [found, same]

theorem readable_iff (env : Env) (disk : StoreData) : Readable env disk ↔ FileValid env disk := by
  unfold Readable loadUnlocked
  by_cases foreign : disk.schemaVersion ≠ "" ∧ disk.schemaVersion ≠ storeSchemaVersion
  · rw [if_pos foreign]
    refine iff_of_false (fun ⟨data, loaded⟩ => by cases loaded) fun valid => ?_
    exact valid.schema.elim foreign.1 foreign.2
  · rw [if_neg foreign]
    have schema : disk.schemaVersion = "" ∨ disk.schemaVersion = storeSchemaVersion := by
      by_contra neither
      exact foreign (not_or.mp neither)
    cases reasons : rowReasons env disk with
    | cons reason rest =>
        refine iff_of_false (fun ⟨data, loaded⟩ => by cases loaded) fun valid => ?_
        have quiet := (rowReasons_eq_nil_iff env disk).mpr valid.rows
        rw [reasons] at quiet
        cases quiet
    | nil =>
        have rows := (rowReasons_eq_nil_iff env disk).mp reasons
        cases dangling : danglingScopes disk with
        | cons scope rest =>
            refine iff_of_false (fun ⟨data, loaded⟩ => by cases loaded) fun valid => ?_
            have attached := ((pointers_iff disk).mpr valid.pointers).1
            rw [dangling] at attached
            cases attached
        | nil =>
            cases mismatched : mismatchedScopes disk with
            | cons scope rest =>
                refine iff_of_false (fun ⟨data, loaded⟩ => by cases loaded) fun valid => ?_
                have matched := ((pointers_iff disk).mpr valid.pointers).2
                rw [mismatched] at matched
                cases matched
            | nil =>
                exact iff_of_true ⟨_, rfl⟩
                  ⟨schema, rows, (pointers_iff disk).mp ⟨dangling, mismatched⟩⟩

theorem status_filled {status : String} (known : status ∈ attemptStatuses) :
    PyString.isBlank status = false := by
  have all : ∀ status ∈ attemptStatuses, PyString.isBlank status = false := by decide +kernel
  exact all status known

/-- A changed row that agrees with the old one on all that the loader checks, but
for the status. -/
structure SameChecks (row changed : TaskAttempt) : Prop where
  schema : changed.schemaVersion = row.schemaVersion
  attemptId : changed.attemptId = row.attemptId
  leaseId : changed.leaseId = row.leaseId
  runId : changed.runId = row.runId
  taskId : changed.taskId = row.taskId
  operationId : changed.operationId = row.operationId
  attemptKey : changed.attemptKey = row.attemptKey
  identityVersion : changed.identityVersion = row.identityVersion
  dispatchId : changed.dispatchId = row.dispatchId
  role : changed.role = row.role
  instanceId : changed.instanceId = row.instanceId
  placementEpoch : changed.placementEpoch = row.placementEpoch
  ordinal : changed.ordinal = row.ordinal
  series : changed.series = row.series

theorem SameChecks.refl (row : TaskAttempt) : SameChecks row row :=
  ⟨rfl, rfl, rfl, rfl, rfl, rfl, rfl, rfl, rfl, rfl, rfl, rfl, rfl, rfl⟩

variable {row : TaskAttempt} {env : Env} {disk : StoreData}
  {rewrite : TaskAttempt → Option TaskAttempt} {dispatch : Dispatch} {identity : DispatchIdentity}

theorem SameChecks.lane_eq {changed : TaskAttempt} (same : SameChecks row changed) :
    changed.lane = row.lane := by
  rw [TaskAttempt.lane, TaskAttempt.lane, same.runId, same.taskId, same.attemptKey]

theorem RowValid.changed {attemptId : String} {changed : TaskAttempt}
    (valid : RowValid env attemptId row) (same : SameChecks row changed)
    (known : changed.status ∈ attemptStatuses) : RowValid env attemptId changed := by
  have version : changed.version = row.version := by
    rw [TaskAttempt.version, TaskAttempt.version, same.identityVersion]
  constructor
  case filled =>
    intro field member
    have rows : requiredFields changed =
        (requiredFields row).dropLast ++ [("status", changed.status)] := by
      simp only [requiredFields, same.attemptId, same.leaseId, same.runId, same.taskId,
        same.operationId, same.attemptKey, same.dispatchId]
      rfl
    rw [rows, List.mem_append, List.mem_singleton] at member
    rcases member with old | rfl
    · exact valid.filled field (List.dropLast_sublist _ |>.subset old)
    · exact status_filled known
  case schema => exact same.schema.trans valid.schema
  case keyed => exact same.attemptId.trans valid.keyed
  case known => exact version ▸ valid.known
  case derived =>
    rw [same.attemptKey, same.runId, same.taskId, same.operationId, same.role, same.instanceId,
      version]
    exact valid.derived
  case status => exact known
  case positive =>
    rw [same.ordinal, same.series]
    exact valid.positive
  case placed => exact same.placementEpoch ▸ valid.placed
  case epoch =>
    rw [version, same.placementEpoch]
    exact valid.epoch

/-- A saved file is valid when its rows and its pointers are. -/
theorem fileValid_save_iff (env : Env) (data : StoreData) :
    FileValid env (saveUnlocked data) ↔
      (∀ attemptId row, data.attempts.get? attemptId = some row → RowValid env attemptId row) ∧
      ∀ scope attemptId, data.current.get? scope = some attemptId →
        ∃ row, data.attempts.get? attemptId = some row ∧ scope = row.lane.scope := by
  constructor
  · intro valid
    have rows := valid.rows
    have pointers := valid.pointers
    simp only [saveUnlocked, Dict.get?_sortKeys] at rows pointers
    exact ⟨rows, pointers⟩
  · rintro ⟨rows, pointers⟩
    refine ⟨.inr rfl, ?_, ?_⟩
    · simpa only [saveUnlocked, Dict.get?_sortKeys] using rows
    · simpa only [saveUnlocked, Dict.get?_sortKeys] using pointers

/-- Rows that are changed in place keep the file valid when their statuses are known. -/
theorem FileValid.reworked (valid : FileValid env disk)
    {attempts : Dict String TaskAttempt} (change : String → TaskAttempt → TaskAttempt)
    (changed : ∀ attemptId, attempts.get? attemptId =
      (disk.attempts.get? attemptId).map (change attemptId))
    (same : ∀ attemptId row, disk.attempts.get? attemptId = some row →
      SameChecks row (change attemptId row))
    (known : ∀ attemptId row, disk.attempts.get? attemptId = some row →
      (change attemptId row).status ∈ attemptStatuses)
    (schemaVersion : String) :
    FileValid env (saveUnlocked { disk with
      schemaVersion := schemaVersion
      attempts := attempts }) := by
  rw [fileValid_save_iff]
  constructor
  · intro attemptId row found
    change attempts.get? attemptId = some row at found
    rw [changed] at found
    obtain ⟨old, held, rfl⟩ := Option.map_eq_some_iff.mp found
    exact (valid.rows attemptId old held).changed (same attemptId old held)
      (known attemptId old held)
  · intro scope attemptId pointer
    obtain ⟨old, held, lane⟩ := valid.pointers scope attemptId pointer
    refine ⟨change attemptId old, ?_, ?_⟩
    · change attempts.get? attemptId = _
      rw [changed, held, Option.map_some]
    · rw [(same attemptId old held).lane_eq]
      exact lane

theorem Readable.load (readable : Readable env disk) :
    loadUnlocked env disk = .ok { disk with schemaVersion := storeSchemaVersion } := by
  obtain ⟨data, loaded⟩ := readable
  rw [loaded, loadUnlocked_ok loaded]

theorem rewriteAttempt_file (readable : Readable env disk)
    (attemptId : String) (rewrite : TaskAttempt → Option TaskAttempt) :
    (rewriteAttempt env attemptId rewrite disk).2 =
      match (disk.attempts.get? attemptId).bind rewrite with
      | none => disk
      | some changed => saveUnlocked { disk with
          schemaVersion := storeSchemaVersion
          attempts := disk.attempts.insert attemptId changed } := by
  unfold rewriteAttempt
  rw [readable.load]
  simp only
  cases disk.attempts.get? attemptId with
  | none => rfl
  | some row =>
      simp only [Option.bind_some]
      cases rewrite row with
      | none => rfl
      | some changed => rfl

/-- A rewritten row with the checked fields of the old one is accepted when its
status is known. -/
theorem readable_rewrite_iff (readable : Readable env disk) (attemptId : String)
    (same : ∀ row changed, rewrite row = some changed → SameChecks row changed) :
    Readable env (rewriteAttempt env attemptId rewrite disk).2 ↔
      ∀ row changed, disk.attempts.get? attemptId = some row → rewrite row = some changed →
        changed.status ∈ attemptStatuses := by
  rw [rewriteAttempt_file readable]
  have valid := (readable_iff env disk).mp readable
  cases found : disk.attempts.get? attemptId with
  | none => exact iff_of_true readable fun row changed impossible => by cases impossible
  | some row =>
      rw [Option.bind_some]
      cases rewritten : rewrite row with
      | none =>
          refine iff_of_true readable fun other changed held result => ?_
          obtain rfl := Option.some.inj held
          rw [rewritten] at result
          cases result
      | some changed =>
          simp only
          rw [readable_iff]
          constructor
          · intro after other result held given
            obtain rfl := Option.some.inj held
            obtain rfl := Option.some.inj (rewritten.symm.trans given)
            refine ((((fileValid_save_iff env _).mp after).1 attemptId changed) ?_).status
            exact Dict.get?_insert_self _ _ _
          · intro known
            refine valid.reworked (fun key old => if key = attemptId then changed else old)
              (fun key => ?_) (fun key old held => ?_) (fun key old held => ?_) _
            · rw [Dict.get?_insert]
              split
              case isTrue here => rw [here, found, Option.map_some]
              case isFalse => cases disk.attempts.get? key <;> rfl
            · split
              case isTrue here =>
                rw [here, found] at held
                exact Option.some.inj held ▸ same row changed rewritten
              case isFalse => exact SameChecks.refl old
            · split
              case isTrue => exact known row changed rfl rewritten
              case isFalse => exact (valid.rows key old held).status

theorem expire_readable (readable : Readable env disk)
    (nowIso : String) (isExpired : String → Bool) :
    Readable env (expire env nowIso isExpired disk).2 := by
  have valid := (readable_iff env disk).mp readable
  rcases expire_cases env nowIso isExpired disk with unchanged | saved
  · rw [unchanged]
    exact readable
  · rw [saved, readable_iff]
    refine valid.reworked (fun _ row => if leaseLapsed isExpired row then expireRow nowIso row
      else row) (fun attemptId => ?_) (fun attemptId row found => ?_)
      (fun attemptId row found => ?_) _
    · exact Dict.get?_mapValues _ _ _
    · split
      case isTrue => exact ⟨rfl, rfl, rfl, rfl, rfl, rfl, rfl, rfl, rfl, rfl, rfl, rfl, rfl, rfl⟩
      case isFalse => exact SameChecks.refl row
    · split
      case isTrue =>
        change "expired" ∈ attemptStatuses
        decide
      case isFalse => exact (valid.rows attemptId row found).status

/-- What the argument checks of a dispatch establish. -/
theorem dispatchIdentity_checked (admitted : dispatchIdentity env dispatch = .ok identity) :
    PyString.isBlank identity.runId = false ∧ PyString.isBlank identity.taskId = false ∧
      PyString.isBlank identity.dispatchId = false ∧
      identity.identityVersion ∈ attemptIdentityVersions ∧ 0 ≤ dispatch.placementEpoch ∧
      (identity.identityVersion = identityOperationV2 → 1 ≤ dispatch.placementEpoch) ∧
      identity.attemptId = taskAttemptId env identity.runId identity.taskId identity.dispatchId ∧
      identity.leaseId = taskAttemptLeaseId env identity.attemptId ∧
      identity.attemptKey = attemptKeyFor env identity.runId identity.taskId dispatch.operationId
        (keyRole dispatch.role dispatch.instanceId) identity.identityVersion := by
  unfold dispatchIdentity at admitted
  simp only at admitted
  by_cases absent : PyString.strip dispatch.taskId = "" ∨ PyString.strip dispatch.dispatchId = ""
  · rw [if_pos absent] at admitted
    cases admitted
  rw [if_neg absent] at admitted
  by_cases unknown : PyString.strip dispatch.identityVersion ∉ attemptIdentityVersions
  · rw [if_pos unknown] at admitted
    cases admitted
  rw [if_neg unknown] at admitted
  by_cases negative : dispatch.placementEpoch < 0
  · rw [if_pos negative] at admitted
    cases admitted
  rw [if_neg negative] at admitted
  by_cases unplaced : PyString.strip dispatch.identityVersion = identityOperationV2 ∧
      dispatch.placementEpoch < 1
  · rw [if_pos unplaced] at admitted
    cases admitted
  rw [if_neg unplaced] at admitted
  cases admitted
  obtain ⟨task, dispatched⟩ := not_or.mp absent
  refine ⟨?_, PyString.isBlank_strip task, PyString.isBlank_strip dispatched, not_not.mp unknown,
    by omega, fun second => ?_, rfl, rfl, rfl⟩
  · split
    case isTrue => exact (by decide +kernel : PyString.isBlank "legacy" = false)
    case isFalse filled => exact PyString.isBlank_strip filled
  · have placed := not_and.mp unplaced second
    omega

/-- A new row is accepted when its operation id is not blank. -/
theorem preparedAttempt_valid_iff
    (admitted : dispatchIdentity env dispatch = .ok identity) {position : Nat × Nat}
    (positive : 1 ≤ position.1 ∧ 1 ≤ position.2) :
    RowValid env identity.attemptId (preparedAttempt dispatch identity position) ↔
      PyString.isBlank dispatch.operationId = false := by
  obtain ⟨run, task, dispatched, known, placed, epoch, attemptId, leaseId, attemptKey⟩ :=
    dispatchIdentity_checked admitted
  have versioned : (preparedAttempt dispatch identity position).version =
      identity.identityVersion := by
    change (if identity.identityVersion = "" then identityRoleV1 else identity.identityVersion) = _
    rw [if_neg]
    intro empty
    rw [empty] at known
    revert known
    decide
  constructor
  · intro valid
    exact valid.filled ("operation_id", dispatch.operationId)
      (by simp [requiredFields, preparedAttempt])
  · intro filled
    refine ⟨?_, rfl, rfl, versioned ▸ known, versioned ▸ attemptKey, ?_,
      ⟨positive.2, positive.1⟩, placed, versioned ▸ epoch⟩
    · intro field member
      have stem : PyString.isBlank identity.attemptId = false := by
        rw [attemptId]
        exact PyString.isBlank_append (by decide +kernel) _
      have lease : PyString.isBlank identity.leaseId = false := by
        rw [leaseId]
        exact PyString.isBlank_append (by decide +kernel) _
      have key : PyString.isBlank identity.attemptKey = false := by
        rw [attemptKey]
        exact PyString.isBlank_append (by decide +kernel) _
      simp only [requiredFields, preparedAttempt, List.mem_cons, List.not_mem_nil, or_false]
        at member
      rcases member with rfl | rfl | rfl | rfl | rfl | rfl | rfl | rfl
      · exact stem
      · exact lease
      · exact run
      · exact task
      · exact filled
      · exact key
      · exact dispatched
      · decide +kernel
    · change "prepared" ∈ attemptStatuses
      decide

theorem superseding_sameChecks (disk : StoreData) (scope operationId attemptId updatedAt : String)
    (rowId : String) (row : TaskAttempt) :
    SameChecks row (superseding disk scope operationId attemptId updatedAt rowId row) := by
  unfold superseding
  dsimp only
  split
  · exact ⟨rfl, rfl, rfl, rfl, rfl, rfl, rfl, rfl, rfl, rfl, rfl, rfl, rfl, rfl⟩
  · exact SameChecks.refl row

theorem superseding_status
    (known : row.status ∈ attemptStatuses) (scope operationId attemptId updatedAt rowId : String) :
    (superseding disk scope operationId attemptId updatedAt rowId row).status ∈
      attemptStatuses := by
  unfold superseding
  dsimp only
  split
  · change "superseded" ∈ attemptStatuses
    decide
  · exact known

/-- A created row is accepted when its operation id is not blank, and the other rows stay
acceptable. -/
theorem readable_create_iff (readable : Readable env disk)
    (creates : Creates env dispatch disk identity) :
    Readable env (ensureForDispatch env dispatch disk).2 ↔
      PyString.isBlank dispatch.operationId = false := by
  have valid := (readable_iff env disk).mp readable
  have positive := nextPosition_positive identity.lane fun rowId row found =>
    (valid.rows rowId row found).positive.2
  rw [creates.file, readable_iff, fileValid_save_iff,
    ← preparedAttempt_valid_iff creates.admitted positive]
  constructor
  · rintro ⟨rows, _⟩
    exact rows identity.attemptId _ (Dict.get?_insert_self _ _ _)
  · intro created
    constructor
    · intro attemptId row found
      change (Dict.insert _ _ _).get? attemptId = some row at found
      rw [Dict.get?_insert] at found
      split at found
      case isTrue here =>
        obtain rfl := Option.some.inj found
        exact here ▸ created
      case isFalse other =>
        rw [supersedePrior_get?] at found
        obtain ⟨old, held, rfl⟩ := Option.map_eq_some_iff.mp found
        have accepted := valid.rows attemptId old held
        exact accepted.changed (superseding_sameChecks _ _ _ _ _ _ _)
          (superseding_status accepted.status _ _ _ _ _)
    · intro scope attemptId pointer
      change (Dict.insert _ _ _).get? scope = some attemptId at pointer
      rw [Dict.get?_insert] at pointer
      split at pointer
      case isTrue here =>
        obtain rfl := Option.some.inj pointer
        exact ⟨_, Dict.get?_insert_self _ _ _, here⟩
      case isFalse =>
        obtain ⟨old, held, lane⟩ := valid.pointers scope attemptId pointer
        have different : attemptId ≠ identity.attemptId := by
          rintro rfl
          rw [creates.fresh] at held
          cases held
        refine ⟨superseding disk identity.lane.scope dispatch.operationId identity.attemptId
          dispatch.createdAt attemptId old, ?_, ?_⟩
        · change (Dict.insert _ _ _).get? attemptId = _
          rw [Dict.get?_insert_ne _ _ different, supersedePrior_get?, held, Option.map_some]
        · rw [(superseding_sameChecks _ _ _ _ _ _ _).lane_eq]
          exact lane

/-- The public calls: the operations, and the readers, of which two answer a blank
argument without loading the file. -/
inductive Call where
  | write (operation : Operation)
  | read
  | currentForTask (taskId : String)
  | currentForAttempt (taskId attemptId : String)

def Call.step (env : Env) (disk : StoreData) : Call → StoreData
  | .write operation => TaskAttempts.step env disk operation
  | _ => disk

/-- The operation returns and does not raise. -/
def Returned (env : Env) (disk : StoreData) : Operation → Prop
  | .ensureForDispatch dispatch => ∃ result, (ensureForDispatch env dispatch disk).1 = .ok result
  | .claimDelivery attemptId updatedAt =>
      ∃ result, (claimDelivery env attemptId updatedAt disk).1 = .ok result
  | .markSent attemptId updatedAt => ∃ result, (markSent env attemptId updatedAt disk).1 = .ok result
  | .renewLease attemptId updatedAt leaseExpiresAt =>
      ∃ result, (renewLease env attemptId updatedAt leaseExpiresAt disk).1 = .ok result
  | .update attemptId settlement => ∃ result, (update env attemptId settlement disk).1 = .ok result
  | .expire nowIso isExpired => ∃ result, (expire env nowIso isExpired disk).1 = .ok result

def Call.Returns (env : Env) (disk : StoreData) : Call → Prop
  | .write operation => Returned env disk operation
  | .read => Readable env disk
  | .currentForTask taskId => PyString.isBlank taskId = true ∨ Readable env disk
  | .currentForAttempt taskId attemptId =>
      PyString.isBlank taskId = true ∨ PyString.isBlank attemptId = true ∨ Readable env disk

theorem rewriteAttempt_returns {attemptId : String}
    (returns : ∃ result, (rewriteAttempt env attemptId rewrite disk).1 = .ok result) :
    Readable env disk := by
  obtain ⟨result, returned⟩ := returns
  unfold rewriteAttempt at returned
  cases loaded : loadUnlocked env disk with
  | error error =>
      rw [loaded] at returned
      cases returned
  | ok data => exact ⟨data, loaded⟩

theorem Returned.readable {operation : Operation}
    (returns : Returned env disk operation) : Readable env disk := by
  cases operation with
  | ensureForDispatch dispatch =>
      obtain ⟨result, returned⟩ := returns
      unfold ensureForDispatch at returned
      cases admitted : dispatchIdentity env dispatch with
      | error error =>
          rw [admitted] at returned
          cases returned
      | ok identity =>
          cases loaded : loadUnlocked env disk with
          | error error =>
              simp only [admitted, loaded] at returned
              cases returned
          | ok data => exact ⟨data, loaded⟩
  | claimDelivery attemptId updatedAt => exact rewriteAttempt_returns returns
  | markSent attemptId updatedAt => exact rewriteAttempt_returns returns
  | renewLease attemptId updatedAt leaseExpiresAt => exact rewriteAttempt_returns returns
  | update attemptId settlement => exact rewriteAttempt_returns returns
  | expire nowIso isExpired =>
      obtain ⟨result, returned⟩ := returns
      unfold expire at returned
      cases loaded : loadUnlocked env disk with
      | error error =>
          rw [loaded] at returned
          cases returned
      | ok data => exact ⟨data, loaded⟩

/-- A file that does not load is left alone by every call that returns. -/
theorem Call.Returns.unreadable {call : Call}
    (returns : call.Returns env disk) (unreadable : ¬Readable env disk) :
    call.step env disk = disk := by
  cases call with
  | write operation => exact absurd (Returned.readable returns) unreadable
  | _ => rfl

/-- The call creates no row with a blank operation id and gives no row an unknown status. -/
def Call.Sound (env : Env) (disk : StoreData) : Call → Prop
  | .write (.ensureForDispatch dispatch) =>
      ∀ identity, dispatchIdentity env dispatch = .ok identity →
        disk.attempts.get? identity.attemptId = none →
        PyString.isBlank dispatch.operationId = false
  | .write (.update attemptId settlement) =>
      disk.attempts.contains attemptId = true → settlement.status ∈ attemptStatuses
  | _ => True

theorem readable_rewrite (readable : Readable env disk) (attemptId : String)
    (same : ∀ row changed, rewrite row = some changed →
      SameChecks row changed ∧ changed.status ∈ attemptStatuses) :
    Readable env (rewriteAttempt env attemptId rewrite disk).2 :=
  (readable_rewrite_iff readable attemptId fun row changed rewritten =>
    (same row changed rewritten).1).mpr fun row changed _ rewritten =>
      (same row changed rewritten).2

/-- A dispatch without a row gets one, or the call raises. -/
theorem ensureForDispatch_fresh {result : EnsureTaskAttemptResult} (readable : Readable env disk)
    (admitted : dispatchIdentity env dispatch = .ok identity)
    (fresh : disk.attempts.get? identity.attemptId = none)
    (returned : (ensureForDispatch env dispatch disk).1 = .ok result) : result.created = true := by
  unfold ensureForDispatch at returned
  simp only [admitted, readable.load, fresh] at returned
  unfold createAttempt at returned
  simp only at returned
  split at returned
  · cases returned
  · cases returned
    rfl

/-- What a call that returns does to a file that loads. -/
theorem step_readable_iff (readable : Readable env disk)
    {call : Call} (returns : call.Returns env disk) :
    Readable env (call.step env disk) ↔ call.Sound env disk := by
  cases call with
  | read => exact iff_of_true readable trivial
  | currentForTask taskId => exact iff_of_true readable trivial
  | currentForAttempt taskId attemptId => exact iff_of_true readable trivial
  | write operation =>
      cases operation with
      | ensureForDispatch dispatch =>
          change Readable env (ensureForDispatch env dispatch disk).2 ↔ _
          obtain ⟨result, returned⟩ := returns
          rcases ensureForDispatch_cases env dispatch disk with
            ⟨unchanged, notCreated⟩ | ⟨identity, creates⟩
          · rw [unchanged]
            refine iff_of_true readable fun identity admitted fresh => ?_
            have created := ensureForDispatch_fresh readable admitted fresh returned
            rw [notCreated result returned] at created
            cases created
          · rw [readable_create_iff readable creates]
            constructor
            · intro filled _ _ _
              exact filled
            · intro sound
              exact sound identity creates.admitted creates.fresh
      | claimDelivery attemptId updatedAt =>
          refine iff_of_true (readable_rewrite readable attemptId ?_) trivial
          intro row changed rewritten
          split at rewritten
          case isTrue => cases rewritten
          case isFalse =>
            obtain rfl := Option.some.inj rewritten
            exact ⟨⟨rfl, rfl, rfl, rfl, rfl, rfl, rfl, rfl, rfl, rfl, rfl, rfl, rfl, rfl⟩,
              (by decide : "delivering" ∈ attemptStatuses)⟩
      | markSent attemptId updatedAt =>
          refine iff_of_true (readable_rewrite readable attemptId ?_) trivial
          intro row changed rewritten
          split at rewritten
          case isTrue => cases rewritten
          case isFalse =>
            obtain rfl := Option.some.inj rewritten
            exact ⟨⟨rfl, rfl, rfl, rfl, rfl, rfl, rfl, rfl, rfl, rfl, rfl, rfl, rfl, rfl⟩,
              (by decide : "sent" ∈ attemptStatuses)⟩
      | renewLease attemptId updatedAt leaseExpiresAt =>
          refine iff_of_true (readable_rewrite readable attemptId ?_) trivial
          intro row changed rewritten
          split at rewritten
          case isTrue => cases rewritten
          case isFalse active =>
            obtain rfl := Option.some.inj rewritten
            exact ⟨⟨rfl, rfl, rfl, rfl, rfl, rfl, rfl, rfl, rfl, rfl, rfl, rfl, rfl, rfl⟩,
              List.mem_append_left _ (not_not.mp active)⟩
      | update attemptId settlement =>
          refine (readable_rewrite_iff readable attemptId ?_).trans ?_
          · intro row changed rewritten
            obtain rfl := Option.some.inj rewritten
            exact ⟨rfl, rfl, rfl, rfl, rfl, rfl, rfl, rfl, rfl, rfl, rfl, rfl, rfl, rfl⟩
          · change _ ↔ ((disk.attempts.get? attemptId).isSome = true → _)
            constructor
            · intro known held
              obtain ⟨row, found⟩ := Option.isSome_iff_exists.mp held
              exact known row _ found rfl
            · intro known row changed found rewritten
              obtain rfl := Option.some.inj rewritten
              exact known (by rw [found, Option.isSome_some])
      | expire nowIso isExpired =>
          exact iff_of_true (expire_readable readable nowIso isExpired) trivial

/-- The file after these calls on an empty store. -/
def fileAfter (env : Env) (calls : List Call) : StoreData :=
  Runs.run (fun disk call => call.step env disk) StoreData.empty calls

/-- Every call of the run returns. -/
def AllReturn (env : Env) (calls : List Call) : Prop :=
  Runs.Along (fun disk call => call.step env disk) (fun disk call => call.Returns env disk)
    StoreData.empty calls

/-- Every call of the run is sound where it is made. -/
def AllSound (env : Env) (calls : List Call) : Prop :=
  Runs.Along (fun disk call => call.step env disk) (fun disk call => call.Sound env disk)
    StoreData.empty calls

theorem run_unreadable (unreadable : ¬Readable env disk)
    {calls : List Call} (returns : Runs.Along (fun disk call => call.step env disk)
      (fun disk call => call.Returns env disk) disk calls) :
    Runs.run (fun disk call => call.step env disk) disk calls = disk := by
  induction calls with
  | nil => rfl
  | cons call rest ih =>
      have same := returns.1.unreadable unreadable
      obtain ⟨_, later⟩ := returns
      simp only [same] at later
      rw [Runs.run_cons]
      simp only [same]
      exact ih later

/-- A run of calls that return leaves a file that loads exactly when each of them
was sound. -/
theorem run_readable_iff {env : Env} {calls : List Call} (returns : AllReturn env calls) :
    Readable env (fileAfter env calls) ↔ AllSound env calls := by
  have empty : Readable env StoreData.empty := ⟨_, rfl⟩
  unfold AllReturn at returns
  unfold fileAfter AllSound
  generalize StoreData.empty = disk at empty returns
  induction calls generalizing disk with
  | nil => exact iff_of_true empty trivial
  | cons call rest ih =>
      have step := step_readable_iff empty returns.1
      rw [Runs.run_cons]
      by_cases sound : call.Sound env disk
      · refine (ih _ (step.mpr sound) returns.2).trans ?_
        exact ⟨fun later => ⟨sound, later⟩, And.right⟩
      · have unreadable : ¬Readable env (call.step env disk) := fun readable =>
          sound (step.mp readable)
        rw [run_unreadable unreadable returns.2]
        exact iff_of_false unreadable fun along => sound along.1

theorem exists_of_isOk {α : Type} {answer : Except StoreError α} (isOk : answer.isOk = true) :
    ∃ result, answer = .ok result := by
  cases answer with
  | error error => cases isOk
  | ok result => exact ⟨result, rfl⟩

/-- A dispatch that is settled as failed and then looked up. -/
def settledCalls : List Call :=
  [.write (.ensureForDispatch (retryDispatch "d1")),
    .write (.update "ta-c1eb1a4ba08a7c737f79" { status := "failed", updatedAt := "t1" }), .read]

theorem settledCalls_readable :
    Readable retryEnv (fileAfter retryEnv settledCalls) ↔ AllSound retryEnv settledCalls := by
  have returns : AllReturn retryEnv settledCalls :=
    ⟨exists_of_isOk (by decide +kernel), exists_of_isOk (by decide +kernel),
      exists_of_isOk (by decide +kernel), trivial⟩
  exact run_readable_iff returns

/-- A dispatch with an empty operation id is admitted, and no later load returns. -/
theorem blank_operation_unreadable :
    ¬∀ (env : Env) (calls : List Call), AllReturn env calls →
      Readable env (fileAfter env calls) := by
  intro claimed
  let calls : List Call := [.write (.ensureForDispatch { retryDispatch "d1" with
    operationId := "" })]
  have returns : AllReturn retryEnv calls := ⟨exists_of_isOk (by decide +kernel), trivial⟩
  obtain ⟨data, loaded⟩ := claimed retryEnv calls returns
  have refused : (loadUnlocked retryEnv (fileAfter retryEnv calls)).isOk = false := by
    decide +kernel
  rw [loaded] at refused
  cases refused

end ZaofuFormal.State.TaskAttempts
