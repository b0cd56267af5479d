import ZaofuFormal.State.TaskAttempts

/-!
# Attempt lanes

A lane collects the attempts of one run, task and attempt key.  This module
states what the store keeps true of every lane and proves it for every run of
the store operations: the current pointer names the latest row, only that row
can be active, and the rows of each series are numbered without gaps.

The argument rests on one invariant, `Coherent`.  Every operation either
rewrites rows in place without touching their identity or position
(`Coherent.rework`) or puts one new row above all rows of its lane
(`Coherent.extend`).
-/

namespace ZaofuFormal.State.TaskAttempts

open Foundation

theorem mem_operationRows_iff (data : StoreData) (lane : Lane) (row : TaskAttempt) :
    row ∈ operationRows data lane ↔
      (∃ attemptId, data.attempts.get? attemptId = some row) ∧ row.lane = lane := by
  simp [operationRows, Dict.mem_values_iff]

variable {data after : StoreData} {env : Env} {first second : TaskAttempt}
  {rewrite : String → TaskAttempt → TaskAttempt}

theorem operationRows_nodup (lane : Lane)
    (keyed : ∀ {attemptId row}, data.attempts.get? attemptId = some row →
      row.attemptId = attemptId) :
    (operationRows data lane).Nodup := by
  refine List.Nodup.filter _ ?_
  have keys : data.attempts.values.map TaskAttempt.attemptId = data.attempts.keys := by
    simp only [Dict.values, Dict.keys, List.map_map]
    apply List.map_congr_left
    intro entry member
    exact keyed ((data.attempts.get?_eq_some_iff _ _).mpr member)
  apply List.Nodup.of_map TaskAttempt.attemptId
  rw [keys]
  exact data.attempts.nodupKeys

/-- The digest is collision-free and its hexadecimal digits contain no colon. -/
structure Env.Lawful (env : Env) : Prop where
  injective : Function.Injective env.digest
  noColon : ∀ text, ':' ∉ (env.digest text).toList

/-- An identity component that does not contain the joining character. -/
def Clean (text : String) : Prop := '|' ∉ text.toList

instance (text : String) : Decidable (Clean text) := inferInstanceAs (Decidable (¬ _))

theorem Clean.strip {text : String} (clean : Clean text) : Clean (PyString.strip text) :=
  fun member => clean (PyString.mem_of_mem_strip member)

/-- A row whose attempt key was derived from its own identity, with clean ids. -/
structure Identified (env : Env) (row : TaskAttempt) : Prop where
  key : row.attemptKey = attemptKeyFor env row.runId row.taskId row.operationId
    (keyRole row.role row.instanceId) row.identityVersion
  runClean : Clean row.runId
  taskClean : Clean row.taskId

theorem identityParts_shape (runId taskId operationId role identityVersion : String) :
    ∃ rest, identityParts runId taskId operationId role identityVersion =
      runId :: taskId :: operationId :: rest := by
  unfold identityParts
  split
  · exact ⟨[role], rfl⟩
  · exact ⟨[], rfl⟩

/-- The attempt key alone determines the run and the task of its lane. -/
theorem Identified.lane_eq_of_key (lawful : env.Lawful)
    (firstIdentified : Identified env first) (secondIdentified : Identified env second)
    (same : first.attemptKey = second.attemptKey) : first.lane = second.lane := by
  have keys := same
  rw [firstIdentified.key, secondIdentified.key] at keys
  have digests := congrArg String.toList keys
  simp only [attemptKeyFor, String.toList_append] at digests
  have joined := lawful.injective (String.toList_injective (List.append_cancel_left digests))
  obtain ⟨firstRest, firstShape⟩ := identityParts_shape first.runId first.taskId
    first.operationId (keyRole first.role first.instanceId) first.identityVersion
  obtain ⟨secondRest, secondShape⟩ := identityParts_shape second.runId second.taskId
    second.operationId (keyRole second.role second.instanceId) second.identityVersion
  rw [firstShape, secondShape] at joined
  obtain ⟨sameRun, remaining⟩ := PyString.join_cons_cons_inj
    firstIdentified.runClean secondIdentified.runClean joined
  obtain ⟨sameTask, _⟩ := PyString.join_cons_cons_inj
    firstIdentified.taskClean secondIdentified.taskClean remaining
  simp [TaskAttempt.lane, sameRun, sameTask, same]

theorem Identified.noColon {env : Env} (lawful : env.Lawful) {row : TaskAttempt}
    (identified : Identified env row) : ':' ∉ row.attemptKey.toList := by
  rw [identified.key, attemptKeyFor, String.toList_append, List.mem_append]
  rintro (stem | digest)
  · revert stem
    decide
  · exact lawful.noColon _ digest

/-- Scope keys of identified rows are equal only within one lane, although the
run and task ids inside them may themselves contain the `::` separator. -/
theorem Identified.lane_eq_of_scope (lawful : env.Lawful)
    (firstIdentified : Identified env first) (secondIdentified : Identified env second)
    (same : first.lane.scope = second.lane.scope) : first.lane = second.lane := by
  have shape (row : TaskAttempt) : row.lane.scope.toList =
      (row.runId.toList ++ ':' :: ':' :: row.taskId.toList ++ [':']) ++
        ':' :: row.attemptKey.toList := by
    simp [TaskAttempt.lane, Lane.scope, scopeKey]
  have chars := congrArg String.toList same
  rw [shape first, shape second] at chars
  have keys := (Lists.append_cons_inj_of_notMem_tail
    (firstIdentified.noColon lawful) (secondIdentified.noColon lawful) chars).2
  exact firstIdentified.lane_eq_of_key lawful secondIdentified (String.toList_injective keys)

/-- Position order on rows: series first, then ordinal. -/
def TaskAttempt.AtMost (first second : TaskAttempt) : Prop :=
  first.series < second.series ∨
    (first.series = second.series ∧ first.ordinal ≤ second.ordinal)

theorem TaskAttempt.AtMost.refl (row : TaskAttempt) : row.AtMost row :=
  Or.inr ⟨rfl, Nat.le_refl _⟩

theorem TaskAttempt.AtMost.trans {third : TaskAttempt}
    (left : first.AtMost second) (right : second.AtMost third) : first.AtMost third := by
  unfold TaskAttempt.AtMost at *
  omega

theorem TaskAttempt.Before.atMost (before : first.Before second) : first.AtMost second := by
  rcases before with series | ⟨series, ordinal | ⟨ordinal, _⟩⟩
  · exact Or.inl series
  · exact Or.inr ⟨series, Nat.le_of_lt ordinal⟩
  · exact Or.inr ⟨series, Nat.le_of_eq ordinal⟩

theorem TaskAttempt.atMost_of_not_before
    (notBefore : ¬ first.Before second) : second.AtMost first := by
  by_contra above
  apply notBefore
  unfold TaskAttempt.AtMost at above
  unfold TaskAttempt.Before
  omega

theorem foldl_latest_spec (rest : List TaskAttempt) (row : TaskAttempt) :
    let latest := rest.foldl (fun best next => if best.Before next then next else best) row
    (latest = row ∨ latest ∈ rest) ∧ row.AtMost latest ∧ ∀ other ∈ rest, other.AtMost latest := by
  induction rest generalizing row with
  | nil => exact ⟨Or.inl rfl, .refl row, fun other member => nomatch member⟩
  | cons next rest ih =>
      by_cases before : row.Before next
      · obtain ⟨choice, above, all⟩ := ih next
        simp only [List.foldl_cons, before, if_true]
        refine ⟨Or.inr ?_, before.atMost.trans above, ?_⟩
        · rcases choice with same | member
          · exact List.mem_cons.mpr (Or.inl same)
          · exact List.mem_cons_of_mem next member
        · intro other member
          rcases List.mem_cons.mp member with rfl | member
          · exact above
          · exact all other member
      · obtain ⟨choice, above, all⟩ := ih row
        simp only [List.foldl_cons, before, if_false]
        refine ⟨?_, above, ?_⟩
        · rcases choice with same | member
          · exact Or.inl same
          · exact Or.inr (List.mem_cons_of_mem next member)
        · intro other member
          rcases List.mem_cons.mp member with rfl | member
          · exact (TaskAttempt.atMost_of_not_before before).trans above
          · exact all other member

/-- The latest row of a list is one of its rows and ranks at least as high as all. -/
theorem latestOperation_spec {rows : List TaskAttempt} {latest : TaskAttempt}
    (found : latestOperation rows = some latest) :
    latest ∈ rows ∧ ∀ row ∈ rows, row.AtMost latest := by
  cases rows with
  | nil => cases found
  | cons row rest =>
      obtain ⟨choice, above, all⟩ := foldl_latest_spec rest row
      rw [latestOperation, Option.some.injEq] at found
      rw [found] at choice above all
      refine ⟨?_, ?_⟩
      · rcases choice with same | member
        · exact List.mem_cons.mpr (Or.inl same)
        · exact List.mem_cons_of_mem row member
      · intro other member
        rcases List.mem_cons.mp member with rfl | member
        · exact above
        · exact all other member

theorem latestOperation_eq_none {rows : List TaskAttempt}
    (missing : latestOperation rows = none) : rows = [] := by
  cases rows with
  | nil => rfl
  | cons row rest => cases missing

structure Coherent (env : Env) (data : StoreData) : Prop where
  keyed : ∀ {attemptId row}, data.attempts.get? attemptId = some row → row.attemptId = attemptId
  identified : ∀ {attemptId row}, data.attempts.get? attemptId = some row → Identified env row
  positive : ∀ {attemptId row}, data.attempts.get? attemptId = some row →
    1 ≤ row.series ∧ 1 ≤ row.ordinal
  distinct : ∀ {firstId first secondId second}, data.attempts.get? firstId = some first →
    data.attempts.get? secondId = some second → first.lane = second.lane →
    first.series = second.series → first.ordinal = second.ordinal → first = second
  filled : ∀ {attemptId row}, data.attempts.get? attemptId = some row → 1 < row.ordinal →
    ∃ previousId previous, data.attempts.get? previousId = some previous ∧
      previous.lane = row.lane ∧ previous.series = row.series ∧
      previous.ordinal + 1 = row.ordinal
  current : ∀ {attemptId row}, data.attempts.get? attemptId = some row →
    ∃ current, data.current.get? row.lane.scope = some current.attemptId ∧
      data.attempts.get? current.attemptId = some current ∧ current.lane = row.lane ∧
      row.AtMost current ∧ (row.Active → row = current)

theorem coherent_empty (env : Env) : Coherent env StoreData.empty where
  keyed := fun found => nomatch found
  identified := fun found => nomatch found
  positive := fun found => nomatch found
  distinct := fun found => nomatch found
  filled := fun found => nomatch found
  current := fun found => nomatch found

/-- Saving reorders the file without changing what it holds. -/
theorem Coherent.save (coherent : Coherent env data) : Coherent env (saveUnlocked data) := by
  obtain ⟨keyed, identified, positive, distinct, filled, current⟩ := coherent
  constructor <;> simpa only [saveUnlocked, Dict.get?_sortKeys]

/-- A rewritten row keeps its identity and position and is not revived. -/
structure Reworks (before after : TaskAttempt) : Prop where
  attemptId : after.attemptId = before.attemptId
  lane : after.lane = before.lane
  operationId : after.operationId = before.operationId
  role : after.role = before.role
  instanceId : after.instanceId = before.instanceId
  identityVersion : after.identityVersion = before.identityVersion
  series : after.series = before.series
  ordinal : after.ordinal = before.ordinal
  active : after.Active → before.Active

theorem Reworks.refl (row : TaskAttempt) : Reworks row row :=
  ⟨rfl, rfl, rfl, rfl, rfl, rfl, rfl, rfl, id⟩

theorem Reworks.identified {before after : TaskAttempt}
    (reworks : Reworks before after) (identified : Identified env before) :
    Identified env after := by
  have lane := reworks.lane
  simp only [TaskAttempt.lane, Lane.mk.injEq] at lane
  obtain ⟨runId, taskId, attemptKey⟩ := lane
  obtain ⟨key, runClean, taskClean⟩ := identified
  constructor <;>
    simpa only [runId, taskId, attemptKey, reworks.operationId, reworks.role,
      reworks.instanceId, reworks.identityVersion]

theorem Reworks.atMost {firstAfter secondAfter : TaskAttempt}
    (firstReworks : Reworks first firstAfter) (secondReworks : Reworks second secondAfter)
    (atMost : first.AtMost second) : firstAfter.AtMost secondAfter := by
  unfold TaskAttempt.AtMost at *
  rw [firstReworks.series, secondReworks.series, firstReworks.ordinal, secondReworks.ordinal]
  exact atMost

/-- `after` holds the rows of `data`, each rewritten in place, and the same pointers. -/
structure Reworked (data after : StoreData) (rewrite : String → TaskAttempt → TaskAttempt) :
    Prop where
  attempts : ∀ attemptId, after.attempts.get? attemptId =
    (data.attempts.get? attemptId).map (rewrite attemptId)
  current : ∀ scope, after.current.get? scope = data.current.get? scope
  reworks : ∀ {attemptId row}, data.attempts.get? attemptId = some row →
    Reworks row (rewrite attemptId row)

theorem Reworked.refl (data : StoreData) : Reworked data data fun _ row => row :=
  ⟨fun attemptId => by simp, fun _ => rfl, fun _ => .refl _⟩

theorem Reworked.save
    (reworked : Reworked data after rewrite) : Reworked data (saveUnlocked after) rewrite := by
  obtain ⟨attempts, current, reworks⟩ := reworked
  constructor
  · simpa only [saveUnlocked, Dict.get?_sortKeys] using attempts
  · simpa only [saveUnlocked, Dict.get?_sortKeys] using current
  · exact reworks

theorem Reworked.origin
    (reworked : Reworked data after rewrite) {attemptId : String} {row : TaskAttempt}
    (found : after.attempts.get? attemptId = some row) :
    ∃ old, data.attempts.get? attemptId = some old ∧ row = rewrite attemptId old := by
  rw [reworked.attempts, Option.map_eq_some_iff] at found
  obtain ⟨old, present, same⟩ := found
  exact ⟨old, present, same.symm⟩

theorem Reworked.image
    (reworked : Reworked data after rewrite) {attemptId : String} {old : TaskAttempt}
    (found : data.attempts.get? attemptId = some old) :
    after.attempts.get? attemptId = some (rewrite attemptId old) := by
  rw [reworked.attempts, found, Option.map_some]

/-- Rewriting rows in place keeps the store coherent. -/
theorem Coherent.rework (coherent : Coherent env data) (reworked : Reworked data after rewrite) :
    Coherent env after := by
  have reworks {attemptId : String} {row : TaskAttempt}
      (found : data.attempts.get? attemptId = some row) :
      Reworks row (rewrite attemptId row) := reworked.reworks found
  constructor
  · intro attemptId row found
    obtain ⟨old, present, rfl⟩ := reworked.origin found
    exact (reworks present).attemptId.trans (coherent.keyed present)
  · intro attemptId row found
    obtain ⟨old, present, rfl⟩ := reworked.origin found
    exact (reworks present).identified (coherent.identified present)
  · intro attemptId row found
    obtain ⟨old, present, rfl⟩ := reworked.origin found
    rw [(reworks present).series, (reworks present).ordinal]
    exact coherent.positive present
  · intro firstId first secondId second firstFound secondFound lane series ordinal
    obtain ⟨firstOld, firstPresent, rfl⟩ := reworked.origin firstFound
    obtain ⟨secondOld, secondPresent, rfl⟩ := reworked.origin secondFound
    rw [(reworks firstPresent).lane, (reworks secondPresent).lane] at lane
    rw [(reworks firstPresent).series, (reworks secondPresent).series] at series
    rw [(reworks firstPresent).ordinal, (reworks secondPresent).ordinal] at ordinal
    have same := coherent.distinct firstPresent secondPresent lane series ordinal
    have sameId : firstId = secondId := by
      rw [← coherent.keyed firstPresent, ← coherent.keyed secondPresent, same]
    rw [same, sameId]
  · intro attemptId row found later
    obtain ⟨old, present, rfl⟩ := reworked.origin found
    rw [(reworks present).ordinal] at later
    obtain ⟨previousId, previous, previousFound, lane, series, ordinal⟩ :=
      coherent.filled present later
    refine ⟨previousId, rewrite previousId previous, reworked.image previousFound, ?_, ?_, ?_⟩
    · rw [(reworks previousFound).lane, (reworks present).lane, lane]
    · rw [(reworks previousFound).series, (reworks present).series, series]
    · rw [(reworks previousFound).ordinal, (reworks present).ordinal, ordinal]
  · intro attemptId row found
    obtain ⟨old, present, rfl⟩ := reworked.origin found
    obtain ⟨pointed, pointer, pointedFound, lane, atMost, active⟩ := coherent.current present
    have pointedId := (reworks pointedFound).attemptId
    refine ⟨rewrite pointed.attemptId pointed, ?_, ?_, ?_, ?_, ?_⟩
    · rw [reworked.current, (reworks present).lane, pointedId, pointer]
    · rw [pointedId]
      exact reworked.image pointedFound
    · rw [(reworks pointedFound).lane, (reworks present).lane, lane]
    · exact (reworks present).atMost (reworks pointedFound) atMost
    · intro revived
      have same := active ((reworks present).active revived)
      rw [← same, coherent.keyed present]

/-- Putting a new row above every row of a quiet lane keeps the store coherent. -/
theorem Coherent.extend (lawful : env.Lawful) (coherent : Coherent env data) (row : TaskAttempt)
    (fresh : data.attempts.get? row.attemptId = none)
    (identified : Identified env row)
    (positive : 1 ≤ row.series ∧ 1 ≤ row.ordinal)
    (attempts : ∀ attemptId, after.attempts.get? attemptId =
      if attemptId = row.attemptId then some row else data.attempts.get? attemptId)
    (current : ∀ scope, after.current.get? scope =
      if scope = row.lane.scope then some row.attemptId else data.current.get? scope)
    (quiet : ∀ {attemptId other}, data.attempts.get? attemptId = some other →
      other.lane = row.lane → ¬ other.Active)
    (above : ∀ {attemptId other}, data.attempts.get? attemptId = some other →
      other.lane = row.lane →
      other.series < row.series ∨ (other.series = row.series ∧ other.ordinal < row.ordinal))
    (filled : 1 < row.ordinal → ∃ previousId previous,
      data.attempts.get? previousId = some previous ∧ previous.lane = row.lane ∧
      previous.series = row.series ∧ previous.ordinal + 1 = row.ordinal) :
    Coherent env after := by
  have origin {attemptId : String} {other : TaskAttempt}
      (found : after.attempts.get? attemptId = some other) :
      (attemptId = row.attemptId ∧ other = row) ∨ data.attempts.get? attemptId = some other := by
    rw [attempts] at found
    split at found
    · exact Or.inl ⟨‹_›, (Option.some.inj found).symm⟩
    · exact Or.inr found
  have kept {attemptId : String} {other : TaskAttempt}
      (found : data.attempts.get? attemptId = some other) :
      after.attempts.get? attemptId = some other := by
    have different : attemptId ≠ row.attemptId := by
      intro same
      rw [same, fresh] at found
      cases found
    rw [attempts, if_neg different, found]
  have added : after.attempts.get? row.attemptId = some row := by
    rw [attempts, if_pos rfl]
  constructor
  · intro attemptId other found
    rcases origin found with ⟨rfl, rfl⟩ | present
    · rfl
    · exact coherent.keyed present
  · intro attemptId other found
    rcases origin found with ⟨rfl, rfl⟩ | present
    · exact identified
    · exact coherent.identified present
  · intro attemptId other found
    rcases origin found with ⟨rfl, rfl⟩ | present
    · exact positive
    · exact coherent.positive present
  · intro firstId first secondId second firstFound secondFound lane series ordinal
    rcases origin firstFound with ⟨rfl, rfl⟩ | firstPresent
    · rcases origin secondFound with ⟨rfl, rfl⟩ | secondPresent
      · rfl
      · have lower := above secondPresent lane.symm
        omega
    · rcases origin secondFound with ⟨rfl, rfl⟩ | secondPresent
      · have lower := above firstPresent lane
        omega
      · exact coherent.distinct firstPresent secondPresent lane series ordinal
  · intro attemptId other found later
    rcases origin found with ⟨rfl, rfl⟩ | present
    · obtain ⟨previousId, previous, previousFound, rest⟩ := filled later
      exact ⟨previousId, previous, kept previousFound, rest⟩
    · obtain ⟨previousId, previous, previousFound, rest⟩ := coherent.filled present later
      exact ⟨previousId, previous, kept previousFound, rest⟩
  · intro attemptId other found
    rcases origin found with ⟨rfl, rfl⟩ | present
    · exact ⟨other, by rw [current, if_pos rfl], added, rfl, .refl other, fun _ => rfl⟩
    · by_cases sameLane : other.lane = row.lane
      · refine ⟨row, ?_, added, sameLane.symm, ?_, ?_⟩
        · rw [current, if_pos (congrArg Lane.scope sameLane)]
        · rcases above present sameLane with series | ⟨series, ordinal⟩
          · exact Or.inl series
          · exact Or.inr ⟨series, Nat.le_of_lt ordinal⟩
        · intro active
          exact absurd active (quiet present sameLane)
      · obtain ⟨pointed, pointer, pointedFound, rest⟩ := coherent.current present
        have otherScope : other.lane.scope ≠ row.lane.scope := fun same =>
          sameLane ((coherent.identified present).lane_eq_of_scope lawful identified same)
        refine ⟨pointed, ?_, kept pointedFound, rest⟩
        rw [current, if_neg otherScope, pointer]

end ZaofuFormal.State.TaskAttempts
