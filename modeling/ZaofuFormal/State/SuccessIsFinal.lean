import ZaofuFormal.State.TaskAttemptReadBack
import ZaofuFormal.State.TaskAttemptRuntime

/-!
# Success of a TaskAttempt

A row that has succeeded keeps its status under every runtime call that checks
the status before it writes.  The report of a failed delivery does not: it
writes `failed` whatever the row says.  A run keeps every success exactly when
no delivery of a succeeded attempt is reported as failed.
-/

namespace ZaofuFormal.State.TaskAttemptRuntime

open Foundation Workflow TaskAttempts

/-! ## Success across the states of the store -/

def Succeeded (disk : StoreData) (attemptId : String) : Prop :=
  ∃ row, disk.attempts.get? attemptId = some row ∧ row.status = "succeeded"

/-- What has succeeded stays so. -/
def SuccessKept (first second : StoreData) : Prop :=
  ∀ attemptId, Succeeded first attemptId → Succeeded second attemptId

/-- The same attempts have succeeded. -/
def SameSuccess (first second : StoreData) : Prop :=
  ∀ attemptId, Succeeded first attemptId ↔ Succeeded second attemptId

theorem SuccessKept.refl (disk : StoreData) : SuccessKept disk disk := fun _ held => held

theorem SuccessKept.trans (first second third : StoreData) (early : SuccessKept first second)
    (late : SuccessKept second third) : SuccessKept first third :=
  fun attemptId held => late attemptId (early attemptId held)

theorem SameSuccess.refl (disk : StoreData) : SameSuccess disk disk := fun _ => Iff.rfl

theorem SameSuccess.trans (first second third : StoreData) (early : SameSuccess first second)
    (late : SameSuccess second third) : SameSuccess first third :=
  fun attemptId => (early attemptId).trans (late attemptId)

theorem SameSuccess.kept (first second : StoreData) (same : SameSuccess first second) :
    SuccessKept first second := fun attemptId => (same attemptId).mp

variable {attemptId : String} {disk start : StoreData} {row changed : TaskAttempt}
  {attemptRows : List TaskAttempt}

theorem not_succeeded
    (found : disk.attempts.get? attemptId = some row) (other : row.status ≠ "succeeded") :
    ¬Succeeded disk attemptId := by
  rintro ⟨held, present, succeeded⟩
  rw [found] at present
  cases present
  exact other succeeded

/-! ## Writing one row -/

/-- The second state is the first one with `changed` stored under `attemptId`. -/
def Wrote (first second : StoreData) (attemptId : String) (changed : TaskAttempt) : Prop :=
  ∀ other, second.attempts.get? other =
    if other = attemptId then some changed else first.attempts.get? other

theorem Wrote.kept {first second : StoreData} (wrote : Wrote first second attemptId changed)
    (allowed : Succeeded first attemptId → changed.status = "succeeded") :
    SuccessKept first second := by
  intro other held
  by_cases same : other = attemptId
  · subst same
    exact ⟨changed, by rw [wrote, if_pos rfl], allowed held⟩
  · obtain ⟨row, found, succeeded⟩ := held
    exact ⟨row, by rw [wrote, if_neg same, found], succeeded⟩

theorem Wrote.sameSuccess {first second : StoreData} (wrote : Wrote first second attemptId changed)
    (before : ¬Succeeded first attemptId) (after : changed.status ≠ "succeeded") :
    SameSuccess first second := by
  intro other
  by_cases same : other = attemptId
  · subst same
    refine iff_of_false before (not_succeeded ?_ after)
    rw [wrote, if_pos rfl]
  · unfold Succeeded
    rw [wrote, if_neg same]

/-- A single-row operation leaves the file alone, or it writes the rewritten row
and returns it. -/
theorem rewriteAttempt_wrote (env : Env) (attemptId : String)
    (rewrite : TaskAttempt → Option TaskAttempt) (disk : StoreData) :
    ((rewriteAttempt env attemptId rewrite disk).2 = disk ∧
      ∀ answer, (rewriteAttempt env attemptId rewrite disk).1 = .ok answer → answer.2 = false ∧
        (answer.1 = none ∨ ∃ row, answer.1 = some row ∧ rewrite row = none)) ∨
    ∃ row changed, disk.attempts.get? attemptId = some row ∧ row.attemptId = attemptId ∧
      rewrite row = some changed ∧
      (rewriteAttempt env attemptId rewrite disk).1 = .ok (some changed, true) ∧
      Wrote disk (rewriteAttempt env attemptId rewrite disk).2 attemptId changed := by
  cases loaded : loadUnlocked env disk with
  | error error =>
      left
      simp only [rewriteAttempt, loaded]
      exact ⟨trivial, fun answer impossible => nomatch impossible⟩
  | ok data =>
      have valid := (readable_iff env disk).mp ⟨data, loaded⟩
      have loadedEq := loadUnlocked_ok loaded
      subst loadedEq
      cases found : disk.attempts.get? attemptId with
      | none =>
          left
          simp only [rewriteAttempt, loaded, found]
          refine ⟨trivial, ?_⟩
          rintro _ ⟨⟩
          exact ⟨rfl, Or.inl rfl⟩
      | some row =>
          cases rewritten : rewrite row with
          | none =>
              left
              simp only [rewriteAttempt, loaded, found, rewritten]
              refine ⟨trivial, ?_⟩
              rintro _ ⟨⟩
              exact ⟨rfl, Or.inr ⟨row, rfl, rewritten⟩⟩
          | some changed =>
              right
              refine ⟨row, changed, rfl, (valid.rows _ _ found).keyed, rewritten, ?_, ?_⟩
              · simp only [rewriteAttempt, loaded, found, rewritten]
              · intro other
                simp only [rewriteAttempt, loaded, found, rewritten, saveUnlocked,
                  Dict.get?_sortKeys, Dict.get?_insert]

/-- `update` leaves the file alone and finds no row, or it writes the settled row. -/
theorem update_wrote (env : Env) (attemptId : String) (settlement : Settlement)
    (disk : StoreData) :
    ((update env attemptId settlement disk).2 = disk ∧
      ∀ answer, (update env attemptId settlement disk).1 = .ok answer → answer.1 = none) ∨
    ∃ changed, changed.attemptId = attemptId ∧ changed.status = settlement.status ∧
      (update env attemptId settlement disk).1 = .ok (some changed, true) ∧
      Wrote disk (update env attemptId settlement disk).2 attemptId changed := by
  unfold update
  rcases rewriteAttempt_wrote env attemptId _ disk with
    ⟨same, answered⟩ | ⟨row, changed, found, keyed, rewritten, outcome, wrote⟩
  · left
    refine ⟨same, ?_⟩
    intro answer returned
    rcases (answered answer returned).2 with none | ⟨row, _, impossible⟩
    · exact none
    · cases impossible
  · right
    have changedEq := Option.some.inj rewritten
    refine ⟨changed, ?_, ?_, outcome, wrote⟩
    · rw [← changedEq, ← keyed]
    · rw [← changedEq]

/-! ## Programs over the store -/

theorem keeps_onStore {α : Type} {relation : StoreData → StoreData → Prop}
    {before : StoreData → Prop} {after : α → StoreData → Prop}
    {operation : StoreData → Except StoreError α × StoreData}
    (holds : ∀ disk, before disk → relation disk (operation disk).2 ∧
      ∀ answer, (operation disk).1 = .ok answer → after answer (operation disk).2) :
    Program.Keeps relation before (onStore operation) after := by
  intro disk start
  obtain ⟨kept, answered⟩ := holds disk start
  refine ⟨kept, ?_⟩
  intro answer returned
  simp only [onStore, Program.exec_of] at returned ⊢
  cases outcome : (operation disk).1 with
  | error error =>
      rw [outcome] at returned
      cases returned
  | ok value =>
      rw [outcome] at returned
      cases returned
      exact answered answer outcome

/-- Reading changes nothing and returns the rows that the file holds. -/
theorem keeps_load {relation : StoreData → StoreData → Prop}
    (reflexive : ∀ disk, relation disk disk) (env : Env) (start : StoreData) :
    Program.Keeps relation (· = start) (load env) fun data disk =>
      disk = start ∧ data.attempts = start.attempts ∧ FileValid env start := by
  apply keeps_onStore
  rintro disk rfl
  refine ⟨reflexive disk, ?_⟩
  intro data loaded
  refine ⟨rfl, ?_, (readable_iff env disk).mp ⟨data, loaded⟩⟩
  rw [loadUnlocked_ok loaded]

/-- Rows that the file holds under their ids. -/
def Mirrors (attemptRows : List TaskAttempt) (disk : StoreData) : Prop :=
  ∀ row ∈ attemptRows, disk.attempts.get? row.attemptId = some row

theorem keeps_rows {relation : StoreData → StoreData → Prop}
    (reflexive : ∀ disk, relation disk disk)
    (transitive : ∀ first second third, relation first second → relation second third →
      relation first third) (env : Env) (start : StoreData) :
    Program.Keeps relation (· = start) (rows env) fun attemptRows disk =>
      disk = start ∧ Mirrors attemptRows start := by
  apply Program.Keeps.bind transitive (keeps_load reflexive env start)
  intro data
  apply Program.Keeps.pure reflexive
  rintro disk ⟨rfl, same, valid⟩
  refine ⟨rfl, ?_⟩
  intro row member
  rw [same] at member
  obtain ⟨attemptId, found⟩ := (disk.attempts.mem_values_iff row).mp member
  rw [(valid.rows _ _ found).keyed, found]

/-! ## Writing settlements -/

section Guarantees

variable {relation : StoreData → StoreData → Prop}

/-- What is known after `update`: nothing was written, or the settled row was. -/
def Settled (start : StoreData) (attemptId status : String) (answer : Option TaskAttempt)
    (disk : StoreData) : Prop :=
  match answer with
  | none => disk = start
  | some changed => changed.attemptId = attemptId ∧ changed.status = status ∧
      Wrote start disk attemptId changed

theorem keeps_updateRow (reflexive : ∀ disk, relation disk disk)
    (transitive : ∀ first second third, relation first second → relation second third →
      relation first third) (env : Env) (attemptId : String) (settlement : Settlement)
    (start : StoreData)
    (writes : ∀ disk changed, changed.status = settlement.status →
      Wrote start disk attemptId changed → relation start disk) :
    Program.Keeps relation (· = start) (updateRow env attemptId settlement)
      (Settled start attemptId settlement.status) := by
  have written : Program.Keeps relation (· = start) (onStore (update env attemptId settlement))
      fun answer => Settled start attemptId settlement.status answer.1 := by
    apply keeps_onStore
    rintro disk rfl
    rcases update_wrote env attemptId settlement disk with
      ⟨same, answered⟩ | ⟨changed, identity, status, outcome, wrote⟩
    · rw [same]
      refine ⟨reflexive disk, ?_⟩
      intro answer returned
      rw [answered answer returned]
      rfl
    · refine ⟨writes _ _ status wrote, ?_⟩
      intro answer returned
      rw [outcome] at returned
      cases returned
      exact ⟨identity, status, wrote⟩
  apply Program.Keeps.bind transitive written
  intro answer
  exact Program.Keeps.pure reflexive fun _ settled => settled

/-- A row that has not succeeded, settled without success. -/
theorem keeps_fail (env : Env) (attemptId : String) {settlement : Settlement}
    (other : settlement.status ≠ "succeeded") :
    Program.Keeps SameSuccess (fun disk => ¬Succeeded disk attemptId)
      (updateRow env attemptId settlement) fun answer disk =>
        ∀ changed, answer = some changed → ¬Succeeded disk changed.attemptId := by
  apply Program.Keeps.of_start
  intro start unsettled
  refine (keeps_updateRow SameSuccess.refl SameSuccess.trans env attemptId settlement start
    ?_).weaken (fun _ same => same) ?_
  · intro disk changed status wrote
    exact wrote.sameSuccess unsettled (by rw [status]; exact other)
  · rintro _ disk settled changed rfl
    obtain ⟨identity, status, wrote⟩ := settled
    have found : disk.attempts.get? changed.attemptId = some changed := by
      rw [wrote, identity, if_pos rfl]
    exact not_succeeded found (by rw [status]; exact other)

/-- The same with the answer dropped. -/
theorem keeps_fail_unit (env : Env) (attemptId : String) {settlement : Settlement}
    (other : settlement.status ≠ "succeeded") :
    Program.Keeps SameSuccess (fun disk => ¬Succeeded disk attemptId)
      (do let _ ← updateRow env attemptId settlement; return ()) fun _ _ => True := by
  apply Program.Keeps.bind SameSuccess.trans (keeps_fail env attemptId other)
  intro answer
  exact Program.Keeps.pure SameSuccess.refl fun _ _ => trivial

theorem keeps_emitAttemptFailure (env : Env) (surroundings : Surroundings) (row : TaskAttempt)
    (reason : String) :
    Program.Keeps SameSuccess (fun disk => ¬Succeeded disk row.attemptId)
      (emitAttemptFailure env surroundings row reason) fun _ _ => True := by
  apply Program.Keeps.ite
  · intro _
    exact Program.Keeps.pure SameSuccess.refl fun _ _ => trivial
  · intro _
    exact keeps_fail_unit env row.attemptId (by simp [burial])

end Guarantees

/-! ## Results -/

/-- What is known after a settlement found from the rows. -/
def SettledFrom (start : StoreData) (answer : Option TaskAttempt) (disk : StoreData) : Prop :=
  match answer with
  | none => disk = start
  | some changed => Wrote start disk changed.attemptId changed

theorem keeps_settleRow (env : Env) (attemptId : String) (settlement : Settlement)
    (unsettled : ¬Succeeded start attemptId) :
    Program.Keeps SuccessKept (· = start) (settleRow env attemptId settlement)
      (SettledFrom start) := by
  have writes : ∀ disk changed, changed.status = settlement.status →
      Wrote start disk attemptId changed → SuccessKept start disk :=
    fun disk changed _ wrote => wrote.kept fun held => absurd held unsettled
  apply Program.Keeps.bind SuccessKept.trans
    (keeps_updateRow SuccessKept.refl SuccessKept.trans env attemptId settlement start writes)
  intro answer
  cases answer with
  | none => exact Program.Keeps.pure SuccessKept.refl fun _ same => same
  | some changed =>
      apply Program.Keeps.of_start
      intro written settled
      obtain ⟨identity, _, wrote⟩ := settled
      apply Program.Keeps.bind SuccessKept.trans
        (keeps_rows SuccessKept.refl SuccessKept.trans env written)
      intro attemptRows
      apply Program.Keeps.pure SuccessKept.refl
      rintro disk ⟨rfl, _⟩
      change Wrote start disk changed.attemptId changed
      rw [identity]
      exact wrote

theorem foldl_mem {α : Type} (choose : α → α → α)
    (picks : ∀ first second, choose first second = first ∨ choose first second = second)
    (first : α) (rest : List α) : rest.foldl choose first ∈ first :: rest := by
  induction rest generalizing first with
  | nil => exact List.mem_cons_self
  | cons next rest ih =>
      rcases picks first next with left | right
      · have member := ih (choose first next)
        rw [List.foldl_cons]
        rw [left] at member ⊢
        exact List.mem_cons.mpr ((List.mem_cons.mp member).imp_right (List.mem_cons_of_mem next))
      · have member := ih (choose first next)
        rw [List.foldl_cons]
        rw [right] at member ⊢
        exact List.mem_cons_of_mem first member

theorem newest_mem (found : newest attemptRows = some row) : row ∈ attemptRows := by
  cases attemptRows with
  | nil => cases found
  | cons first rest =>
      rw [← Option.some.inj found]
      apply foldl_mem
      intro best next
      split
      · exact Or.inr rfl
      · exact Or.inl rfl

theorem admittedCandidates_subset {taskId operationId runId : String} {dispatches : List String}
    (member : row ∈ admittedCandidates attemptRows taskId operationId runId dispatches) :
    row ∈ attemptRows := by
  unfold admittedCandidates at member
  dsimp only at member
  split at member
  · exact (List.mem_filter.mp member).1
  · exact (List.mem_filter.mp (List.mem_filter.mp member).1).1

theorem not_succeeded_of_active {status : String} (active : status ∈ activeStatuses) :
    status ≠ "succeeded" := by
  rintro rfl
  exact absurd active (by decide)

theorem keeps_knownRows (env : Env) (attemptRows : Option (List TaskAttempt))
    (mirrors : ∀ given, attemptRows = some given → Mirrors given start) :
    Program.Keeps SuccessKept (· = start) (knownRows env attemptRows) fun known disk =>
      disk = start ∧ Mirrors known start := by
  cases attemptRows with
  | none => exact keeps_rows SuccessKept.refl SuccessKept.trans env start
  | some given =>
      apply Program.Keeps.pure SuccessKept.refl
      rintro disk rfl
      exact ⟨rfl, mirrors given rfl⟩

theorem keeps_settleAdmitted (env : Env) (surroundings : Surroundings)
    (attemptRows : Option (List TaskAttempt)) (event : ZfEvent)
    (mirrors : ∀ given, attemptRows = some given → Mirrors given start) :
    Program.Keeps SuccessKept (· = start)
      (settleAdmittedOperationAttempt env surroundings attemptRows event)
      (SettledFrom start) := by
  have idle : Program.Keeps SuccessKept (· = start) (pure none : StoreProgram _)
      (SettledFrom start) := Program.Keeps.pure SuccessKept.refl fun _ same => same
  unfold settleAdmittedOperationAttempt
  dsimp only
  split
  · exact idle
  cases eventById surroundings.log (strippedAt (event.body.get "admitted_call_result_ref").objectOrEmpty
      "source_event_id") with
  | none => exact idle
  | some source =>
      dsimp only
      split
      · exact idle
      apply Program.Keeps.bind SuccessKept.trans (keeps_knownRows env attemptRows mirrors)
      intro known
      apply Program.Keeps.of_start
      rintro disk ⟨rfl, mirrored⟩
      split
      · exact idle
      rename_i current chosen
      have held := mirrored current (admittedCandidates_subset (newest_mem chosen))
      apply Program.Keeps.ite
      · intro _
        exact idle
      · intro writable
        apply keeps_settleRow
        apply not_succeeded held
        rw [not_and_or, not_not, not_not] at writable
        rcases writable with active | ⟨_, lapsed, _⟩
        · exact not_succeeded_of_active active
        · intro succeeded
          rw [succeeded] at lapsed
          exact absurd lapsed (by decide)

theorem keeps_settleTerminal (env : Env) (surroundings : Surroundings)
    (attemptRows : Option (List TaskAttempt)) (event : ZfEvent)
    (mirrors : ∀ given, attemptRows = some given → Mirrors given start) :
    Program.Keeps SuccessKept (· = start)
      (settleTerminalOperationAttempt env surroundings attemptRows event)
      (SettledFrom start) := by
  have idle : Program.Keeps SuccessKept (· = start) (pure none : StoreProgram _)
      (SettledFrom start) := Program.Keeps.pure SuccessKept.refl fun _ same => same
  apply Program.Keeps.ite
  · intro _
    exact keeps_settleAdmitted env surroundings attemptRows event mirrors
  intro _
  apply Program.Keeps.ite
  · intro _
    exact idle
  intro _
  apply Program.Keeps.bind SuccessKept.trans (keeps_knownRows env attemptRows mirrors)
  intro known
  apply Program.Keeps.of_start
  rintro disk ⟨rfl, mirrored⟩
  split
  · exact idle
  rename_i current chosen
  have member := List.mem_filter.mp (newest_mem chosen)
  have active : current.Active := by
    have tested := member.2
    simp only [Bool.and_eq_true, decide_eq_true_eq] at tested
    exact tested.2
  apply keeps_settleRow
  exact not_succeeded (mirrored current member.1) (not_succeeded_of_active active)

/-! ## The runtime calls -/

theorem selectUnambiguous_mem {found : List TaskAttempt}
    (selected : selectUnambiguous found = some row) : row ∈ found := by
  unfold selectUnambiguous at selected
  split at selected
  · rename_i only filtered
    cases selected
    have member : row ∈ found.filter fun row => decide row.Active := by
      rw [filtered]
      exact List.mem_cons_self
    exact (List.mem_filter.mp member).1
  · cases selected
  · split at selected
    · cases selected
      exact List.mem_cons_self
    · cases selected

/-- The row that an event is resolved to is the one the file holds under its id. -/
def Resolved (start : StoreData) (answer : Option TaskAttempt) (disk : StoreData) : Prop :=
  disk = start ∧ ∀ current, answer = some current →
    start.attempts.get? current.attemptId = some current

theorem keeps_currentForTask (env : Env) (taskId : String) (start : StoreData) :
    Program.Keeps SuccessKept (· = start) (currentForTask env taskId) (Resolved start) := by
  apply Program.Keeps.ite
  · intro _
    apply Program.Keeps.pure SuccessKept.refl
    rintro disk rfl
    exact ⟨rfl, fun current impossible => nomatch impossible⟩
  intro _
  apply Program.Keeps.bind SuccessKept.trans (keeps_load SuccessKept.refl env start)
  intro data
  apply Program.Keeps.pure SuccessKept.refl
  rintro disk ⟨rfl, same, valid⟩
  refine ⟨rfl, ?_⟩
  intro current selected
  have member := (List.mem_filter.mp (selectUnambiguous_mem selected)).1
  obtain ⟨attemptId, _, found⟩ := List.mem_filterMap.mp member
  rw [same] at found
  rw [(valid.rows _ _ found).keyed, found]

theorem keeps_currentForAttempt (env : Env) (taskId attemptId : String) (start : StoreData) :
    Program.Keeps SuccessKept (· = start) (currentForAttempt env taskId attemptId)
      (Resolved start) := by
  have nothing : Resolved start none start := ⟨rfl, fun current impossible => nomatch impossible⟩
  apply Program.Keeps.ite
  · intro _
    apply Program.Keeps.pure SuccessKept.refl
    rintro disk rfl
    exact nothing
  intro _
  apply Program.Keeps.bind SuccessKept.trans (keeps_load SuccessKept.refl env start)
  intro data
  split
  · apply Program.Keeps.pure SuccessKept.refl
    rintro disk ⟨rfl, _⟩
    exact nothing
  apply Program.Keeps.ite
  · intro _
    apply Program.Keeps.pure SuccessKept.refl
    rintro disk ⟨rfl, _⟩
    exact nothing
  intro _
  apply Program.Keeps.pure SuccessKept.refl
  rintro disk ⟨rfl, same, valid⟩
  refine ⟨rfl, ?_⟩
  intro current found
  rw [same] at found
  rw [(valid.rows _ _ found).keyed, found]

theorem keeps_resolve (env : Env) (event : ZfEvent) (start : StoreData) :
    Program.Keeps SuccessKept (· = start) (resolveEventAttempt env event) (Resolved start) := by
  apply Program.Keeps.ite
  · intro _
    exact keeps_currentForAttempt env _ _ start
  · intro _
    exact keeps_currentForTask env _ start

/-- A program that keeps every success, whatever the file holds. -/
abbrev KeepsSuccess {α : Type} (program : StoreProgram α) : Prop :=
  Program.Keeps SuccessKept (fun _ => True) program fun _ _ => True

theorem keepsSuccess_pure {α : Type} (answer : α) {before : StoreData → Prop} :
    Program.Keeps SuccessKept before (pure answer : StoreProgram α) fun _ _ => True :=
  Program.Keeps.pure SuccessKept.refl fun _ _ => trivial

theorem keepsSuccess_settle (env : Env) (surroundings : Surroundings) (event : ZfEvent) :
    KeepsSuccess (settleTaskAttemptResult env surroundings event) := by
  apply Program.Keeps.ite
  · intro _
    exact keepsSuccess_pure _
  intro _
  apply Program.Keeps.of_start
  intro start _
  apply Program.Keeps.ite
  · intro _
    apply Program.Keeps.bind SuccessKept.trans
      (keeps_settleTerminal env surroundings none event fun _ impossible => nomatch impossible)
    intro answer
    exact keepsSuccess_pure _
  intro _
  apply Program.Keeps.ite
  · intro _
    exact keepsSuccess_pure _
  intro _
  apply Program.Keeps.ite
  · intro _
    exact keepsSuccess_pure _
  intro _
  apply Program.Keeps.bind SuccessKept.trans (keeps_resolve env event start)
  intro answer
  cases answer with
  | none => exact keepsSuccess_pure _
  | some current =>
      apply Program.Keeps.ite
      · intro _
        exact keepsSuccess_pure _
      intro writable
      apply Program.Keeps.of_start
      rintro disk ⟨rfl, resolved⟩
      have active : current.Active := by
        by_contra idle
        exact writable (Or.inl idle)
      apply Program.Keeps.bind SuccessKept.trans
        (keeps_settleRow env current.attemptId _
          (not_succeeded (resolved current rfl) (not_succeeded_of_active active)))
      intro written
      exact keepsSuccess_pure _

/-- A single-row operation that takes no success away. -/
theorem keepsSuccess_rewrite (env : Env) (attemptId : String)
    {rewrite : TaskAttempt → Option TaskAttempt}
    (holds : ∀ row changed, rewrite row = some changed → row.status = "succeeded" →
      changed.status = "succeeded") :
    KeepsSuccess (onStore (rewriteAttempt env attemptId rewrite)) := by
  apply keeps_onStore
  intro disk _
  refine ⟨?_, fun _ _ => trivial⟩
  rcases rewriteAttempt_wrote env attemptId rewrite disk with
    ⟨same, _⟩ | ⟨row, changed, found, _, rewritten, _, wrote⟩
  · rw [same]
    exact SuccessKept.refl disk
  · apply wrote.kept
    rintro ⟨held, present, succeeded⟩
    rw [found] at present
    cases present
    exact holds row changed rewritten succeeded

theorem keepsSuccess_renew (env : Env) (surroundings : Surroundings) (event : ZfEvent) :
    KeepsSuccess (renewTaskAttemptLease env surroundings event) := by
  apply Program.Keeps.ite
  · intro _
    exact keepsSuccess_pure _
  intro _
  apply Program.Keeps.of_start
  intro start _
  apply Program.Keeps.bind SuccessKept.trans (keeps_resolve env event start)
  intro answer
  cases answer with
  | none => exact keepsSuccess_pure _
  | some current =>
      refine Program.Keeps.weaken ?_ (fun _ _ => (trivial : True)) fun _ _ holds => holds
      apply Program.Keeps.ite
      · intro _
        exact keepsSuccess_pure _
      intro _
      apply Program.Keeps.ite
      · intro _
        exact keepsSuccess_pure _
      intro _
      apply Program.Keeps.bind SuccessKept.trans
        (keepsSuccess_rewrite env current.attemptId _)
      · intro answer
        exact keepsSuccess_pure _
      · intro row changed rewritten succeeded
        by_cases active : row.status ∈ activeStatuses
        · exact absurd succeeded (not_succeeded_of_active active)
        · rw [if_pos active] at rewritten
          cases rewritten

theorem keepsSuccess_markSent (env : Env) (surroundings : Surroundings)
    (prepared : Option PreparedTaskAttempt) :
    KeepsSuccess (markTaskAttemptSent env surroundings prepared) := by
  cases prepared with
  | none => exact keepsSuccess_pure _
  | some prepared =>
      apply Program.Keeps.bind SuccessKept.trans
        (keepsSuccess_rewrite env prepared.attempt.attemptId _)
      · intro answer
        exact keepsSuccess_pure _
      · intro row changed rewritten succeeded
        rw [if_pos (by rw [succeeded]; decide)] at rewritten
        cases rewritten

theorem superseding_succeeded {scope operationId updatedAt rowId : String}
    (succeeded : row.status = "succeeded") :
    superseding disk scope operationId attemptId updatedAt rowId row = row := by
  unfold superseding
  dsimp only
  rw [if_neg]
  rintro ⟨_, _, active | ⟨_, open_⟩⟩
  · exact not_succeeded_of_active active succeeded
  · rw [succeeded] at open_
    exact absurd open_ (by decide)

theorem ensureForDispatch_kept (env : Env) (dispatch : Dispatch) (disk : StoreData) :
    SuccessKept disk (ensureForDispatch env dispatch disk).2 := by
  rcases ensureForDispatch_cases env dispatch disk with ⟨same, _⟩ | ⟨identity, creates⟩
  · rw [same]
    exact SuccessKept.refl disk
  · rw [creates.file]
    rintro attemptId ⟨row, found, succeeded⟩
    have fresh : attemptId ≠ identity.attemptId := by
      rintro rfl
      rw [creates.fresh] at found
      cases found
    refine ⟨row, ?_, succeeded⟩
    simp only [saveUnlocked, Dict.get?_sortKeys]
    rw [Dict.get?_insert_ne _ _ fresh, supersedePrior_get?, found, Option.map_some,
      superseding_succeeded succeeded]

theorem keepsSuccess_prepare (env : Env) (surroundings : Surroundings)
    (context : Option DispatchContext) (briefingPath : String) :
    KeepsSuccess (prepareTaskAttempt env surroundings context briefingPath) := by
  cases context with
  | none => exact keepsSuccess_pure _
  | some context =>
      apply Program.Keeps.ite
      · intro _
        exact keepsSuccess_pure _
      intro _
      have ensured : KeepsSuccess (onStore (ensureForDispatch env (attemptDispatch env surroundings
          context (context.taskId.getD "") (PyString.strip (context.dispatchId.getD ""))
          briefingPath))) :=
        keeps_onStore fun disk _ => ⟨ensureForDispatch_kept env _ disk, fun _ _ => trivial⟩
      apply Program.Keeps.bind SuccessKept.trans ensured
      intro answer
      have looked : KeepsSuccess (supersededRow env answer.supersededAttemptId) := by
        apply Program.Keeps.ite
        · intro _
          exact keepsSuccess_pure _
        · intro _
          apply Program.Keeps.of_start
          intro start _
          apply Program.Keeps.bind SuccessKept.trans (keeps_load SuccessKept.refl env start)
          intro data
          exact keepsSuccess_pure _
      apply Program.Keeps.bind SuccessKept.trans looked
      intro superseded
      have claimed : KeepsSuccess (onStore (claimDelivery env answer.attempt.attemptId
          surroundings.now)) := by
        apply keepsSuccess_rewrite
        intro row changed rewritten succeeded
        rw [if_pos (by rw [succeeded]; decide)] at rewritten
        cases rewritten
      apply Program.Keeps.bind SuccessKept.trans claimed
      intro claim
      apply Program.Keeps.ite
      · intro _
        exact keepsSuccess_pure _
      · intro _
        exact Program.Keeps.throw SuccessKept.refl

theorem Mirrors.follow (mirrored : Mirrors attemptRows start)
    (wrote : Wrote start disk changed.attemptId changed) :
    Mirrors (attemptRows.map fun other =>
      if other.attemptId = changed.attemptId then changed else other) disk := by
  intro row member
  obtain ⟨other, listed, rfl⟩ := List.mem_map.mp member
  by_cases same : other.attemptId = changed.attemptId
  · rw [if_pos same, wrote, if_pos rfl]
  · rw [if_neg same, wrote, if_neg same]
    exact mirrored other listed

theorem keeps_settleLogged (env : Env) (surroundings : Surroundings)
    (attemptRows : List TaskAttempt) (event : ZfEvent) :
    Program.Keeps SuccessKept (Mirrors attemptRows)
      (settleLogged env surroundings attemptRows event) Mirrors := by
  apply Program.Keeps.ite
  · intro _
    apply Program.Keeps.of_start
    intro start mirrored
    apply Program.Keeps.bind SuccessKept.trans
      (keeps_settleTerminal env surroundings (some attemptRows) event fun given same => by
        cases same
        exact mirrored)
    intro answer
    cases answer with
    | none =>
        apply Program.Keeps.pure SuccessKept.refl
        rintro disk rfl
        exact mirrored
    | some changed =>
        apply Program.Keeps.pure SuccessKept.refl
        intro disk wrote
        exact mirrored.follow wrote
  · intro _
    exact Program.Keeps.pure SuccessKept.refl fun _ mirrored => mirrored

/-- None of the listed attempts that are due has succeeded. -/
def NoneSucceeded (due : TaskAttempt → Prop) (attemptRows : List TaskAttempt)
    (disk : StoreData) : Prop :=
  ∀ row ∈ attemptRows, due row → ¬Succeeded disk row.attemptId

theorem NoneSucceeded.stable {due : TaskAttempt → Prop}
    (first second : StoreData) (same : SameSuccess first second)
    (none : NoneSucceeded due attemptRows first) : NoneSucceeded due attemptRows second :=
  fun row member isDue succeeded => none row member isDue ((same row.attemptId).mpr succeeded)

/-- A loop over attempts of which none that is due has succeeded, each round of
which leaves the successes as they are. -/
theorem keeps_rounds {body : Unit → TaskAttempt → StoreProgram Unit}
    {due : TaskAttempt → Prop} (attemptRows : List TaskAttempt)
    (round : ∀ row, Program.Keeps SameSuccess
      (fun disk => due row → ¬Succeeded disk row.attemptId) (body () row) fun _ _ => True) :
    Program.Keeps SameSuccess (NoneSucceeded due attemptRows) (attemptRows.foldlM body ())
      fun _ => NoneSucceeded due attemptRows := by
  apply Program.Keeps.foldlM SameSuccess.refl SameSuccess.trans
    (fun _ => NoneSucceeded due attemptRows)
  intro memo row member
  exact ((round row).frame NoneSucceeded.stable).weaken
    (fun disk none => ⟨none row member, none⟩) fun _ _ holds => holds.2

theorem keeps_markExpired (env : Env) (surroundings : Surroundings) (row : TaskAttempt) :
    Program.Keeps SameSuccess (fun disk => True → ¬Succeeded disk row.attemptId)
      (markExpiredTaskPipelineAttempt env surroundings () row) fun _ _ => True := by
  apply Program.Keeps.ite
  · intro _
    exact (keeps_fail_unit env row.attemptId (by simp [expiredMark])).weaken
      (fun _ unsettled => unsettled trivial) fun _ _ holds => holds
  · intro _
    exact Program.Keeps.pure SameSuccess.refl fun _ _ => trivial

theorem keeps_reconcileExpired (env : Env) (surroundings : Surroundings) (row : TaskAttempt) :
    Program.Keeps SameSuccess
      (fun disk => row.status = "expired" → ¬Succeeded disk row.attemptId)
      (reconcileExpired env surroundings () row) fun _ _ => True := by
  apply Program.Keeps.ite
  · intro _
    exact Program.Keeps.pure SameSuccess.refl fun _ _ => trivial
  intro lapsed
  have expired : row.status = "expired" := by
    by_contra other
    exact lapsed (Or.inr other)
  have reported : Program.Keeps SameSuccess
      (fun disk => row.status = "expired" → ¬Succeeded disk row.attemptId)
      (emitAttemptFailure env surroundings row "lease_expired")
      fun _ disk => ¬Succeeded disk row.attemptId := by
    have stable (first second : StoreData) (same : SameSuccess first second)
        (open_ : ¬Succeeded first row.attemptId) : ¬Succeeded second row.attemptId :=
      fun succeeded => open_ ((same row.attemptId).mpr succeeded)
    exact ((keeps_emitAttemptFailure env surroundings row "lease_expired").frame stable).weaken
      (fun disk open_ => ⟨open_ expired, open_ expired⟩) fun _ _ holds => holds.2
  apply Program.Keeps.bind SameSuccess.trans reported
  intro _
  apply Program.Keeps.ite
  · intro _
    exact keeps_fail_unit env row.attemptId (by simp [shadowFailure])
  · intro _
    exact Program.Keeps.pure SameSuccess.refl fun _ _ => trivial

theorem keeps_expire (env : Env) (nowIso : String) (isExpired : String → Bool) :
    Program.Keeps SuccessKept (fun _ => True) (onStore (expire env nowIso isExpired))
      (NoneSucceeded fun _ => True) := by
  apply keeps_onStore
  intro disk _
  cases loaded : loadUnlocked env disk with
  | error error =>
      simp only [expire, loaded]
      exact ⟨SuccessKept.refl disk, fun answer impossible => nomatch impossible⟩
  | ok data =>
      have valid := (readable_iff env disk).mp ⟨data, loaded⟩
      have loadedEq := loadUnlocked_ok loaded
      subst loadedEq
      simp only [expire, loaded]
      split
      · refine ⟨SuccessKept.refl disk, ?_⟩
        rintro _ ⟨⟩ row member
        cases member
      · constructor
        · rintro attemptId ⟨row, found, succeeded⟩
          refine ⟨row, ?_, succeeded⟩
          have quiet : leaseLapsed isExpired row = false := by
            rw [leaseLapsed, Bool.and_eq_false_iff]
            exact Or.inl (decide_eq_false fun active => not_succeeded_of_active active succeeded)
          simp only [saveUnlocked, Dict.get?_sortKeys, Dict.get?_mapValues, found,
            Option.map_some, quiet, Bool.false_eq_true, if_false]
        · rintro _ ⟨⟩ expired member _
          obtain ⟨row, listed, rfl⟩ := List.mem_map.mp member
          obtain ⟨held, lapsed⟩ := List.mem_filter.mp listed
          obtain ⟨attemptId, found⟩ := (disk.attempts.mem_values_iff row).mp held
          have keyed : row.attemptId = attemptId := (valid.rows _ _ found).keyed
          subst keyed
          refine not_succeeded ?_ (by simp [expireRow] : (expireRow nowIso row).status ≠ "succeeded")
          simp only [saveUnlocked, Dict.get?_sortKeys, Dict.get?_mapValues,
            show (expireRow nowIso row).attemptId = row.attemptId from rfl, found,
            Option.map_some, lapsed, if_true]

theorem keepsSuccess_reconcile (env : Env) (surroundings : Surroundings) :
    KeepsSuccess (reconcileTaskAttempts env surroundings) := by
  apply Program.Keeps.of_start
  intro start _
  apply Program.Keeps.bind SuccessKept.trans
    (keeps_rows SuccessKept.refl SuccessKept.trans env start)
  intro attemptRows
  have logged : Program.Keeps SuccessKept (Mirrors attemptRows)
      (surroundings.log.foldlM (settleLogged env surroundings) attemptRows) Mirrors :=
    Program.Keeps.foldlM SuccessKept.refl SuccessKept.trans Mirrors
      (fun memo event _ => keeps_settleLogged env surroundings memo event) attemptRows
  have mirrored (disk : StoreData) (same : disk = start ∧ Mirrors attemptRows start) :
      Mirrors attemptRows disk := by
    obtain ⟨rfl, mirrors⟩ := same
    exact mirrors
  apply Program.Keeps.bind SuccessKept.trans (logged.weaken mirrored fun _ _ holds => holds)
  intro followed
  apply Program.Keeps.bind SuccessKept.trans
    ((keeps_expire env surroundings.now surroundings.isExpired).weaken
      (fun _ _ => trivial) fun _ _ holds => holds)
  intro expired
  apply Program.Keeps.bind SuccessKept.trans
    ((keeps_rounds expired (keeps_markExpired env surroundings)).relax SameSuccess.kept)
  intro _
  apply Program.Keeps.of_start
  intro marked _
  apply Program.Keeps.bind SuccessKept.trans
    (keeps_rows SuccessKept.refl SuccessKept.trans env marked)
  intro remaining
  refine ((keeps_rounds remaining (keeps_reconcileExpired env surroundings)).relax
    SameSuccess.kept).weaken ?_ fun _ _ _ => trivial
  rintro disk ⟨rfl, mirrored⟩ row member expired
  exact not_succeeded (mirrored row member) (by rw [expired]; decide)

/-- On a file that loads, the settlement of a row that it holds is written and returned. -/
theorem updateRow_found {env : Env} (readable : Readable env disk)
    (found : disk.attempts.get? attemptId = some row)
    (settlement : Settlement) :
    ∃ changed second, (updateRow env attemptId settlement).exec disk = (.ok (some changed), second) ∧
      changed.attemptId = attemptId ∧ changed.status = settlement.status ∧
      Wrote disk second attemptId changed := by
  rcases update_wrote env attemptId settlement disk with
    ⟨_, answered⟩ | ⟨changed, identity, status, outcome, wrote⟩
  · exfalso
    obtain ⟨changed, returned⟩ : ∃ changed, (update env attemptId settlement disk).1 =
        .ok (some changed, true) := by
      simp only [update, rewriteAttempt, readable.load, found]
      exact ⟨_, rfl⟩
    cases answered _ returned
  · refine ⟨changed, _, ?_, identity, status, wrote⟩
    rw [updateRow, Program.exec_bind, onStore, Program.exec_of, outcome]
    rfl

/-- A failed delivery of an attempt that has not succeeded leaves the successes as they are. -/
theorem keeps_failDelivery (env : Env) (surroundings : Surroundings)
    (prepared : PreparedTaskAttempt) (error : TransportError) :
    Program.Keeps SameSuccess (fun disk => ¬Succeeded disk prepared.attempt.attemptId)
      (failTaskAttemptDelivery env surroundings (some prepared) error) fun _ _ => True := by
  apply Program.Keeps.bind SameSuccess.trans
    (keeps_fail env prepared.attempt.attemptId (by simp [deliveryFailure]))
  intro answer
  cases answer with
  | none => exact Program.Keeps.pure SameSuccess.refl fun _ _ => trivial
  | some changed =>
      exact (keeps_emitAttemptFailure env surroundings changed _).weaken
        (fun disk unsettled => unsettled changed rfl) fun _ _ holds => holds

/-- The report of a failed delivery takes the success of its attempt away. -/
theorem failed_not_succeeded (env : Env) (surroundings : Surroundings)
    (prepared : PreparedTaskAttempt) (error : TransportError)
    (readable : Readable env disk) (held : Succeeded disk prepared.attempt.attemptId) :
    ¬Succeeded ((failTaskAttemptDelivery env surroundings (some prepared) error).exec disk).2
      prepared.attempt.attemptId := by
  obtain ⟨row, found, _⟩ := held
  obtain ⟨changed, second, outcome, identity, status, wrote⟩ :=
    updateRow_found readable found (deliveryFailure surroundings error)
  have failed : ¬Succeeded second prepared.attempt.attemptId := by
    have written : second.attempts.get? prepared.attempt.attemptId = some changed := by
      rw [wrote, if_pos rfl]
    exact not_succeeded written (by rw [status]; simp [deliveryFailure])
  rw [failTaskAttemptDelivery, Program.exec_bind, outcome]
  have same := (keeps_emitAttemptFailure env surroundings changed (clipped error.message) second
    (by rw [identity]; exact failed)).1
  exact fun succeeded => failed ((same _).mpr succeeded)

/-- On a file that does not load, nothing is written. -/
theorem failed_unreadable (env : Env) (surroundings : Surroundings)
    (prepared : PreparedTaskAttempt) (error : TransportError)
    (unreadable : ¬Readable env disk) :
    ((failTaskAttemptDelivery env surroundings (some prepared) error).exec disk).2 = disk := by
  cases loaded : loadUnlocked env disk with
  | ok data => exact absurd ⟨data, loaded⟩ unreadable
  | error reason =>
      rw [failTaskAttemptDelivery, Program.exec_bind, updateRow, Program.exec_bind, onStore,
        Program.exec_of, update, rewriteAttempt, loaded]
      rfl

/-! ## Runs -/

/-- The run of the runtime from a store and no attempt handed out. -/
def worldAfter (env : Env) (disk : StoreData) (calls : List Call) : World :=
  Runs.run (World.call env) ⟨disk, []⟩ calls

/-- A call that does not report the failed delivery of an attempt whose row, in a
file that loads, has succeeded. -/
def SparesSuccess (env : Env) (world : World) (call : Call) : Prop :=
  match call with
  | .failDelivery _ index _ => ∀ prepared, world.handed[index]? = some prepared →
      Readable env world.disk → ¬Succeeded world.disk prepared.attempt.attemptId
  | _ => True

theorem call_kept_iff (env : Env) (world : World) (call : Call) :
    SuccessKept world.disk (world.call env call).disk ↔ SparesSuccess env world call := by
  have kept {program : StoreProgram Unit} (keeps : KeepsSuccess program) :
      SuccessKept world.disk (world.after program).disk := (keeps world.disk trivial).1
  cases call with
  | prepare surroundings context briefingPath =>
      exact iff_of_true
        (keepsSuccess_prepare env surroundings context briefingPath world.disk trivial).1 trivial
  | markSent surroundings index =>
      exact iff_of_true (kept (keepsSuccess_markSent env surroundings _)) trivial
  | settle surroundings event =>
      exact iff_of_true (kept (keepsSuccess_settle env surroundings event)) trivial
  | renewLease surroundings event =>
      exact iff_of_true (kept (keepsSuccess_renew env surroundings event)) trivial
  | reconcile surroundings =>
      exact iff_of_true (kept (keepsSuccess_reconcile env surroundings)) trivial
  | failDelivery surroundings index error =>
      simp only [World.call, World.after, SparesSuccess]
      cases handed : world.handed[index]? with
      | none =>
          refine iff_of_true (SuccessKept.refl world.disk) ?_
          intro prepared impossible
          cases impossible
      | some prepared =>
          constructor
          · rintro keeps _ ⟨⟩ readable held
            exact failed_not_succeeded env surroundings prepared error readable held
              (keeps _ held)
          · intro spares
            by_cases readable : Readable env world.disk
            · exact SameSuccess.kept _ _
                (keeps_failDelivery env surroundings prepared error world.disk
                  (spares prepared rfl readable)).1
            · rw [failed_unreadable env surroundings prepared error readable]
              exact SuccessKept.refl world.disk

/-- Along a run of any calls, success is final exactly when no call reports the
failed delivery of an attempt that has succeeded. -/
theorem success_final_iff (env : Env) (disk : StoreData) (calls : List Call) :
    (∀ before later after, calls = before ++ later ++ after →
      SuccessKept (worldAfter env disk before).disk
        (worldAfter env disk (before ++ later)).disk) ↔
    Runs.Along (World.call env) (SparesSuccess env) ⟨disk, []⟩ calls := by
  constructor
  · intro final
    by_contra stopped
    obtain ⟨before, call, after, rfl, _, refused⟩ := Runs.exists_of_not_along stopped
    apply refused
    apply (call_kept_iff env _ call).mp
    have kept := final before [call] after (by simp)
    unfold worldAfter at kept
    rw [Runs.run_append] at kept
    exact kept
  · rintro along before later after rfl
    have reached := ((Runs.along_append _ _ _).mp along.initial).2
    unfold worldAfter
    rw [Runs.run_append]
    generalize Runs.run (World.call env) ⟨disk, []⟩ before = world at reached ⊢
    clear along
    induction later generalizing world with
    | nil => exact SuccessKept.refl world.disk
    | cons call rest ih =>
        apply SuccessKept.trans _ _ _ ((call_kept_iff env world call).mpr reached.1)
        exact ih _ reached.2

def calmSurroundings : Surroundings where
  policy := ⟨"enforce", 3⟩
  log := []
  taskStore := fun _ => none
  sessionRunId := ""
  now := "t1"
  leaseExpiry := "t9"
  isExpired := fun _ => false
  notAfter := fun _ _ => true

def deliveryContext : DispatchContext where
  runId := some "R1"
  taskId := some "T1"
  roleName := some "dev"
  instanceId := some "dev-1"
  dispatchId := some "d1"
  operationId := some "op-1"

/-- The result that the worker reports for the prepared attempt. -/
def buildDone : ZfEvent where
  type := "dev.build.done"
  id := "evt-1"
  ts := "t1"
  taskId := some "T1"
  payload := .obj [("workflow_run_id", .str "R1"), ("operation_id", .str "op-1"),
    ("attempt_id", .str "ta-c1eb1a4ba08a7c737f79"), ("lease_id", .str "lease-179e6f239ca09743effe"),
    ("dispatch_id", .str "d1")]

/-- The worker has reported success when the transport raises. -/
def lateFailure : List Call :=
  [.prepare calmSurroundings (some deliveryContext) "brief.md",
    .settle calmSurroundings buildDone,
    .failDelivery calmSurroundings 0 ⟨.other, "RuntimeError", "lost connection"⟩]

/-- A succeeded attempt whose transport raises afterwards ends as failed. -/
theorem late_failure_overwrites :
    ¬∀ (env : Env) (disk : StoreData) (calls before later after : List Call),
      calls = before ++ later ++ after →
        SuccessKept (worldAfter env disk before).disk
          (worldAfter env disk (before ++ later)).disk := by
  intro claimed
  have status (calls : List Call) (expected : String)
      (evaluated : ((worldAfter retryEnv StoreData.empty calls).disk.attempts.get?
        "ta-c1eb1a4ba08a7c737f79").map TaskAttempt.status = some expected) :
      ∃ row, (worldAfter retryEnv StoreData.empty calls).disk.attempts.get?
        "ta-c1eb1a4ba08a7c737f79" = some row ∧ row.status = expected :=
    Option.map_eq_some_iff.mp evaluated
  have succeeded := status (lateFailure.take 2) "succeeded" (by decide +kernel)
  obtain ⟨row, found, failed⟩ := status lateFailure "failed" (by decide +kernel)
  have kept := claimed retryEnv StoreData.empty lateFailure (lateFailure.take 2)
    (lateFailure.drop 2) [] (by simp) "ta-c1eb1a4ba08a7c737f79" succeeded
  rw [List.take_append_drop] at kept
  exact not_succeeded found (by rw [failed]; decide) kept

end ZaofuFormal.State.TaskAttemptRuntime
