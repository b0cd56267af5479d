import ZaofuFormal.Workflow.OperationReplay

/-!
# Cancellation and request hash divergence

Every terminal branch of the reducer leaves a cancelled operation alone, but
the comparison of request hashes runs before the branches.  It marks the row
as blocked whatever its status was, and the event then still runs the branch
of its own type.  The results below say exactly when a cancelled operation
stays cancelled and when a divergent event leaves its operation blocked.
-/

namespace ZaofuFormal.Workflow

open Foundation

/-- The next event addresses the operation with a hash other than the recorded one. -/
def DivergesAt (scope : Scope) (operationId : String) (log : Log) (event : ZfEvent) : Prop :=
  ∃ row ∈ rowAt scope log operationId,
    (addressed scope event).map Prod.fst = some operationId ∧ Diverges row event.body

instance (scope : Scope) (operationId : String) (log : Log) (event : ZfEvent) :
    Decidable (DivergesAt scope operationId log event) :=
  inferInstanceAs (Decidable (∃ row ∈ _, _))

/-- The next event is a redrive of the operation that the reducer accepts. -/
def RedriveAcceptedAt (scope : Scope) (operationId : String) (log : Log) (event : ZfEvent) :
    Prop :=
  addressed scope event = some (operationId, .redriveAdmitted) ∧
    ∃ row ∈ rowAt scope log operationId, AcceptsRedrive (noted row event) event.body

instance (scope : Scope) (operationId : String) (log : Log) (event : ZfEvent) :
    Decidable (RedriveAcceptedAt scope operationId log event) :=
  inferInstanceAs (Decidable (_ ∧ _))

variable {type : OperationEventType} {event : ZfEvent} {log : Log} {operationId : String}
  {scope : Scope}

/-- A cancelled row outlives every branch except an accepted redrive. -/
theorem nextStatus_cancelled {row : OperationRow} {payload : Json}
    (cancelled : row.status = .cancelled)
    (refused : type = .redriveAdmitted → ¬ AcceptsRedrive row payload) :
    nextStatus row type payload = .cancelled := by
  have terminal : OperationStatus.cancelled.Terminal := by decide
  cases type with
  | retryStarted =>
      have idle : ¬ Retries row payload := by
        intro retries
        have live := retries.1
        rw [cancelled] at live
        exact absurd live (by decide)
      rw [nextStatus, if_neg idle, cancelled]
  | redriveAdmitted => rw [nextStatus, if_neg (refused rfl), cancelled]
  | requested => exact cancelled
  | reserved | started | interrupted | cancelled => rw [nextStatus, cancelled, if_pos terminal]
  | settled | failed | blocked | superseded => rw [nextStatus, cancelled, if_pos rfl]

/-- No branch leads from a blocked row to a cancelled one. -/
theorem nextStatus_blocked_ne_cancelled {row : OperationRow}
    {payload : Json} (blocked : row.status = .blocked) :
    nextStatus row type payload ≠ .cancelled := by
  have terminal : OperationStatus.blocked.Terminal := by decide
  have active : OperationStatus.blocked ≠ .cancelled := by decide
  cases type with
  | requested =>
      rw [nextStatus, blocked]
      exact active
  | reserved | started | interrupted | cancelled =>
      rw [nextStatus, blocked, if_pos terminal]
      exact active
  | settled | failed | blocked | superseded =>
      rw [nextStatus, blocked, if_neg active]
      decide
  | retryStarted | redriveAdmitted =>
      rw [nextStatus, blocked]
      split <;> decide

theorem divergesAt_iff
    {row : OperationRow} (found : rowAt scope log operationId = some row)
    (address : addressed scope event = some (operationId, type)) :
    DivergesAt scope operationId log event ↔ Diverges row event.body := by
  simp [DivergesAt, found, address]

/-- One event leaves a cancelled operation cancelled unless it redrives it or diverges. -/
theorem cancelled_step_iff (cancelled : StatusAt scope log operationId .cancelled)
    (refused : ¬ RedriveAcceptedAt scope operationId log event)
    {next : OperationRow} (after : rowAt scope (log ++ [event]) operationId = some next) :
    next.status = .cancelled ↔ ¬ DivergesAt scope operationId log event := by
  obtain ⟨row, found, status⟩ := (statusAt_iff _ _ _ _).mp cancelled
  have moves := rowAt_step after
  rw [found] at moves
  cases moves with
  | untouched kept elsewhere =>
      cases kept
      refine ⟨fun _ diverges => ?_, fun _ => status⟩
      obtain ⟨_, _, address, _⟩ := diverges
      obtain ⟨⟨_, type⟩, target, rfl⟩ := Option.map_eq_some_iff.mp address
      exact elsewhere type target
  | admitted kept isAdmitted names =>
      cases kept
      refine ⟨fun _ diverges => ?_, fun _ => status⟩
      obtain ⟨_, _, address, _⟩ := diverges
      rw [addressed, isAdmitted, ofText?_admittedType] at address
      cases address
  | moved address applied =>
      rename_i type
      rw [divergesAt_iff found address, applyToRow_status applied, Option.getD_some]
      constructor
      · intro stays diverges
        have blocked : (noted row event).status = .blocked := by
          rw [noted_status, if_pos diverges]
        exact nextStatus_blocked_ne_cancelled blocked stays
      · intro agrees
        apply nextStatus_cancelled
        · rw [noted_status, if_neg agrees, status]
        · rintro rfl accepts
          exact refused ⟨address, row, found, accepts⟩

theorem along_not_divergesAt_of_error
    {error : ReduceError} (raised : reduceWorkflowOperations scope log = .error error)
    (later : Log) :
    Runs.Along grow (fun state event => ¬ DivergesAt scope operationId state event) log later := by
  induction later generalizing log with
  | nil => trivial
  | cons event rest ih =>
      refine ⟨?_, ih (reduce_error_append raised [event])⟩
      rintro ⟨row, found, _⟩
      have missing := rowAt_of_error raised [] operationId
      rw [List.append_nil] at missing
      rw [missing] at found
      cases found

theorem reduce_of_rowAt_append {later : Log}
    {row : OperationRow} (found : rowAt scope (log ++ later) operationId = some row) :
    ∃ operations, reduceWorkflowOperations scope log = .ok operations := by
  cases reduced : reduceWorkflowOperations scope log with
  | error error =>
      rw [rowAt_of_error reduced later operationId] at found
      cases found
  | ok operations => exact ⟨operations, rfl⟩

/-- An event that addresses a terminal row, or diverges from it, does not raise. -/
theorem rowAt_of_terminal
    {row : OperationRow} (found : rowAt scope log operationId = some row)
    (address : addressed scope event = some (operationId, type))
    (settled : (noted row event).status = .blocked ∨ (noted row event).status = .cancelled) :
    ∃ next, rowAt scope (log ++ [event]) operationId = some next := by
  obtain ⟨operations, reduced⟩ := reduce_of_rowAt found
  have quiet : type = .retryStarted → ¬ Retries (noted row event) event.body := by
    rintro _ ⟨live, _⟩
    rcases settled with blocked | cancelled
    · rw [blocked] at live
      exact absurd live (by decide)
    · rw [cancelled] at live
      exact absurd live (by decide)
  obtain ⟨moved, moves⟩ :=
    transition_succeeds fun same retries => absurd retries (quiet same)
  have applied := applyToRow_eq moves
  refine ⟨noteLast (noted row event).status type event moved,
    rowAt_of_applied reduced address ?_⟩
  rw [found, Option.getD_some, applied]

/-- Once an operation is cancelled and as long as no redrive of it is accepted,
it stays cancelled in every readable continuation of the log exactly when no
event diverges from its recorded request hash. -/
theorem cancelled_absorbing_iff {scope : Scope} {operationId : String} {before later : Log}
    (cancelled : StatusAt scope before operationId .cancelled)
    (refused : Runs.Along grow
      (fun log event => ¬ RedriveAcceptedAt scope operationId log event) before later) :
    (∀ reached, reached <+: later → ∀ row, rowAt scope (before ++ reached) operationId = some row →
        row.status = .cancelled) ↔
      Runs.Along grow (fun log event => ¬ DivergesAt scope operationId log event) before later := by
  induction later generalizing before with
  | nil =>
      refine ⟨fun _ => trivial, fun _ reached passed row found => ?_⟩
      rw [List.prefix_nil.mp passed, List.append_nil] at found
      obtain ⟨same, present, status⟩ := (statusAt_iff _ _ _ _).mp cancelled
      rw [present] at found
      cases found
      exact status
  | cons event rest ih =>
      obtain ⟨first, others⟩ := refused
      constructor
      · intro stays
        refine ⟨?_, ?_⟩
        · intro diverges
          obtain ⟨row, found, address, differs⟩ := diverges
          obtain ⟨⟨_, type⟩, target, rfl⟩ := Option.map_eq_some_iff.mp address
          have blocked : (noted row event).status = .blocked := by
            rw [noted_status, if_pos differs]
          obtain ⟨next, after⟩ := rowAt_of_terminal found target (Or.inl blocked)
          have status := stays [event] ⟨rest, rfl⟩ next after
          exact (cancelled_step_iff cancelled first after).mp status ⟨row, found, address, differs⟩
        · cases reduced : reduceWorkflowOperations scope (before ++ [event]) with
          | error error => exact along_not_divergesAt_of_error reduced rest
          | ok operations =>
              obtain ⟨row, found, _⟩ := (statusAt_iff _ _ _ _).mp cancelled
              obtain ⟨next, after⟩ := rowAt_persists found reduced
              have status := stays [event] ⟨rest, rfl⟩ next after
              apply (ih ((statusAt_iff _ _ _ _).mpr ⟨next, after, status⟩) others).mp
              rintro reached ⟨remaining, rfl⟩ row found
              apply stays (event :: reached) ⟨remaining, rfl⟩ row
              change rowAt scope ((before ++ [event]) ++ reached) operationId = some row at found
              rw [← found, List.append_assoc, List.singleton_append]
      · rintro ⟨agrees, agreeLater⟩ reached ⟨remaining, split⟩ row found
        cases reached with
        | nil =>
            rw [List.append_nil] at found
            obtain ⟨same, present, status⟩ := (statusAt_iff _ _ _ _).mp cancelled
            rw [present] at found
            cases found
            exact status
        | cons head tail =>
            obtain ⟨rfl, sameTail⟩ := List.cons.inj split
            rw [← List.singleton_append, ← List.append_assoc] at found
            obtain ⟨operations, reduced⟩ := reduce_of_rowAt_append found
            obtain ⟨old, present, _⟩ := (statusAt_iff _ _ _ _).mp cancelled
            obtain ⟨next, after⟩ := rowAt_persists present reduced
            have status := (cancelled_step_iff cancelled first after).mpr agrees
            exact (ih ((statusAt_iff _ _ _ _).mpr ⟨next, after, status⟩) others).mpr agreeLater
              tail ⟨remaining, sameTail⟩ row found

/-- An event of the operation `op-1` with a request hash and further fields. -/
def sampleEvent (type : OperationEventType) (requestHash : String)
    (further : List (String × Json)) : ZfEvent where
  type := type.text
  id := "evt-" ++ type.text
  ts := "2026-07-09T08:00:00+00:00"
  payload := .obj
    ([("operation_id", .str "op-1"), ("request_hash", .str requestHash)] ++ further)

/-- An operation that was requested and then cancelled. -/
def cancelledLog : Log :=
  [sampleEvent .requested "h1" [], sampleEvent .cancelled "h1" [("reason", .str "operator")]]

theorem late_settlement_ignored :
    StatusAt {} (cancelledLog ++ [sampleEvent .settled "h1" []]) "op-1" .cancelled := by
  have cancelled : StatusAt {} cancelledLog "op-1" .cancelled := by decide +kernel
  have refused : Runs.Along grow (fun log event => ¬ RedriveAcceptedAt {} "op-1" log event)
      cancelledLog [sampleEvent .settled "h1" []] := by
    decide +kernel
  have stays := (cancelled_absorbing_iff cancelled refused).mpr (by decide +kernel)
  obtain ⟨row, found⟩ : ∃ row, rowAt {} (cancelledLog ++ [sampleEvent .settled "h1" []]) "op-1" =
      some row :=
    Option.isSome_iff_exists.mp (by decide +kernel)
  exact (statusAt_iff _ _ _ _).mpr ⟨row, found, stays _ (List.prefix_refl _) row found⟩

/-- A blocked event with another request hash, as a diverging request emits it,
brings a cancelled operation back as blocked. -/
theorem divergence_uncancels :
    ∃ before later : Log, StatusAt {} before "op-1" .cancelled ∧
      Runs.Along grow (fun log event => ¬ RedriveAcceptedAt {} "op-1" log event) before later ∧
      ¬ ∀ reached, reached <+: later → ∀ row,
        rowAt {} (before ++ reached) "op-1" = some row → row.status = .cancelled := by
  refine ⟨cancelledLog, [sampleEvent .blocked "h2" [("reason", .str divergenceReason)]],
    by decide +kernel, by decide +kernel, ?_⟩
  intro stays
  have blocked : StatusAt {} (cancelledLog ++
      [sampleEvent .blocked "h2" [("reason", .str divergenceReason)]]) "op-1" .blocked := by
    decide +kernel
  obtain ⟨row, found, status⟩ := (statusAt_iff _ _ _ _).mp blocked
  have cancelled := stays _ ⟨[], List.append_nil _⟩ row found
  rw [status] at cancelled
  cases cancelled

/-- The operation is left blocked for divergence, or untouched when it was cancelled. -/
def BlocksAt (scope : Scope) (operationId : String) (log : Log) (event : ZfEvent) : Prop :=
  ∃ row ∈ rowAt scope log operationId, ∃ next ∈ rowAt scope (log ++ [event]) operationId,
    if row.status = .cancelled then next.status = .cancelled
    else next.status = .blocked ∧ next.reason = divergenceReason

instance (scope : Scope) (operationId : String) (log : Log) (event : ZfEvent) :
    Decidable (BlocksAt scope operationId log event) := by
  unfold BlocksAt
  infer_instance

/-- The redrive that the reducer accepts for a divergence. -/
def ProvenReplay (payload : Json) : Prop :=
  (redriveClaims payload).owner = "kernel_replay" ∧
    (redriveClaims payload).fromStatus = "blocked" ∧ (redriveClaims payload).proofDigest ≠ ""

instance (payload : Json) : Decidable (ProvenReplay payload) :=
  inferInstanceAs (Decidable (_ ∧ _))

/-- Types whose own branch leaves a freshly blocked row as it is. -/
def HarmlessDivergence (type : OperationEventType) (payload : Json) : Prop :=
  type ∉ [OperationEventType.settled, .failed, .superseded] ∧
    (type = .blocked → payload.textAt "reason" = divergenceReason) ∧
    (type = .redriveAdmitted → ¬ ProvenReplay payload)

instance (type : OperationEventType) (payload : Json) :
    Decidable (HarmlessDivergence type payload) :=
  inferInstanceAs (Decidable (_ ∧ _))

/-- The operation was not cancelled and the branch of the event is harmless. -/
def HarmlessAt (scope : Scope) (operationId : String) (log : Log) (event : ZfEvent) : Prop :=
  (∀ row ∈ rowAt scope log operationId, row.status ≠ .cancelled) ∧
    ∀ address ∈ addressed scope event, HarmlessDivergence address.2 event.body

instance (scope : Scope) (operationId : String) (log : Log) (event : ZfEvent) :
    Decidable (HarmlessAt scope operationId log event) :=
  inferInstanceAs (Decidable (_ ∧ _))

section Blocked

variable {row : OperationRow}

theorem acceptsRedrive_divergent (blocked : row.status = .blocked)
    (reason : row.reason = divergenceReason) (payload : Json) :
    AcceptsRedrive row payload ↔ ProvenReplay payload := by
  have notIncremental :
      PyString.startsWith divergenceReason "candidate_incremental_failed:" = false := by decide
  have notBudget : PyString.startsWith divergenceReason "workflow_budget_exceeded:" = false := by
    decide
  simp [AcceptsRedrive, ProvenReplay, blocked, reason, compatibilityReasons, notIncremental,
    notBudget]

/-- The branch of the type keeps the mark of divergence exactly when it is harmless. -/
theorem keeps_divergence_iff (blocked : row.status = .blocked)
    (reason : row.reason = divergenceReason) (type : OperationEventType) (payload : Json) :
    (nextStatus row type payload = .blocked ∧ nextReason row type payload = divergenceReason) ↔
      HarmlessDivergence type payload := by
  have terminal : OperationStatus.blocked.Terminal := by decide
  have idle : ¬ Retries row payload := by
    rintro ⟨live, _⟩
    rw [blocked] at live
    exact absurd live (by decide)
  cases type with
  | redriveAdmitted =>
      have accepts : AcceptsRedrive row payload ↔ ProvenReplay payload :=
        acceptsRedrive_divergent blocked reason payload
      by_cases proven : ProvenReplay payload
      · simp [nextStatus, HarmlessDivergence, accepts, proven]
      · simp [nextStatus, nextReason, HarmlessDivergence, accepts, proven, blocked, reason]
  | retryStarted => simp [nextStatus, nextReason, HarmlessDivergence, idle, blocked, reason]
  | settled | failed | superseded => simp [nextStatus, HarmlessDivergence, blocked]
  | blocked => simp [nextStatus, nextReason, HarmlessDivergence, blocked]
  | requested => simp [nextStatus, nextReason, HarmlessDivergence, blocked, reason]
  | reserved | started | interrupted | cancelled =>
      simp [nextStatus, nextReason, HarmlessDivergence, blocked, reason, terminal]

end Blocked

theorem divergent_step_iff (diverges : DivergesAt scope operationId log event) :
    BlocksAt scope operationId log event ↔ HarmlessAt scope operationId log event := by
  obtain ⟨row, found, address, differs⟩ := diverges
  obtain ⟨⟨_, type⟩, target, rfl⟩ := Option.map_eq_some_iff.mp address
  have blocked : (noted row event).status = .blocked := by
    rw [noted_status, if_pos differs]
  have reason : (noted row event).reason = divergenceReason := by
    rw [noted_reason, if_pos differs]
  obtain ⟨next, after⟩ := rowAt_of_terminal found target (Or.inl blocked)
  have applied : applyToRow row type event = .ok next := by
    have moves := rowAt_step after
    rw [found] at moves
    cases moves with
    | untouched kept elsewhere => exact absurd target (elsewhere type)
    | admitted kept isAdmitted names =>
        rw [addressed, isAdmitted, ofText?_admittedType] at target
        cases target
    | moved address applied =>
        rw [target] at address
        cases address
        exact applied
  have outcome := keeps_divergence_iff blocked reason type event.body
  rw [← applyToRow_status applied, ← applyToRow_reason applied] at outcome
  by_cases cancelled : row.status = .cancelled
  · constructor
    · rintro ⟨_, same, _, present, verdict⟩
      rw [found] at same
      cases same
      rw [after] at present
      cases present
      rw [if_pos cancelled, applyToRow_status applied] at verdict
      exact absurd verdict (nextStatus_blocked_ne_cancelled blocked)
    · rintro ⟨active, _⟩
      exact absurd cancelled (active row found)
  · have present : rowAt scope log _ = some row := found
    simp only [BlocksAt, HarmlessAt, present, after, target, Option.mem_def, Option.some.injEq,
      exists_eq_left', forall_eq', cancelled, if_false, ne_eq, not_false_eq_true, true_and]
    exact outcome

/-- The statuses that an operation reaches by advancing. -/
def advancedStatuses : List OperationStatus := [.settled, .failed, .superseded, .running]

/-- The operation has its status because of an event that carries the recorded
request hash, or none, and has kept the status since. -/
def AdvancedByRecordedHash (scope : Scope) (operationId : String) (log : Log)
    (status : OperationStatus) : Prop :=
  ∃ before event after row, log = before ++ event :: after ∧
    ¬ StatusAt scope before operationId status ∧
    (addressed scope event).map Prod.fst = some operationId ∧
    rowAt scope (before ++ [event]) operationId = some row ∧
    (requestHashOf event.body = row.requestHash ∨ requestHashOf event.body = "") ∧
    ∀ reached, reached <+: after → StatusAt scope (before ++ event :: reached) operationId status

theorem applyToRow_recordedHash {row next : OperationRow}
    (applied : applyToRow row type event = .ok next)
    (agrees : ¬ Diverges row event.body) :
    requestHashOf event.body = next.requestHash ∨ requestHashOf event.body = "" := by
  rw [applyToRow_requestHash applied]
  split
  · exact Or.inl rfl
  · rename_i recorded
    by_contra neither
    obtain ⟨different, carried⟩ := not_or.mp neither
    exact agrees ⟨recorded, carried, Ne.symm different⟩

/-- Without harmful divergence, an operation advances only by its recorded hash. -/
theorem advanced_by_recorded_hash
    (harmless : Runs.Along grow (fun state event => DivergesAt scope operationId state event →
      HarmlessAt scope operationId state event) [] log)
    {status : OperationStatus} (advanced : status ∈ advancedStatuses)
    (reached : StatusAt scope log operationId status) :
    AdvancedByRecordedHash scope operationId log status := by
  induction log using List.reverseRecOn with
  | nil => cases reached
  | append_singleton log event ih =>
      obtain ⟨earlier, last, _⟩ := (Runs.along_append _ _ _).mp harmless
      rw [run_grow, List.nil_append] at last
      by_cases kept : StatusAt scope log operationId status
      · obtain ⟨before, cause, after, row, split, fresh, address, found, hash, stays⟩ :=
          ih earlier kept
        refine ⟨before, cause, after ++ [event], row, ?_, fresh, address, found, hash, ?_⟩
        · rw [split, List.append_assoc, List.cons_append]
        · intro part passed
          rcases List.prefix_concat_iff.mp passed with whole | shorter
          · rw [whole, ← List.cons_append, ← List.append_assoc, ← split]
            exact reached
          · exact stays part shorter
      · obtain ⟨next, after, now⟩ := (statusAt_iff _ _ _ _).mp reached
        have moves := rowAt_step after
        cases moves with
        | untouched same elsewhere =>
            exact absurd ((statusAt_iff _ _ _ _).mpr ⟨next, same, now⟩) kept
        | admitted same isAdmitted names =>
            exact absurd ((statusAt_iff _ _ _ _).mpr ⟨_, same, now⟩) kept
        | moved address applied =>
            have agrees : ¬ Diverges ((rowAt scope log operationId).getD (seedRow event))
                event.body := by
              intro differs
              cases found : rowAt scope log operationId with
              | none =>
                  rw [found] at differs
                  exact differs.2.2 rfl
              | some row =>
                  rw [found] at differs
                  have diverges : DivergesAt scope operationId log event :=
                    ⟨row, found, by rw [address]; rfl, differs⟩
                  obtain ⟨_, _, _, present, verdict⟩ :=
                    (divergent_step_iff diverges).mpr (last diverges)
                  rw [Option.mem_def, after] at present
                  cases present
                  rw [now] at verdict
                  split at verdict
                  · rw [verdict] at advanced
                    exact absurd advanced (by decide)
                  · rw [verdict.1] at advanced
                    exact absurd advanced (by decide)
            refine ⟨log, event, [], next, rfl, kept, by rw [address]; rfl, after,
              applyToRow_recordedHash applied agrees, ?_⟩
            intro part passed
            rw [List.prefix_nil.mp passed]
            exact reached

theorem along_divergent_iff (scope : Scope) (operationId : String) (log later : Log) :
    Runs.Along grow (fun state event => DivergesAt scope operationId state event →
        BlocksAt scope operationId state event) log later ↔
      Runs.Along grow (fun state event => DivergesAt scope operationId state event →
        HarmlessAt scope operationId state event) log later := by
  constructor
  · refine fun along => Runs.Along.mono ?_ along
    intro state event blocks diverges
    exact (divergent_step_iff diverges).mp (blocks diverges)
  · refine fun along => Runs.Along.mono ?_ along
    intro state event harmless diverges
    exact (divergent_step_iff diverges).mpr (harmless diverges)

/-- Every divergent event of a log leaves its operation blocked for divergence
exactly when all of them are harmless, and then the operation advances only by
events that do not diverge. -/
theorem divergence_blocks_iff (scope : Scope) (operationId : String) (log : Log) :
    (Runs.Along grow (fun state event => DivergesAt scope operationId state event →
        BlocksAt scope operationId state event) [] log ↔
      Runs.Along grow (fun state event => DivergesAt scope operationId state event →
        HarmlessAt scope operationId state event) [] log) ∧
      (Runs.Along grow (fun state event => DivergesAt scope operationId state event →
        HarmlessAt scope operationId state event) [] log →
        ∀ status ∈ advancedStatuses, StatusAt scope log operationId status →
          AdvancedByRecordedHash scope operationId log status) :=
  ⟨along_divergent_iff scope operationId [] log,
    fun harmless _ advanced reached => advanced_by_recorded_hash harmless advanced reached⟩

/-- A settled event with another request hash settles the operation. -/
theorem divergent_settlement_settles :
    ∃ log : Log, ¬ Runs.Along grow (fun state event => DivergesAt {} "op-1" state event →
      BlocksAt {} "op-1" state event) [] log :=
  ⟨[sampleEvent .requested "h1" [], sampleEvent .settled "h2" []], by decide +kernel⟩

end ZaofuFormal.Workflow
