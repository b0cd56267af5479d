import ZaofuFormal.Workflow.CallEffects

/-!
# Settled operations under late reports

The reducer lets a failed, blocked or superseded event replace the status of a
settled operation, and leaves it to the callers not to append one.  Superseding
is the intended way out of settled.  The main result says which calls keep that
rule: all of them, except a failure or a block of a settled operation, which
the last round of repair can cause as well.
-/

namespace ZaofuFormal.Workflow

open Foundation

/-- The event leaves a settled operation settled, or supersedes it. -/
def SettledStays (operationId : String) (log : Log) (event : ZfEvent) : Prop :=
  StatusAt {} log operationId .settled →
    StatusAt {} (log ++ [event]) operationId .settled ∨
      addressed {} event = some (operationId, .superseded)

instance (operationId : String) (log : Log) (event : ZfEvent) :
    Decidable (SettledStays operationId log event) :=
  inferInstanceAs (Decidable (_ → _))

variable {type : OperationEventType} {event : ZfEvent} {operationId : String} {call : ServiceCall}
  {emission : Emission}

theorem nextStatus_settled {row : OperationRow} {payload : Json} (settled : row.status = .settled)
    (kept : type ∉ [OperationEventType.failed, .blocked, .superseded]) :
    nextStatus row type payload = .settled := by
  have terminal : OperationStatus.settled.Terminal := by decide
  cases type with
  | requested => exact settled
  | reserved | started | interrupted | cancelled => rw [nextStatus, settled, if_pos terminal]
  | settled => rw [nextStatus, settled, if_neg (by decide)]
  | retryStarted =>
      have idle : ¬ Retries row payload := by
        rintro ⟨live, _⟩
        rw [settled] at live
        exact absurd live (by decide)
      rw [nextStatus, if_neg idle, settled]
  | redriveAdmitted =>
      have refused : ¬ AcceptsRedrive row payload := by simp [AcceptsRedrive, settled]
      rw [nextStatus, if_neg refused, settled]
  | failed | blocked | superseded => exact absurd kept (by decide)

/-- A settled event settles what is settled or just blocked for divergence. -/
theorem nextStatus_resettled {row : OperationRow} (settled : row.status = .settled)
    (event : ZfEvent) : nextStatus (noted row event) .settled event.body = .settled := by
  have notCancelled : (noted row event).status ≠ .cancelled := by
    rw [noted_status, settled]
    split <;> decide
  rw [nextStatus, if_neg notCancelled]

theorem settledStays_of_foreign {log : Log} (foreign : Foreign event)
    (operationId : String) : SettledStays operationId log event := by
  intro settled
  rw [StatusAt, rowAt_foreign foreign operationId]
  exact Or.inl settled

/-- What an admitted result makes of the rows. -/
theorem rowAt_admitted {log : Log} (isAdmitted : event.type = admittedType) (operationId : String) :
    rowAt {} (log ++ [event]) operationId = (rowAt {} log operationId).map fun row =>
      if event.body.textAt "operation_id" = operationId then admitCallResult row event else row := by
  cases reduced : reduceWorkflowOperations {} log with
  | error error =>
      rw [rowAt_of_error reduced, rowAt, reduced]
      rfl
  | ok operations =>
      have applied : applyEvent {} operations event =
          .ok (applyCallResultAdmission operations event) := by
        rw [applyEvent, if_pos isAdmitted]
      rw [rowAt_append reduced applied, rowAt, reduced]
      unfold applyCallResultAdmission
      dsimp only
      cases found : operations.get? (event.body.textAt "operation_id") with
      | none =>
          by_cases here : event.body.textAt "operation_id" = operationId
          · rw [← here, found]
            rfl
          · simp [here]
      | some row =>
          dsimp only
          rw [Dict.get?_insert]
          by_cases here : event.body.textAt "operation_id" = operationId
          · rw [if_pos here.symm, ← here, found]
            simp
          · simp [here, Ne.symm here]

theorem statusAt_admitted {log : Log} (isAdmitted : event.type = admittedType)
    (operationId : String) (status : OperationStatus) :
    StatusAt {} (log ++ [event]) operationId status ↔ StatusAt {} log operationId status := by
  rw [StatusAt, StatusAt, rowAt_admitted isAdmitted, Option.map_map]
  cases rowAt {} log operationId with
  | none => exact Iff.rfl
  | some row =>
      simp only [Option.map_some, Function.comp_apply]
      split <;> exact Iff.rfl

theorem settledStays_of_admitted {log : Log}
    (isAdmitted : event.type = admittedType) (operationId : String) :
    SettledStays operationId log event :=
  fun settled => Or.inl ((statusAt_admitted isAdmitted operationId .settled).mpr settled)

theorem settledStays_of_operationEvent {log : Log} (isType : event.type = type.text)
    (readable : Readable event)
    (safe : ∀ row, rowAt {} log operationId = some row → row.status = .settled →
      operationIdOf event.body = operationId → type ∈ [OperationEventType.settled, .superseded] ∨
        (type ∉ [OperationEventType.failed, .blocked] ∧ ¬ Diverges row event.body)) :
    SettledStays operationId log event := by
  intro settled
  obtain ⟨row, found, status⟩ := (statusAt_iff _ _ _ _).mp settled
  by_cases here : operationIdOf event.body = operationId
  · have address : addressed {} event = some (operationId, type) := by
      rw [← here]
      exact addressed_of_type isType (here ▸ (rowAt_key found).2)
    by_cases superseded : type = .superseded
    · exact Or.inr (superseded ▸ address)
    · refine Or.inl ((statusAt_of_addressed found isType readable here .settled).mpr ?_)
      rcases safe row found status here with known | ⟨kept, agrees⟩
      · rcases List.mem_pair.mp known with rfl | same
        · exact nextStatus_resettled status event
        · exact absurd same superseded
      · refine nextStatus_settled ?_ ?_
        · rw [noted_status, if_neg agrees, status]
        · simp only [List.mem_cons, List.not_mem_nil, or_false, not_or] at kept ⊢
          exact ⟨kept.1, kept.2, superseded⟩
  · rw [StatusAt, rowAt_elsewhere found isType readable here, ← found]
    exact Or.inl settled

/-- The event that a call asks for; requests and redrives choose theirs themselves. -/
def ServiceCall.emission? (env : ServiceEnv) :
    ServiceCall → Option (OperationEventType × Emission)
  | .ensure _ _ => none
  | .admitRedrive _ => none
  | .reserve reservation => some (.reserved, reservation.emission env)
  | .markStarted target attempt => some (.started, startedEmission target attempt)
  | .supersede target reason reservationId =>
      some (.superseded, supersedeEmission target reason reservationId)
  | .markRetryStarted target retry => some (.retryStarted, retryEmission target retry)
  | .settle target result summary => some (.settled, settleEmission target result summary)
  | .cancel target reason => some (.cancelled, cancelEmission target reason)
  | .block target reason details => some (.blocked, detailedEmission target reason details)
  | .interrupt target reason sourceAttemptId =>
      some (.interrupted, interruptEmission target reason sourceAttemptId)
  | .fail target reason details => some (.failed, detailedEmission target reason details)

/-- A call that asks for an event emits it, or is refused before. -/
theorem serve_emission {env : ServiceEnv} (asks : call.emission? env = some (type, emission))
    (log : Log) :
    serve env log call = log ∨ serve env log call = (emitOnce env type emission log).2 := by
  cases call with
  | ensure stored request | admitRedrive request => cases asks
  | reserve reservation =>
      cases asks
      rw [serve]
      unfold reserveContinuation
      dsimp only
      split
      · exact Or.inl rfl
      · exact Or.inl rfl
      · split
        · exact Or.inl rfl
        · split
          · split <;> exact Or.inl rfl
          · exact Or.inr rfl
  | markRetryStarted target retry =>
      cases asks
      rw [serve]
      unfold markRetryStarted
      split
      · exact Or.inl rfl
      · split
        · exact Or.inl rfl
        · exact Or.inl rfl
        · split
          · exact Or.inl rfl
          · split
            · exact Or.inl rfl
            · exact Or.inr rfl
  | settle target result summary =>
      cases asks
      rw [serve]
      unfold settle
      split
      · exact Or.inl rfl
      · exact Or.inr rfl
  | markStarted target attempt | supersede target reason reservationId | cancel target reason
  | block target reason details | interrupt target reason sourceAttemptId
  | fail target reason details =>
      cases asks
      exact Or.inr rfl

/-- Every event that a call asks for is readable. -/
theorem readable_emission {env : ServiceEnv} (asks : call.emission? env = some (type, emission))
    (existing : Option OperationRow) (log : Log) :
    Readable (emission.event env type existing log) := by
  cases call with
  | ensure stored request | admitRedrive request => cases asks
  | markRetryStarted target retry =>
      cases asks
      intro _
      have ordinal : ((retryEmission target retry).event env .retryStarted existing log).body.get
          "retry_attempt" = .int retry.retryAttempt := by
        rw [Emission.event_body, Json.get_ofDict, emitted_get? _ _ (by decide)]
        rfl
      rw [ordinal, Json.intOrZero?]
      split <;> rfl
  | reserve reservation | markStarted target attempt | supersede target reason reservationId
  | settle target result summary | cancel target reason | block target reason details
  | interrupt target reason sourceAttemptId | fail target reason details =>
      cases asks
      exact Emission.readable_event _ env existing log (by decide)

/-- The operations whose status a call would set to failed or blocked. -/
def ServiceCall.Fails (env : ServiceEnv) (operationId : String) (log : Log)
    (call : ServiceCall) : Prop :=
  ∃ asked ∈ call.emission? env, asked.1 ∈ [OperationEventType.failed, .blocked] ∧
    PyString.strip asked.2.targetId = operationId ∧ ¬ ∃ event ∈ log, Replays asked.1 asked.2 event

instance (env : ServiceEnv) (operationId : String) (log : Log) (call : ServiceCall) :
    Decidable (call.Fails env operationId log) :=
  inferInstanceAs (Decidable (∃ asked ∈ call.emission? env, _))

/-- The operation and the request hash that the event of a call carries. -/
def ServiceCall.named (env : ServiceEnv) : ServiceCall → Option (String × String)
  | .ensure _ request => some (request.operationId, request.requestHash env)
  | .admitRedrive request => some (request.operationId, request.requestHash)
  | call => (call.emission? env).map fun asked => (asked.2.targetId, asked.2.carriedHash)

/-- A call that names the operation gives its recorded request hash. -/
def ServiceCall.UsesRecordedHash (env : ServiceEnv) (operationId : String) (log : Log)
    (call : ServiceCall) : Prop :=
  ∀ named ∈ call.named env, PyString.strip named.1 = operationId →
    ∀ row ∈ rowAt {} log operationId, named.2 = row.requestHash

instance (env : ServiceEnv) (operationId : String) (log : Log) (call : ServiceCall) :
    Decidable (call.UsesRecordedHash env operationId log) :=
  inferInstanceAs (Decidable (∀ named ∈ call.named env, _))

theorem settledStays_of_emission {env : ServiceEnv} {log : Log} {existing : Option OperationRow}
    (readable : Readable (emission.event env type existing log))
    (safe : PyString.strip emission.targetId = operationId →
      ∀ row, rowAt {} log operationId = some row → row.status = .settled →
        type ∈ [OperationEventType.settled, .superseded] ∨
          (type ∉ [OperationEventType.failed, .blocked] ∧ ¬ emission.Diverges row)) :
    SettledStays operationId log (emission.event env type existing log) := by
  refine settledStays_of_operationEvent rfl readable fun row found status here => ?_
  rw [emission.event_operationId] at here
  rw [emission.diverges_event]
  exact safe here row found status

theorem serve_emission_settled {env : ServiceEnv} {log : Log}
    (asks : call.emission? env = some (type, emission))
    (named : call.named env = some (emission.targetId, emission.carriedHash))
    (recorded : call.UsesRecordedHash env operationId log)
    (spared : StatusAt {} log operationId .settled → ¬ call.Fails env operationId log) :
    Grows (SettledStays operationId) log (serve env log call) := by
  rcases serve_emission asks log with same | same
  · rw [same]
    exact .refl log
  · rw [same]
    refine emitOnce_grows fun fresh =>
      settledStays_of_emission (readable_emission asks _ log) fun here row found status => ?_
    have settled := (statusAt_iff _ _ _ _).mpr ⟨row, found, status⟩
    refine Or.inr ⟨fun failing => spared settled ⟨(type, emission), asks, failing, here, fresh⟩, ?_⟩
    rintro ⟨_, _, different⟩
    exact different (recorded _ named here row found).symm

theorem admit_settled (toFloat : Json → Except FloatError FloatValue) (writer : Writer)
    (request : RedriveRequest) (log : Log) (operationId : String) :
    Grows (SettledStays operationId) log
      (admitTaskPipelineRedrive toFloat writer request log).2 := by
  rcases admit_outcome toFloat writer request log with ⟨event, admission, same⟩ | ⟨_, same⟩
  · rw [same]
    obtain ⟨row, _, found, sameHash, _, _, _, rfl⟩ := admission.checked
    have isRedrive : ((redriveDraft request row).enrich writer log).type =
        OperationEventType.redriveAdmitted.text := rfl
    refine .append (settledStays_of_operationEvent isRedrive
      (readable_of_type isRedrive (by decide)) ?_)
    intro other present _ here
    rw [operationIdOf, redriveDraft_operationId, (rowAt_key found).1] at here
    rw [← here, found] at present
    cases present
    refine Or.inr ⟨by decide, ?_⟩
    rintro ⟨_, _, different⟩
    rw [redriveDraft_requestHash] at different
    exact different sameHash
  · rw [same]
    exact .refl log

theorem requestFields_absent {key : String} (absent : key ∉ taskPipelineRequestKeys)
    (payload : Json) : (taskPipelineRequestFields payload).get? key = none := by
  refine (Dict.get?_insertAll_of_notMem ?_ Dict.empty).trans (Dict.get?_empty key)
  intro member
  obtain ⟨entry, present, rfl⟩ := List.mem_map.mp member
  obtain ⟨source, known, kept⟩ := List.mem_filterMap.mp present
  dsimp only at kept
  split at kept
  · cases kept
  · cases kept
    exact absent known

section Requested

variable (env : ServiceEnv) (ensure : EnsureRequest) (log : Log)

/-- Fields that no task pipeline request overwrites are read as they were given. -/
theorem requestedDraft_get {key : String} (absent : key ∉ taskPipelineRequestKeys) :
    ((requestedDraft env ensure).enrich env.writer log).body.get key =
      (Dict.find key (requestedFields env ensure)).getD .null := by
  have distinct : ((requestedFields env ensure).map Prod.fst).Nodup := by
    simp only [requestedFields, List.map_cons, List.map_nil]
    decide
  change (((Dict.ofEntries (requestedFields env ensure)).update
    (taskPipelineRequestFields ensure.request)).get? key).getD .null = _
  rw [Dict.get?_update, requestFields_absent absent, Dict.get?_ofEntries distinct,
    Option.none_or]

theorem requestedDraft_operationId :
    operationIdOf ((requestedDraft env ensure).enrich env.writer log).body =
      PyString.strip ensure.operationId := by
  rw [operationIdOf, Json.textAt, requestedDraft_get env ensure log (by decide)]
  exact congrArg PyString.strip (Json.text_str ensure.operationId)

theorem requestedDraft_requestHash :
    requestHashOf ((requestedDraft env ensure).enrich env.writer log).body =
      ensure.requestHash env := by
  rw [requestHashOf, Json.textAt, requestedDraft_get env ensure log (by decide)]
  exact Json.text_str (ensure.requestHash env)

end Requested

theorem divergence_targetId (ensure : EnsureRequest) (existing : OperationRow)
    (requestHash emittedHash reason : String) :
    (ensure.divergence existing requestHash emittedHash reason).targetId = ensure.operationId :=
  rfl

theorem ensure_settled {env : ServiceEnv} {stored : Json → Option Json} {ensure : EnsureRequest}
    {log : Log}
    (recorded : (ServiceCall.ensure stored ensure).UsesRecordedHash env operationId log) :
    Grows (SettledStays operationId) log (ensureOperation env stored ensure log).2 := by
  have agrees {row : OperationRow} (here : PyString.strip ensure.operationId = operationId)
      (found : rowAt {} log operationId = some row) : ensure.requestHash env = row.requestHash :=
    recorded _ rfl here row found
  unfold ensureOperation
  cases loaded : loadWorkflowOperation log ensure.operationId with
  | error error => exact .refl log
  | ok found =>
      cases found with
      | none =>
          have isRequested : ((requestedDraft env ensure).enrich env.writer log).type =
              OperationEventType.requested.text := rfl
          refine .append (settledStays_of_operationEvent isRequested
            (readable_of_type isRequested (by decide)) fun row found _ here => ?_)
          rw [requestedDraft_operationId] at here
          refine Or.inr ⟨by decide, ?_⟩
          rintro ⟨_, _, different⟩
          rw [requestedDraft_requestHash] at different
          exact different (agrees here found).symm
      | some existing =>
          have present := loadWorkflowOperation_eq_some.mp loaded
          dsimp only
          split
          · rename_i diverges
            have elsewhere : PyString.strip ensure.operationId ≠ operationId := by
              intro here
              rw [(rowAt_key present).1] at here
              subst here
              exact diverges.2 (agrees (rowAt_key present).1 present).symm
            split
            · unfold replayCompatible
              dsimp only
              split
              · exact admit_settled _ _ _ log operationId
              · exact .refl log
            · refine emitOnce_grows fun _ => settledStays_of_emission
                (Emission.readable_event _ env _ log (by decide)) fun here => ?_
              rw [divergence_targetId] at here
              exact absurd here elsewhere
          · exact .refl log

/-- A service call with the recorded hash that does not fail the operation. -/
theorem serve_settled {env : ServiceEnv} {log : Log}
    (recorded : call.UsesRecordedHash env operationId log)
    (spared : StatusAt {} log operationId .settled → ¬ call.Fails env operationId log) :
    Grows (SettledStays operationId) log (serve env log call) := by
  cases call with
  | ensure stored request => exact ensure_settled recorded
  | admitRedrive request => exact admit_settled _ _ _ log operationId
  | reserve reservation | markStarted target attempt | supersede target reason reservationId
  | markRetryStarted target retry | settle target result summary | cancel target reason
  | block target reason details | interrupt target reason sourceAttemptId
  | fail target reason details => exact serve_emission_settled rfl rfl recorded spared

/-- The failure that the last round of repair asks for. -/
def AssessedReport.exhaustion (assessed : AssessedReport) (causationId : String) : Emission :=
  detailedEmission (assessed.target causationId) "output_repair_exhausted" Dict.empty

/-- The report uses up the rounds of repair of the operation and fails it. -/
def Report.Fails (service : AdmissionService) (operationId : String) (log : Log)
    (report : Report) : Prop :=
  ∃ assessment ∈ report.assessment.toOption,
    service.operationService = true ∧
      Exhausts service (report.assess service.env assessment) log ∧
      PyString.strip (report.assess service.env assessment).key.operationId = operationId ∧
      ¬ ∃ event ∈ log,
        Replays .failed ((report.assess service.env assessment).exhaustion "") event

instance (service : AdmissionService) (operationId : String) (log : Log) (report : Report) :
    Decidable (report.Fails service operationId log) := by
  unfold Report.Fails
  infer_instance

/-- The failure is a replay whatever caused it. -/
theorem exhaustion_replays_iff (assessed : AssessedReport) (causationId : String)
    (event : ZfEvent) :
    Replays .failed (assessed.exhaustion causationId) event ↔
      Replays .failed (assessed.exhaustion "") event := by
  unfold Replays
  simp only [reduceCtorEq, false_implies, true_and]
  exact Iff.rfl

theorem report_settled {service : AdmissionService} {log : Log} {report : Report}
    (spared : StatusAt {} log operationId .settled → ¬ report.Fails service operationId log) :
    Grows (SettledStays operationId) log (reportLegacyResult service report log).2 := by
  have recordedStays {before after : Log} (records : Recorded before after) :
      Grows (SettledStays operationId) before after :=
    records.mono fun _ _ foreign => settledStays_of_foreign foreign operationId
  have effect := reportLegacyResult_effect service report log
  generalize (reportLegacyResult service report log).2 = after at effect ⊢
  cases effect with
  | recorded records => exact recordedStays records
  | superseded records emission =>
      refine (recordedStays records).trans (emitOnce_grows fun _ => settledStays_of_emission
        (emission.readable_event _ _ _ (by decide)) fun _ _ _ _ => Or.inl (by decide))
  | failed records attached assessable exhausts causationId =>
      refine (recordedStays records).trans (emitOnce_grows fun fresh => settledStays_of_emission
        (Emission.readable_event _ _ _ _ (by decide)) fun here row found status => ?_)
      rw [records.rowAt] at found
      have settled := (statusAt_iff _ _ _ _).mpr ⟨row, found, status⟩
      refine absurd ⟨_, ?_, attached, exhausts, here, ?_⟩ (spared settled)
      · rw [assessable]
        rfl
      · rintro ⟨event, member, replays⟩
        obtain ⟨added, rfl, _⟩ := records
        exact fresh ⟨event, List.mem_append_left added member,
          (exhaustion_replays_iff _ causationId event).mpr replays⟩
  | admitted records assessable admits reportedId =>
      refine (recordedStays records).trans (admitResult_grows ?_ ?_ ?_)
      · exact fun _ _ foreign => settledStays_of_foreign foreign operationId
      · exact settledStays_of_admitted rfl operationId
      · intro extended row existing causationId _ _
        exact settledStays_of_emission (Emission.readable_event _ _ _ _ (by decide))
          fun _ _ _ _ => Or.inl (by decide)

/-- A service call gives the recorded request hash of the operation it names. -/
def RuntimeCall.UsesRecordedHash (service : AdmissionService) (operationId : String) (log : Log) :
    RuntimeCall → Prop
  | .report _ => True
  | .service call => call.UsesRecordedHash service.env operationId log

instance (service : AdmissionService) (operationId : String) (log : Log) (call : RuntimeCall) :
    Decidable (call.UsesRecordedHash service operationId log) :=
  match call with
  | .report _ => inferInstanceAs (Decidable True)
  | .service call => inferInstanceAs (Decidable (call.UsesRecordedHash service.env operationId log))

/-- Reports are made in blocking mode. -/
def RuntimeCall.Blocking : RuntimeCall → Prop
  | .report given => given.mode = .blocking
  | .service _ => True

instance (call : RuntimeCall) : Decidable call.Blocking :=
  match call with
  | .report given => inferInstanceAs (Decidable (given.mode = .blocking))
  | .service _ => inferInstanceAs (Decidable True)

/-- The call appends a failed or blocked event of the operation. -/
def RuntimeCall.Fails (service : AdmissionService) (operationId : String) (log : Log) :
    RuntimeCall → Prop
  | .report given => given.Fails service operationId log
  | .service call => call.Fails service.env operationId log

instance (service : AdmissionService) (operationId : String) (log : Log) (call : RuntimeCall) :
    Decidable (call.Fails service operationId log) :=
  match call with
  | .report given => inferInstanceAs (Decidable (given.Fails service operationId log))
  | .service call => inferInstanceAs (Decidable (call.Fails service.env operationId log))

/-- A run of reports and of service calls with the recorded hash, none of which
fails or blocks the operation while it is settled: the operation leaves settled
only by being superseded. -/
theorem settled_until_superseded {service : AdmissionService} {operationId : String}
    {calls : List RuntimeCall}
    (careful : Runs.Along (runtimeStep service) (fun log call =>
      call.UsesRecordedHash service operationId log ∧
        (StatusAt {} log operationId .settled → ¬ call.Fails service operationId log)) [] calls) :
    Runs.Along grow (SettledStays operationId) [] (Runs.run (runtimeStep service) [] calls) := by
  refine Grows.along (Runs.Along.invariant (Grows (SettledStays operationId) [])
    ?_ (.refl []) careful)
  intro log call grown ⟨recorded, spared⟩
  refine grown.trans ?_
  cases call with
  | report report => exact report_settled spared
  | service call => exact serve_settled recorded spared

/-- A result event of the operation `op-1`. -/
def resultEvent (id : String) : ZfEvent where
  type := "dev.build.done"
  id := id
  ts := "2026-07-09T09:30:00+00:00"
  actor := some "dev-1"
  payload := .obj [("operation_id", .str "op-1"), ("workflow_run_id", .str "run-1"),
    ("request_hash", .str sampleTarget.requestHash)]

/-- A blocking report of a result with the given digest, verdict and issues. -/
def sampleReport (id digest verdict : String) (issues : List Json) : RuntimeCall :=
  .report
    { event := resultEvent id
      mode := .blocking
      assessment := .ok
        { adapterId := "implementation"
          schemaVersion := "implementation-result.v1"
          controlResultRef := Dict.ofEntries [("ref", .str ("artifacts/" ++ digest)),
            ("sha256", .str digest)]
          controlResult := .obj [("verdict", .str verdict)]
          adapterIssues := issues } }

def sampleService : AdmissionService where
  env := sampleEnv

def missingField : List Json :=
  [.obj [("field", .str "summary"), ("code", .str "missing_required")]]

/-- An operation that a valid result has settled. -/
def settledCalls : List RuntimeCall :=
  [.service (.ensure (fun _ => none) sampleEnsure),
    .service (.markStarted sampleTarget { activeAttemptId := "a1" }),
    sampleReport "evt-r1" "d1" "pass" []]

/-- A late invalid result that asks for a round of repair keeps the operation settled. -/
theorem late_repair_stays_settled :
    Runs.Along grow (SettledStays "op-1") [] (Runs.run (runtimeStep sampleService) []
      (settledCalls ++ [sampleReport "evt-r2" "d2" "pass" missingField])) := by
  apply settled_until_superseded
  decide +kernel

/-- The third invalid result after settlement fails the operation. -/
theorem late_exhaustion_unsettles :
    ¬ ∀ (service : AdmissionService) (operationId : String) (calls : List RuntimeCall),
      Runs.Along (runtimeStep service) (fun log call => call.Blocking ∧
        call.UsesRecordedHash service operationId log) [] calls →
      Runs.Along grow (SettledStays operationId) []
        (Runs.run (runtimeStep service) [] calls) := by
  intro always
  exact absurd (always sampleService "op-1" (settledCalls ++
    [sampleReport "evt-r2" "d2" "pass" missingField,
      sampleReport "evt-r3" "d3" "pass" missingField,
      sampleReport "evt-r4" "d4" "pass" missingField])) (by decide +kernel)

end ZaofuFormal.Workflow
