import ZaofuFormal.Workflow.SettledOperations

/-!
# The result of a settled operation

A row takes its verdict and control result from the last admitted result, and
its result reference from the last settled event.  Both halves belong together
as long as no result is admitted for a settled operation and every direct
settlement names the result that the row shows.
-/

namespace ZaofuFormal.Workflow

open Foundation

/-- What a row shows of the admitted result. -/
structure ShownResult where
  verdict : String
  controlResultRef : Json
  admittedEventId : String
  deriving DecidableEq

def OperationRow.shown (row : OperationRow) : ShownResult :=
  ⟨row.semanticVerdict, row.admittedControlResultRef, row.callResultAdmittedEventId⟩

def settledResultRef (event : ZfEvent) : Json :=
  (event.body.get "admitted_call_result_ref").objectOrEmpty

theorem noted_shown (row : OperationRow) (event : ZfEvent) :
    (noted row event).shown = row.shown ∧
      (noted row event).admittedCallResultRef = row.admittedCallResultRef := by
  change (compareHash row event.body).shown = _ ∧
    (compareHash row event.body).admittedCallResultRef = _
  unfold compareHash
  split
  · exact ⟨rfl, rfl⟩
  · split <;> exact ⟨rfl, rfl⟩

theorem noteLast_shown (before : OperationStatus) (type : OperationEventType) (event : ZfEvent)
    (row : OperationRow) :
    (noteLast before type event row).shown = row.shown ∧
      (noteLast before type event row).admittedCallResultRef = row.admittedCallResultRef := by
  rcases noteLast_cases before type event row with same | same <;> rw [same] <;> exact ⟨rfl, rfl⟩

variable {event : ZfEvent} {row : OperationRow} {type : OperationEventType} {operationId : String}

/-- No branch touches what is shown, and only settling replaces the reference. -/
theorem transition_shown {moved : OperationRow} (moves : transition row type event = .ok moved) :
    moved.shown = row.shown ∧
      (type ≠ .settled → moved.admittedCallResultRef = row.admittedCallResultRef) := by
  cases type <;> simp only [transition] at moves
  case retryStarted =>
    split at moves
    · split at moves
      · cases moves
        exact ⟨rfl, fun _ => rfl⟩
      · cases moves
    · cases moves
      exact ⟨rfl, fun _ => rfl⟩
  case requested =>
    cases moves
    exact ⟨rfl, fun _ => rfl⟩
  case settled =>
    cases moves
    split
    · exact ⟨rfl, fun other => absurd rfl other⟩
    · exact ⟨rfl, fun other => absurd rfl other⟩
  all_goals
    cases moves
    split <;> exact ⟨rfl, fun _ => rfl⟩

theorem applyToRow_shown {after : OperationRow} (applied : applyToRow row type event = .ok after) :
    after.shown = row.shown ∧
      (type ≠ .settled → after.admittedCallResultRef = row.admittedCallResultRef) := by
  obtain ⟨moved, moves, rfl⟩ := applyToRow_ok applied
  obtain ⟨lastShown, lastRef⟩ := noteLast_shown (noted row event).status type event moved
  obtain ⟨movedShown, movedRef⟩ := transition_shown moves
  obtain ⟨firstShown, firstRef⟩ := noted_shown row event
  refine ⟨lastShown.trans (movedShown.trans firstShown), fun other => ?_⟩
  exact lastRef.trans ((movedRef other).trans firstRef)

/-- A settled event that takes effect brings its reference. -/
theorem applyToRow_settled {after : OperationRow}
    (applied : applyToRow row .settled event = .ok after) (settled : after.status = .settled) :
    (noted row event).status ≠ .cancelled ∧ after.admittedCallResultRef = settledResultRef event := by
  obtain ⟨moved, moves, rfl⟩ := applyToRow_ok applied
  rw [noteLast_status, (transition_moves moves).1] at settled
  have effective : (noted row event).status ≠ .cancelled := by
    intro cancelled
    rw [nextStatus, if_pos cancelled, cancelled] at settled
    cases settled
  refine ⟨effective, ?_⟩
  rw [(noteLast_shown _ _ _ _).2]
  rw [transition, if_neg effective] at moves
  cases moves
  rfl

/-- Only a settled event leads to a settled row. -/
theorem settled_of_nextStatus {payload : Json}
    (other : type ≠ .settled) (settled : nextStatus row type payload = .settled) :
    row.status = .settled := by
  cases type with
  | settled => exact absurd rfl other
  | requested => exact settled
  | reserved | started | retryStarted | failed | blocked | superseded | interrupted
  | redriveAdmitted | cancelled =>
      rw [nextStatus] at settled
      split at settled
      · first | exact settled | cases settled
      · first | exact settled | cases settled

/-- An admitted result of the log is the one that is shown, and has the reference. -/
def ShowsResult (log : Log) (operationId : String) (shown : ShownResult) (resultRef : Json) :
    Prop :=
  ∃ admitted ∈ log, admitted.type = admittedType ∧
    admitted.body.textAt "operation_id" = operationId ∧
    shown = ⟨admitted.body.textAt "semantic_verdict", admitted.body.get "control_result_ref",
      admitted.id⟩ ∧
    admitted.body.get "envelope_ref" = resultRef

instance (log : Log) (operationId : String) (shown : ShownResult) (resultRef : Json) :
    Decidable (ShowsResult log operationId shown resultRef) :=
  inferInstanceAs (Decidable (∃ admitted ∈ log, _))

theorem ShowsResult.append {log : Log} {shown : ShownResult}
    {resultRef : Json} (shows : ShowsResult log operationId shown resultRef) (event : ZfEvent) :
    ShowsResult (log ++ [event]) operationId shown resultRef := by
  obtain ⟨admitted, member, rest⟩ := shows
  exact ⟨admitted, List.mem_append_left [event] member, rest⟩

/-- A settled operation shows the result that it refers to. -/
def Coherent (operationId : String) (log : Log) : Prop :=
  ∀ row ∈ rowAt {} log operationId, row.status = .settled →
    ShowsResult log operationId row.shown row.admittedCallResultRef

instance (operationId : String) (log : Log) : Decidable (Coherent operationId log) :=
  inferInstanceAs (Decidable (∀ row ∈ rowAt {} log operationId, _))

/-- The result does not change while the operation stays settled. -/
def ResultKept (operationId : String) (log : Log) (event : ZfEvent) : Prop :=
  ∀ row ∈ rowAt {} log operationId, ∀ next ∈ rowAt {} (log ++ [event]) operationId,
    row.status = .settled → next.status = .settled →
      next.shown = row.shown ∧ next.admittedCallResultRef = row.admittedCallResultRef

instance (operationId : String) (log : Log) (event : ZfEvent) :
    Decidable (ResultKept operationId log event) :=
  inferInstanceAs (Decidable (∀ row ∈ rowAt {} log operationId, _))

/-- The event leaves the result of the operation coherent and unchanged. -/
def ResultHeld (operationId : String) (log : Log) (event : ZfEvent) : Prop :=
  Coherent operationId (log ++ [event]) ∧ ResultKept operationId log event

instance (operationId : String) (log : Log) (event : ZfEvent) :
    Decidable (ResultHeld operationId log event) :=
  inferInstanceAs (Decidable (_ ∧ _))

/-- A settlement of the row that names the result it shows, or repeats its reference. -/
def SettlesShown (log : Log) (operationId : String) (row : OperationRow) (resultRef : Json) :
    Prop :=
  if row.status = .settled then resultRef = row.admittedCallResultRef
  else ShowsResult log operationId row.shown resultRef

instance (log : Log) (operationId : String) (row : OperationRow) (resultRef : Json) :
    Decidable (SettlesShown log operationId row resultRef) :=
  inferInstanceAs (Decidable (ite _ _ _))

/-- No result is admitted for a settled operation, and settlements name the shown result. -/
structure KeepsHalves (operationId : String) (log : Log) (event : ZfEvent) : Prop where
  unsettled : event.type = admittedType → event.body.textAt "operation_id" = operationId →
    ¬ StatusAt {} log operationId .settled
  settles : addressed {} event = some (operationId, .settled) →
    ∃ row, rowAt {} log operationId = some row ∧
      ((noted row event).status ≠ .cancelled →
        SettlesShown log operationId row (settledResultRef event))

theorem resultHeld_of_keepsHalves {log : Log}
    (coherent : Coherent operationId log) (keeps : KeepsHalves operationId log event) :
    ResultHeld operationId log event := by
  have held {next : OperationRow} (found : rowAt {} (log ++ [event]) operationId = some next)
      (settled : next.status = .settled) :
      ShowsResult (log ++ [event]) operationId next.shown next.admittedCallResultRef ∧
        ∀ row, rowAt {} log operationId = some row → row.status = .settled →
          next.shown = row.shown ∧ next.admittedCallResultRef = row.admittedCallResultRef := by
    have moves := rowAt_step found
    cases moves with
    | untouched kept elsewhere =>
        refine ⟨(coherent next kept settled).append event, fun row present _ => ?_⟩
        rw [kept] at present
        cases present
        exact ⟨rfl, rfl⟩
    | admitted kept isAdmitted names =>
        exact absurd ((statusAt_iff _ _ _ _).mpr ⟨_, kept, settled⟩)
          (keeps.unsettled isAdmitted names)
    | @moved _ type address applied =>
        obtain ⟨sameShown, sameRef⟩ := applyToRow_shown applied
        by_cases settles : type = .settled
        · subst settles
          obtain ⟨row, present, names⟩ := keeps.settles address
          rw [present] at applied sameShown
          obtain ⟨effective, reference⟩ := applyToRow_settled applied settled
          have named := names effective
          unfold SettlesShown at named
          rw [sameShown, reference]
          split at named
          · rename_i already
            refine ⟨?_, fun other same _ => ?_⟩
            · rw [named]
              exact (coherent row present already).append event
            · rw [present] at same
              cases same
              exact ⟨rfl, named⟩
          · rename_i fresh
            refine ⟨named.append event, fun other same already => ?_⟩
            rw [present] at same
            cases same
            exact absurd already fresh
        · rw [applyToRow_status applied] at settled
          have before := settled_of_nextStatus settles settled
          cases present : rowAt {} log operationId with
          | none =>
              rw [present] at before
              rw [noted_status] at before
              split at before
              · cases before
              · cases before
          | some row =>
              rw [present] at before sameShown sameRef
              rw [noted_status] at before
              split at before
              · cases before
              · have shows := (coherent row present before).append event
                rw [sameShown, sameRef settles]
                refine ⟨shows, fun other same _ => ?_⟩
                cases same
                exact ⟨rfl, rfl⟩
  refine ⟨fun next found settled => (held found settled).1, ?_⟩
  intro row present next found before settled
  exact (held found settled).2 row present before

theorem resultHeld_along {log added : Log} (coherent : Coherent operationId log)
    (keeps : Runs.Along grow (KeepsHalves operationId) log added) :
    Runs.Along grow (ResultHeld operationId) log added := by
  induction added generalizing log with
  | nil => exact True.intro
  | cons event rest ih =>
      have held := resultHeld_of_keepsHalves coherent keeps.1
      exact ⟨held, ih held.1 keeps.2⟩

theorem keepsHalves_of_foreign {log : Log} (foreign : Foreign event)
    (operationId : String) : KeepsHalves operationId log event := by
  refine ⟨fun isAdmitted => absurd isAdmitted foreign.2, fun address => ?_⟩
  rw [addressed, foreign.1] at address
  cases address

theorem keepsHalves_of_type {log : Log}
    (isType : event.type = type.text) (other : type ≠ .settled) (operationId : String) :
    KeepsHalves operationId log event := by
  refine ⟨fun isAdmitted => absurd (isType.symm.trans isAdmitted) (text_ne_admittedType type),
    fun address => ?_⟩
  have settled := (addressed_type address).1
  exact absurd (OperationEventType.text_injective (isType.symm.trans settled)) other

/-- A direct settlement of the operation that takes effect names the result that
the row shows. -/
def NamesShown (operationId : String) (log : Log) (target : Target) (result summary : Json) :
    Prop :=
  PyString.strip target.operationId = operationId →
    result.textAt "ref" ≠ "" → result.textAt "sha256" ≠ "" →
    (¬ ∃ event ∈ log, Replays .settled (settleEmission target result summary) event) →
    ∃ row ∈ rowAt {} log operationId,
      (row.status = .cancelled → (settleEmission target result summary).Diverges row) →
        SettlesShown log operationId row result.objectOrEmpty

instance (operationId : String) (log : Log) (target : Target) (result summary : Json) :
    Decidable (NamesShown operationId log target result summary) :=
  inferInstanceAs (Decidable (_ → _))

theorem objectOrEmpty_idem (value : Json) :
    value.objectOrEmpty.objectOrEmpty = value.objectOrEmpty := by
  unfold Json.objectOrEmpty
  split <;> rfl

theorem settleEmission_ref (target : Target) (result summary : Json) (env : ServiceEnv)
    (existing : Option OperationRow) (log : Log) :
    settledResultRef ((settleEmission target result summary).event env .settled existing log) =
      result.objectOrEmpty := by
  rw [settledResultRef, Emission.event_body, Json.get_ofDict, emitted_get? _ _ (by decide)]
  exact objectOrEmpty_idem result

theorem settle_keepsHalves {env : ServiceEnv} {log : Log} {target : Target} {result summary : Json}
    (names : NamesShown operationId log target result summary) :
    Grows (KeepsHalves operationId) log (settle env target result summary log).2 := by
  refine settle_grows fun referenced digested fresh => ⟨fun isAdmitted => ?_, fun address => ?_⟩
  · exact absurd isAdmitted (text_ne_admittedType .settled)
  · have here := (addressed_type address).2.1
    rw [Emission.event_operationId] at here
    obtain ⟨row, found, shown⟩ := names here referenced digested fresh
    refine ⟨row, found, fun effective => ?_⟩
    rw [settleEmission_ref]
    refine shown fun cancelled => ?_
    by_contra agrees
    rw [noted_status, if_neg (mt (Emission.diverges_event ..).mp agrees), cancelled] at effective
    exact effective rfl

theorem emission_keepsHalves (env : ServiceEnv) {log : Log}
    (emission : Emission) (other : type ≠ .settled) (operationId : String) :
    Grows (KeepsHalves operationId) log (emitOnce env type emission log).2 :=
  emitOnce_grows fun _ => keepsHalves_of_type rfl other operationId

theorem admit_keepsHalves (toFloat : Json → Except FloatError FloatValue) (writer : Writer)
    (request : RedriveRequest) (log : Log) (operationId : String) :
    Grows (KeepsHalves operationId) log
      (admitTaskPipelineRedrive toFloat writer request log).2 := by
  rcases admit_outcome toFloat writer request log with ⟨event, admission, same⟩ | ⟨_, same⟩
  · rw [same]
    obtain ⟨row, _, _, _, _, _, _, rfl⟩ := admission.checked
    have isRedrive : ((redriveDraft request row).enrich writer log).type =
        OperationEventType.redriveAdmitted.text := rfl
    exact .append (keepsHalves_of_type isRedrive (by decide) operationId)
  · rw [same]
    exact .refl log

theorem ensure_keepsHalves (env : ServiceEnv) (stored : Json → Option Json)
    (ensure : EnsureRequest) (log : Log) (operationId : String) :
    Grows (KeepsHalves operationId) log (ensureOperation env stored ensure log).2 := by
  unfold ensureOperation
  cases loadWorkflowOperation log ensure.operationId with
  | error error => exact .refl log
  | ok found =>
      cases found with
      | none =>
          have isRequested : ((requestedDraft env ensure).enrich env.writer log).type =
              OperationEventType.requested.text := rfl
          exact .append (keepsHalves_of_type isRequested (by decide) operationId)
      | some existing =>
          dsimp only
          split
          · split
            · unfold replayCompatible
              dsimp only
              split
              · exact admit_keepsHalves _ _ _ log operationId
              · exact .refl log
            · exact emission_keepsHalves _ _ (by decide) operationId
          · exact .refl log

/-- Every service call but a settlement keeps the halves of every row. -/
theorem serve_keepsHalves {env : ServiceEnv} {call : ServiceCall} {log : Log}
    (names : ∀ target result summary, call = .settle target result summary →
      NamesShown operationId log target result summary) :
    Grows (KeepsHalves operationId) log (serve env log call) := by
  have emits {type : OperationEventType} {emission : Emission}
      (asks : call.emission? env = some (type, emission)) (other : type ≠ .settled) :
      Grows (KeepsHalves operationId) log (serve env log call) := by
    rcases serve_emission asks log with same | same
    · rw [same]
      exact .refl log
    · rw [same]
      exact emission_keepsHalves env emission other operationId
  cases call with
  | ensure stored request => exact ensure_keepsHalves env stored request log operationId
  | admitRedrive request => exact admit_keepsHalves _ _ request log operationId
  | settle target result summary => exact settle_keepsHalves (names target result summary rfl)
  | reserve reservation | markStarted target attempt | supersede target reason reservationId
  | markRetryStarted target retry | cancel target reason | block target reason details
  | interrupt target reason sourceAttemptId | fail target reason details =>
      exact emits rfl (by decide)

theorem firstText_last {first second third : String} (known : third ≠ "") :
    firstText [first, second, third] ≠ "" := by
  unfold firstText
  cases found : [first, second, third].find? fun text => decide (text ≠ "") with
  | none => exact absurd (List.find?_eq_none.mp found third (by simp)) (by simpa using known)
  | some chosen => simpa using List.find?_some found

theorem stableOperationId_ne (env : ServiceEnv)
    (workflowRunId parentStageId operationKey operationType : String) :
    stableOperationId env workflowRunId parentStageId operationKey operationType ≠ "" := by
  intro empty
  have chars := congrArg String.toList empty
  simp [stableOperationId, String.toList_append] at chars

theorem operationIdentity_ne (env : ServiceEnv) (event : ZfEvent) (payload operation : Json) :
    (operationIdentity env event payload operation).operationId ≠ "" :=
  firstText_last (stableOperationId_ne env _ _ _ _)

/-- The envelope repeats the operation of the report. -/
theorem assess_operationId (report : Report) (env : ServiceEnv) (assessment : Assessment) :
    (report.assess env assessment).key.operationId =
      (report.assess env assessment).identity.operationId := by
  have field := Json.text_str (identityField report.event (assessment.payload report.event)
    (report.assess env assessment).identity "operation_id")
  have known : (report.assess env assessment).identity.operationId ≠ "" :=
    operationIdentity_ne env report.event report.event.body report.operation
  exact field.trans (firstText_cons known _)

section Admitted

variable (assessed : AssessedReport) (service : AdmissionService) (reportedId : String) (log : Log)

theorem admittedEvent_operationId :
    (assessed.admittedEvent service reportedId log).body.textAt "operation_id" =
      assessed.identity.operationId :=
  Json.text_str assessed.identity.operationId

theorem admittedEvent_controlResultRef :
    (assessed.admittedEvent service reportedId log).body.get "control_result_ref" =
      assessed.assessment.descriptor :=
  rfl

theorem admittedEvent_envelopeRef :
    (assessed.admittedEvent service reportedId log).body.get "envelope_ref" =
      assessed.envelopeRef :=
  rfl

/-- A row that admits the result shows it. -/
theorem admitCallResult_shown (row : OperationRow) :
    (admitCallResult row (assessed.admittedEvent service reportedId log)).shown =
      ⟨(assessed.admittedEvent service reportedId log).body.textAt "semantic_verdict",
        (assessed.admittedEvent service reportedId log).body.get "control_result_ref",
        (assessed.admittedEvent service reportedId log).id⟩ := by
  rw [OperationRow.shown, ShownResult.mk.injEq]
  refine ⟨rfl, ?_, rfl⟩
  rw [admitCallResult]
  dsimp only
  rw [replaceObject, admittedEvent_controlResultRef]
  rfl

end Admitted

/-- The report admits no result for the operation while it is settled. -/
def Report.SparesSettled (service : AdmissionService) (operationId : String) (log : Log)
    (report : Report) : Prop :=
  ∀ assessment ∈ report.assessment.toOption,
    Admits (report.assess service.env assessment) log →
    (report.assess service.env assessment).identity.operationId = operationId →
    ¬ StatusAt {} log operationId .settled

instance (service : AdmissionService) (operationId : String) (log : Log) (report : Report) :
    Decidable (report.SparesSettled service operationId log) := by
  unfold Report.SparesSettled
  infer_instance

theorem admitResult_keepsHalves {service : AdmissionService} {report : Report}
    {assessment : Assessment} {reportedId : String} {log : Log}
    (unsettled : (report.assess service.env assessment).identity.operationId = operationId →
      ¬ StatusAt {} log operationId .settled) :
    Grows (KeepsHalves operationId) log
      (admitResult service (report.assess service.env assessment) reportedId log).2 := by
  refine admitResult_grows (fun _ _ foreign => keepsHalves_of_foreign foreign operationId) ?_ ?_
  · refine ⟨fun _ names => unsettled ?_, fun address => ?_⟩
    · rw [← names, admittedEvent_operationId]
    · have isAdmitted : ((report.assess service.env assessment).admittedEvent service reportedId
          log).type = admittedType := rfl
      rw [addressed, isAdmitted, ofText?_admittedType] at address
      cases address
  · intro extended row existing causationId records found
    refine ⟨fun isAdmitted => absurd isAdmitted (text_ne_admittedType .settled), fun address => ?_⟩
    have here := (addressed_type address).2.1
    rw [Emission.event_operationId] at here
    have same : (report.assess service.env assessment).key.operationId = operationId :=
      (rowAt_key found).1.symm.trans here
    have identity := (assess_operationId report service.env assessment).symm.trans same
    rw [same] at found
    refine ⟨row, found, fun _ => ?_⟩
    rw [records.rowAt, rowAt_admitted rfl] at found
    obtain ⟨before, present, rfl⟩ := Option.map_eq_some_iff.mp found
    rw [if_pos ((admittedEvent_operationId _ _ _ _).trans identity)]
    have fresh : (admitCallResult before ((report.assess service.env assessment).admittedEvent
        service reportedId log)).status ≠ .settled := fun status =>
      unsettled identity ((statusAt_iff _ _ _ _).mpr ⟨before, present, status⟩)
    rw [SettlesShown, if_neg fresh]
    obtain ⟨added, rfl, _⟩ := records
    refine ⟨_, List.mem_append_left added (List.mem_append_right log (List.mem_singleton_self _)),
      rfl, (admittedEvent_operationId _ _ _ _).trans identity,
      admitCallResult_shown _ service reportedId log before, ?_⟩
    rw [admittedEvent_envelopeRef, AssessedReport.settlement, settleEmission_ref]
    rfl

theorem report_keepsHalves {service : AdmissionService} {report : Report}
    {log : Log} (spares : report.SparesSettled service operationId log) :
    Grows (KeepsHalves operationId) log (reportLegacyResult service report log).2 := by
  have recordedKeeps {before after : Log} (records : Recorded before after) :
      Grows (KeepsHalves operationId) before after :=
    records.mono fun _ _ foreign => keepsHalves_of_foreign foreign operationId
  have effect := reportLegacyResult_effect service report log
  generalize (reportLegacyResult service report log).2 = after at effect ⊢
  cases effect with
  | recorded records => exact recordedKeeps records
  | superseded records emission =>
      exact (recordedKeeps records).trans (emission_keepsHalves _ _ (by decide) operationId)
  | failed records attached assessable exhausts causationId =>
      exact (recordedKeeps records).trans (emission_keepsHalves _ _ (by decide) operationId)
  | admitted records assessable admits reportedId =>
      refine (recordedKeeps records).trans (admitResult_keepsHalves fun names => ?_)
      rw [StatusAt, records.rowAt]
      refine spares _ ?_ admits names
      rw [assessable]
      rfl

/-- No result is admitted for the operation while it is settled, and direct
settlements name the result that its row shows. -/
def KeepsResult (service : AdmissionService) (operationId : String) (log : Log) :
    RuntimeCall → Prop
  | .report report => report.SparesSettled service operationId log
  | .service (.settle target result summary) => NamesShown operationId log target result summary
  | .service _ => True

instance (service : AdmissionService) (operationId : String) (log : Log) (call : RuntimeCall) :
    Decidable (KeepsResult service operationId log call) :=
  match call with
  | .report report => inferInstanceAs (Decidable (report.SparesSettled service operationId log))
  | .service (.settle target result summary) =>
      inferInstanceAs (Decidable (NamesShown operationId log target result summary))
  | .service (.ensure ..) | .service (.reserve ..) | .service (.markStarted ..)
  | .service (.supersede ..) | .service (.markRetryStarted ..) | .service (.cancel ..)
  | .service (.block ..) | .service (.interrupt ..) | .service (.admitRedrive ..)
  | .service (.fail ..) => inferInstanceAs (Decidable True)

/-- Along such a run a settled operation always shows the result that it refers
to, and keeps it as long as it stays settled. -/
theorem settled_result_held {service : AdmissionService} {operationId : String}
    {calls : List RuntimeCall}
    (keeps : Runs.Along (runtimeStep service) (KeepsResult service operationId) [] calls) :
    Runs.Along grow (ResultHeld operationId) [] (Runs.run (runtimeStep service) [] calls) := by
  have grown : Grows (KeepsHalves operationId) [] (Runs.run (runtimeStep service) [] calls) := by
    refine Runs.Along.invariant (Grows (KeepsHalves operationId) []) ?_ (.refl []) keeps
    intro log call before allowed
    refine before.trans ?_
    cases call with
    | report report => exact report_keepsHalves allowed
    | service call =>
        refine serve_keepsHalves fun target result summary same => ?_
        subst same
        exact allowed
  refine resultHeld_along (fun row found => ?_) grown.along
  cases found

theorem first_result_held :
    Runs.Along grow (ResultHeld "op-1") [] (Runs.run (runtimeStep sampleService) []
      settledCalls) := by
  apply settled_result_held
  decide +kernel

/-- The calls that request, start, report and settle. -/
def RuntimeCall.ReportsOrSettles : RuntimeCall → Prop
  | .report _ => True
  | .service (.ensure ..) => True
  | .service (.markStarted ..) => True
  | .service (.settle ..) => True
  | .service _ => False

/-- A second valid result replaces the verdict of a settled operation, which
still refers to the first one. -/
theorem second_result_splits_row :
    ¬ ∀ (service : AdmissionService) (operationId : String) (calls : List RuntimeCall),
      (∀ call ∈ calls, call.ReportsOrSettles) →
      Coherent operationId (Runs.run (runtimeStep service) [] calls) := by
  intro always
  have coherent := always sampleService "op-1"
    (settledCalls ++ [sampleReport "evt-r2" "d2" "fail" []]) (by
      intro call member
      simp only [settledCalls, List.cons_append, List.nil_append, List.mem_cons,
        List.not_mem_nil, or_false] at member
      rcases member with rfl | rfl | rfl | rfl <;> exact True.intro)
  exact absurd coherent (by decide +kernel)

end ZaofuFormal.Workflow
