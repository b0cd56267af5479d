import ZaofuFormal.Workflow.CallResult
import ZaofuFormal.Workflow.ServiceTransitions

/-!
# What a runtime call appends

Properties of operations over a run are properties of the events that the run
appends.  `Grows` carries such a property from single events to whole calls,
and `ReportEffect` lists the four shapes that the log can take after a report.
-/

namespace ZaofuFormal.Workflow

open Foundation

/-- The log grows by events that are allowed where they are appended. -/
def Grows (allowed : Log → ZfEvent → Prop) (before after : Log) : Prop :=
  ∃ added, after = before ++ added ∧ Runs.Along grow allowed before added

namespace Grows

variable {allowed weaker : Log → ZfEvent → Prop} {first second third : Log}

theorem refl (log : Log) : Grows allowed log log :=
  ⟨[], (List.append_nil log).symm, True.intro⟩

theorem trans (earlier : Grows allowed first second) (later : Grows allowed second third) :
    Grows allowed first third := by
  obtain ⟨added, rfl, along⟩ := earlier
  obtain ⟨more, rfl, further⟩ := later
  refine ⟨added ++ more, List.append_assoc _ _ _, ?_⟩
  rw [Runs.along_append, run_grow]
  exact ⟨along, further⟩

theorem append {log : Log} {event : ZfEvent} (admissible : allowed log event) :
    Grows allowed log (log ++ [event]) :=
  ⟨[event], rfl, admissible, True.intro⟩

theorem mono (weaken : ∀ log event, allowed log event → weaker log event)
    (grows : Grows allowed first second) : Grows weaker first second := by
  obtain ⟨added, rfl, along⟩ := grows
  exact ⟨added, rfl, along.mono weaken⟩

/-- A log that grew from nothing is allowed throughout. -/
theorem along {log : Log} (grows : Grows allowed [] log) : Runs.Along grow allowed [] log := by
  obtain ⟨added, rfl, along⟩ := grows
  exact along

/-- A property that every allowed event preserves holds at the end. -/
theorem invariant (holds : Log → Prop)
    (preserved : ∀ log event, holds log → allowed log event → holds (log ++ [event]))
    (initial : holds first) (grows : Grows allowed first second) : holds second := by
  obtain ⟨added, rfl, along⟩ := grows
  rw [← run_grow]
  exact Runs.Along.invariant holds preserved initial along

end Grows

variable {log : Log} {event : ZfEvent} {service : AdmissionService}

/-- An emission grows the log by its event, unless it is a replay. -/
theorem emitOnce_grows {allowed : Log → ZfEvent → Prop} {env : ServiceEnv}
    {type : OperationEventType} {emission : Emission}
    (admissible : (¬ ∃ event ∈ log, Replays type emission event) →
      allowed log (emission.event env type (rowAt {} log emission.operationId) log)) :
    Grows allowed log (emitOnce env type emission log).2 := by
  rcases emitOnce_log env type emission log with same | ⟨fresh, extended⟩
  · rw [same]
    exact .refl log
  · rw [extended]
    exact .append (admissible fresh)

/-- The reducer skips the event. -/
def Foreign (event : ZfEvent) : Prop :=
  OperationEventType.ofText? event.type = none ∧ event.type ≠ admittedType

theorem rowAt_foreign (foreign : Foreign event)
    (operationId : String) : rowAt {} (log ++ [event]) operationId = rowAt {} log operationId := by
  have nowhere : addressed {} event = none := by rw [addressed, foreign.1]
  cases reduced : reduceWorkflowOperations {} log with
  | error error => rw [rowAt_of_error reduced, rowAt, reduced]
  | ok operations =>
      have applied : applyEvent {} operations event = .ok operations := by
        rw [applyEvent, if_neg foreign.2, nowhere]
      rw [rowAt_append reduced applied, rowAt, reduced]

/-- Only events that the reducer skips were appended. -/
abbrev Recorded (before after : Log) : Prop := Grows (fun _ event => Foreign event) before after

theorem Recorded.rowAt {before after : Log} (recorded : Recorded before after)
    (operationId : String) : rowAt {} after operationId = rowAt {} before operationId :=
  Grows.invariant (fun log => Workflow.rowAt {} log operationId =
      Workflow.rowAt {} before operationId)
    (fun _ _ same foreign => (rowAt_foreign foreign operationId).trans same) rfl recorded

/-- The result is valid and was not admitted before. -/
def Admits (assessed : AssessedReport) (log : Log) : Prop :=
  assessed.assessment.currentnessIssues = [] ∧ assessed.issues = [] ∧
    existingAdmission assessed.key log = none

instance (assessed : AssessedReport) (log : Log) : Decidable (Admits assessed log) :=
  inferInstanceAs (Decidable (_ ∧ _))

/-- The result is invalid for the first time and no round of repair is left. -/
def Exhausts (service : AdmissionService) (assessed : AssessedReport) (log : Log) : Prop :=
  assessed.assessment.currentnessIssues = [] ∧ assessed.issues ≠ [] ∧
    assessed.report.mode ≠ .shadow ∧ existingRepair assessed.key log = none ∧
    existingInvalid assessed.key log = none ∧
    ∃ repairRound ∈ nextRepairRound assessed.key log, (service.repairCap : Int) < repairRound

instance (service : AdmissionService) (assessed : AssessedReport) (log : Log) :
    Decidable (Exhausts service assessed log) :=
  inferInstanceAs (Decidable (_ ∧ _))

theorem latestRecord_append {type : String} {digest : Json → String} {key : ResultKey}
    (other : event.type ≠ type) :
    latestRecord type digest key (log ++ [event]) = latestRecord type digest key log := by
  unfold latestRecord
  rw [List.reverse_append, List.reverse_singleton, List.singleton_append, List.find?_cons_of_neg]
  simp [other]

theorem nextRepairRound_append {key : ResultKey} (other : event.type ≠ repairRequestedType) :
    nextRepairRound key (log ++ [event]) = nextRepairRound key log := by
  unfold nextRepairRound
  rw [List.foldlM_append]
  cases log.foldlM (noteRepairRound key) 0 with
  | none => rfl
  | some rounds => simp [noteRepairRound, other]

/-- The log after a report. -/
inductive ReportEffect (service : AdmissionService) (report : Report) (log : Log) : Log → Prop where
  | recorded {extended : Log} (records : Recorded log extended) :
      ReportEffect service report log extended
  | superseded {extended : Log} (records : Recorded log extended) (emission : Emission) :
      ReportEffect service report log (emitOnce service.env .superseded emission extended).2
  | failed {extended : Log} {assessment : Assessment} (records : Recorded log extended)
      (attached : service.operationService = true)
      (assessable : report.assessment = .ok assessment)
      (exhausts : Exhausts service (report.assess service.env assessment) log)
      (causationId : String) :
      ReportEffect service report log (fail service.env
        ((report.assess service.env assessment).target causationId) "output_repair_exhausted"
        Dict.empty extended).2
  | admitted {extended : Log} {assessment : Assessment} (records : Recorded log extended)
      (assessable : report.assessment = .ok assessment)
      (admits : Admits (report.assess service.env assessment) log) (reportedId : String) :
      ReportEffect service report log (admitResult service
        (report.assess service.env assessment) reportedId extended).2

theorem foreign_of_type {type : String} (isType : event.type = type)
    (foreign : OperationEventType.ofText? type = none ∧ type ≠ admittedType) : Foreign event := by
  rw [Foreign, isType]
  exact foreign

/-- Only reported events were appended. -/
abbrev Reported (before after : Log) : Prop :=
  Grows (fun _ event => event.type = reportedType) before after

theorem Reported.recorded {before after : Log} (reported : Reported before after) :
    Recorded before after :=
  reported.mono fun _ _ isReported => foreign_of_type isReported (by decide)

/-- Reported events keep every other record of a result. -/
theorem Reported.latestRecord {before after : Log} (reported : Reported before after)
    {type : String} (other : reportedType ≠ type) (digest : Json → String) (key : ResultKey) :
    latestRecord type digest key after = latestRecord type digest key before :=
  Grows.invariant (fun log => Workflow.latestRecord type digest key log =
      Workflow.latestRecord type digest key before)
    (fun _ _ same isReported => (latestRecord_append (isReported ▸ other)).trans same) rfl reported

theorem Reported.nextRepairRound {before after : Log} (reported : Reported before after)
    (key : ResultKey) : nextRepairRound key after = nextRepairRound key before :=
  Grows.invariant (fun log => Workflow.nextRepairRound key log =
      Workflow.nextRepairRound key before)
    (fun _ _ same isReported =>
      (nextRepairRound_append (isReported ▸ by decide)).trans same) rfl reported

theorem emitReportedOnce_reports (service : AdmissionService) (assessed : AssessedReport)
    (log : Log) : Reported log (emitReportedOnce service assessed log).2 := by
  unfold emitReportedOnce
  split
  · exact .refl log
  · exact .append rfl

theorem withOperation_log (service : AdmissionService) (operationId : String)
    (outcome : CallResultAdmissionOutcome)
    (call : OperationRow → Log → Except ServiceError (Option ZfEvent) × Log) (log : Log) :
    (withOperation service operationId outcome call log).2 = log ∨
      ∃ row, service.operationService = true ∧ rowAt {} log operationId = some row ∧
        (withOperation service operationId outcome call log).2 = (call row log).2 := by
  unfold withOperation
  split
  · exact Or.inl rfl
  · rename_i attached
    cases loaded : loadWorkflowOperation log operationId with
    | error error => exact Or.inl rfl
    | ok found =>
        cases found with
        | none => exact Or.inl rfl
        | some row =>
            refine Or.inr ⟨row, ?_, loadWorkflowOperation_eq_some.mp loaded, rfl⟩
            simpa using attached

theorem foreign_invalid (isInvalid : event.type = invalidType) : Foreign event :=
  foreign_of_type isInvalid (by decide)

theorem foreign_repair (isRepair : event.type = repairRequestedType) : Foreign event :=
  foreign_of_type isRepair (by decide)

theorem recordStaleOnce_records (service : AdmissionService) (assessed : AssessedReport)
    (reportedId : String) (log : Log) :
    Recorded log (recordStaleOnce service assessed reportedId log).2 := by
  unfold recordStaleOnce
  split
  · exact .refl log
  · exact .append (foreign_invalid rfl)

theorem reportStale_effect {report : Report} {extended : Log}
    (records : Recorded log extended) (assessed : AssessedReport) (reportedId : String) :
    ReportEffect service report log (reportStale service assessed reportedId extended).2 := by
  have more := records.trans (recordStaleOnce_records service assessed reportedId extended)
  unfold reportStale
  dsimp only
  rcases withOperation_log service assessed.key.operationId _ _ _ with same | ⟨row, _, _, same⟩
  · rw [same]
    exact .recorded more
  · rw [same]
    split
    · exact .superseded more _
    · exact .recorded more

theorem exhaustRepair_effect {report : Report}
    {extended : Log} {assessment : Assessment} (records : Recorded log extended)
    (assessable : report.assessment = .ok assessment)
    (exhausts : Exhausts service (report.assess service.env assessment) log)
    (reportedId : String) (repairRound : Int) :
    ReportEffect service report log (exhaustRepair service
      (report.assess service.env assessment) reportedId repairRound extended).2 := by
  unfold exhaustRepair
  dsimp only
  split
  · exact .recorded records
  · have more := records.trans (Grows.append (foreign_invalid
      (show (((report.assess service.env assessment).invalidDraft service.repairCap reportedId
        "output_repair_exhausted" (report.assess service.env assessment).issues
        (repairRound - 1)).enrich service.env.writer extended).type = invalidType from rfl)))
    rcases withOperation_log service (report.assess service.env assessment).key.operationId _ _ _
      with same | ⟨row, attached, _, same⟩
    · rw [same]
      exact .recorded more
    · rw [same]
      exact .failed more attached assessable exhausts _

theorem reportInvalid_effect {report : Report}
    {extended : Log} {assessment : Assessment} (reported : Reported log extended)
    (assessable : report.assessment = .ok assessment)
    (current : assessment.currentnessIssues = [])
    (faulty : (report.assess service.env assessment).issues ≠ []) (reportedId : String) :
    ReportEffect service report log (reportInvalid service
      (report.assess service.env assessment) reportedId extended).2 := by
  unfold reportInvalid
  dsimp only
  split
  · exact .recorded reported.recorded
  · rename_i strict
    split
    · split <;> exact .recorded reported.recorded
    · rename_i noRepair
      split
      · exact .recorded reported.recorded
      · rename_i repairRound round
        split
        · refine .recorded (reported.recorded.trans (.append ?_))
          exact foreign_repair rfl
        · rename_i exceeded
          cases known : existingInvalid (report.assess service.env assessment).key extended with
          | some invalid =>
              unfold exhaustRepair
              rw [known]
              exact .recorded reported.recorded
          | none =>
              refine exhaustRepair_effect reported.recorded assessable ?_ reportedId repairRound
              refine ⟨current, faulty, strict, ?_, ?_, repairRound, ?_, not_le.mp exceeded⟩
              · rw [← noRepair]
                exact (reported.latestRecord (by decide) _ _).symm
              · rw [← known]
                exact (reported.latestRecord (by decide) _ _).symm
              · rw [Option.mem_def, ← round]
                exact (reported.nextRepairRound _).symm

/-- The log after a report has one of the four shapes. -/
theorem reportLegacyResult_effect (service : AdmissionService) (report : Report) (log : Log) :
    ReportEffect service report log (reportLegacyResult service report log).2 := by
  unfold reportLegacyResult
  cases assessable : report.assessment with
  | error message => exact .recorded (.refl log)
  | ok assessment =>
      dsimp only
      have reported :=
        emitReportedOnce_reports service (report.assess service.env assessment) log
      split
      · exact .recorded (.refl log)
      · rename_i fresh
        split
        · exact reportStale_effect reported.recorded _ _
        · rename_i current
          split
          · rename_i faulty
            exact reportInvalid_effect reported assessable (not_not.mp current) faulty _
          · rename_i valid
            refine .admitted reported.recorded assessable
              ⟨not_not.mp current, not_not.mp valid, ?_⟩ _
            cases known : existingAdmission (report.assess service.env assessment).key log with
            | none => rfl
            | some existing =>
                exact (fresh existing known (not_not.mp current) (not_not.mp valid)).elim

/-- The event that admits the result. -/
def AssessedReport.admittedEvent (assessed : AssessedReport) (service : AdmissionService)
    (reportedId : String) (log : Log) : ZfEvent :=
  (assessed.admittedDraft reportedId).enrich service.env.writer log

/-- The settlement that an admitted result asks for. -/
def AssessedReport.settlement (assessed : AssessedReport) (causationId : String) : Emission :=
  settleEmission (assessed.target causationId) assessed.envelopeRef
    (assessed.assessment.providerSummaryRef.getD (.obj []))

theorem recordProviderSummary_records (service : AdmissionService) (assessed : AssessedReport)
    (admittedId : String) (log : Log) :
    Recorded log (recordProviderSummary service assessed admittedId log) := by
  have summaryForeign : OperationEventType.ofText? providerSummaryType = none ∧
      providerSummaryType ≠ admittedType := by decide
  unfold recordProviderSummary
  split
  · exact .append summaryForeign
  · exact .refl log

theorem settle_grows {allowed : Log → ZfEvent → Prop} {env : ServiceEnv} {target : Target}
    {result summary : Json}
    (admissible : result.textAt "ref" ≠ "" → result.textAt "sha256" ≠ "" →
      (¬ ∃ event ∈ log, Replays .settled (settleEmission target result summary) event) →
      allowed log ((settleEmission target result summary).event env .settled
        (rowAt {} log target.operationId) log)) :
    Grows allowed log (settle env target result summary log).2 := by
  unfold settle
  split
  · exact .refl log
  · rename_i stored
    obtain ⟨referenced, digested⟩ := not_or.mp stored
    exact emitOnce_grows (admissible referenced digested)

/-- An admission appends the admitted event, skipped records and the settlement
of a known operation. -/
theorem admitResult_grows {allowed : Log → ZfEvent → Prop}
    {assessed : AssessedReport} {reportedId : String}
    (foreign : ∀ log event, Foreign event → allowed log event)
    (admits : allowed log (assessed.admittedEvent service reportedId log))
    (settles : ∀ extended row existing causationId,
      Recorded (log ++ [assessed.admittedEvent service reportedId log]) extended →
      rowAt {} extended assessed.key.operationId = some row →
      allowed extended ((assessed.settlement causationId).event service.env .settled existing
        extended)) :
    Grows allowed log (admitResult service assessed reportedId log).2 := by
  have records := recordProviderSummary_records service assessed
    (assessed.admittedEvent service reportedId log).id
    (log ++ [assessed.admittedEvent service reportedId log])
  refine (Grows.append admits).trans ((records.mono foreign).trans ?_)
  unfold admitResult
  dsimp only
  rcases withOperation_log service assessed.key.operationId _ _ _ with same | ⟨row, _, found, same⟩
  · rw [same]
    exact .refl _
  · rw [same]
    exact settle_grows fun _ _ _ => settles _ row _ _ records found

end ZaofuFormal.Workflow
