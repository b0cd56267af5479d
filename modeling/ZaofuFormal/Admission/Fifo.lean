import ZaofuFormal.Admission.Selection

/-!
# First come, first served

A reconcile pass admits the head of the queue, which no other queued run precedes.
A live invoke that arrives between the end of one run and the next pass takes the
same admission path and finds the slot free, whoever is waiting.  Apart from such
arrivals serial admission follows the order of the queue.
-/

namespace ZaofuFormal.Admission

open Foundation Foundation.Runs Workflow

def stillQueued (log : Log) (runId : String) : Bool :=
  ((runsOf log).get? runId).any fun entry => decide (entry.status = .queued)

/-- Another run is still queued that was queued before the first request of this one. -/
def Overtaken (log : Log) (runId : String) : Prop :=
  ∃ other, other ≠ runId ∧ stillQueued log other = true ∧
    ∃ position asked, firstIndex log other .queued = some position ∧
      firstIndex log runId .requested = some asked ∧ position < asked

/-- No run is admitted past one that was queued before its first request. -/
def Fifo (log : Log) : Prop :=
  ∀ before event after, log = before ++ event :: after →
    runEvent? event = some (.admission .admitted) → ¬Overtaken before (eventRunId event)

/-- Still queued, and queued before the first request of a run, be it on record or still to come. -/
def Ahead (log : Log) (runId other : String) : Prop :=
  stillQueued log other = true ∧ ∃ position, firstIndex log other .queued = some position ∧
    position < (firstIndex log runId .requested).getD log.length

/-- An admission call that would be granted past a run of the queue. -/
def Overtakes (log : Log) (source : ZfEvent) : Prop :=
  settledDecision source (buildRunAdmissionProjection log) = none ∧
    activeOthers source log = [] ∧ ∃ other ∈ (runsOf log).keys, other ≠ eventRunId source ∧
      Ahead log (eventRunId source) other

instance (log : Log) (runId other : String) : Decidable (Ahead log runId other) :=
  decidable_of_iff (stillQueued log other = true ∧
      (firstIndex log other .queued).any (fun position =>
        decide (position < (firstIndex log runId .requested).getD log.length)) = true) <| by
    rw [Ahead, Option.any_eq_true]
    simp only [decide_eq_true_eq]

instance (log : Log) (source : ZfEvent) : Decidable (Overtakes log source) := by
  unfold Overtakes
  infer_instance

def Handling.asks (handling : Handling) : Bool :=
  match handling.verdict with
  | .refuse _ _ _ => false
  | .admits _ => true

/-- Live invokes do not overtake the queue. -/
def SystemStep.InTurn (log : Log) : SystemStep → Prop
  | .admitInvoke source => ¬Overtakes log source
  | .handle handling source => handling.asks = true → ¬Overtakes log source
  | _ => True

instance (log : Log) : (step : SystemStep) → Decidable (step.InTurn log)
  | .admitInvoke source => inferInstanceAs (Decidable (¬Overtakes log source))
  | .handle handling source =>
      inferInstanceAs (Decidable (handling.asks = true → ¬Overtakes log source))
  | .submit _ | .reject _ _ | .reconcile _ | .record _ => inferInstanceAs (Decidable True)

theorem Ahead.mem_keys {log : Log} {runId other : String} (ahead : Ahead log runId other) :
    other ∈ (runsOf log).keys := by
  obtain ⟨entry, found, _⟩ := (Option.any_eq_true _ _).mp ahead.1
  exact List.mem_map.mpr ⟨(other, entry), (Dict.get?_eq_some_iff _ _ _).mp found, rfl⟩

theorem fifo_append {log : Log} {event : ZfEvent} :
    Fifo (log ++ [event]) ↔ Fifo log ∧
      (runEvent? event = some (.admission .admitted) → ¬Overtaken log (eventRunId event)) := by
  constructor
  · intro fifo
    refine ⟨fun before other after split => ?_, fifo log event [] rfl⟩
    refine fifo before other (after ++ [event]) ?_
    rw [split, List.append_assoc, List.cons_append]
  · rintro ⟨fifo, last⟩ before other after split admitted
    rcases List.eq_nil_or_concat after with rfl | ⟨rest, item, rfl⟩
    · obtain ⟨rfl, same⟩ := List.append_inj' split rfl
      cases same
      exact last admitted
    · rw [List.concat_eq_append, ← List.cons_append, ← List.append_assoc] at split
      obtain ⟨earlier, _⟩ := List.append_inj' split rfl
      exact fifo before other rest earlier admitted

section Appends

variable {runtime : Runtime} {log : Log} {source : ZfEvent}

theorem Fifo.recorded (fifo : Fifo log) {kind : AdmissionKind}
    (other : kind ≠ .admitted) (named : eventRunId source ≠ "") (extra : List (String × Json)) :
    Fifo (recordAdmission runtime kind source extra log) := by
  rcases recordAdmission_cases runtime kind source extra log with ⟨same, _⟩ | appended
  · rw [same]
    exact fifo
  · rw [appended, fifo_append]
    refine ⟨fifo, fun admitted => ?_⟩
    rw [admissionEvent_runEvent? runtime kind extra log named] at admitted
    cases admitted
    exact absurd rfl other

theorem Fifo.silent (fifo : Fifo log) {event : ZfEvent}
    (silent : runEvent? event ≠ some (.admission .admitted)) : Fifo (log ++ [event]) :=
  fifo_append.mpr ⟨fifo, fun admitted => absurd admitted silent⟩

theorem Fifo.sideEvents (fifo : Fifo log) (sides : List SideEvent) :
    Fifo (log ++ sides.map SideEvent.event) := by
  induction sides generalizing log with
  | nil => simpa using fifo
  | cons side rest ih =>
      have first : Fifo (log ++ [side.event]) := fifo.silent (by rw [side.silent]; simp)
      have later := ih first
      rwa [List.append_assoc, List.singleton_append] at later

theorem Fifo.reject (fifo : Fifo log) (source : ZfEvent) (reason : String) :
    Fifo (rejectWorkflowInvokeAdmission runtime source reason log) := by
  unfold rejectWorkflowInvokeAdmission
  split
  · exact fifo
  · rename_i named
    split
    · exact fifo
    · exact (fifo.recorded (by simp) named _).recorded (by simp) named _

theorem Fifo.followUps (fifo : Fifo log) (named : eventRunId source ≠ "")
    (followUps : List FollowUp) : Fifo (followUps.foldl (FollowUp.apply runtime source) log) := by
  induction followUps generalizing log with
  | nil => exact fifo
  | cons followUp rest ih =>
      refine ih ?_
      cases followUp with
      | note side => exact fifo.silent (by rw [side.silent]; simp)
      | accept taskId fields =>
          refine fifo.silent fun admitted => ?_
          have type : "workflow.invoke.accepted" = AdmissionKind.admitted.type :=
            type_of_admission admitted
          exact absurd type (by decide)
      | refuse taskId patternId reason =>
          refine (fifo.silent ?_).reject source reason
          rw [runEvent?_rejection rfl]
          simp

variable {other runId : String}

theorem stillQueued_append_other {concerned : String} {event : ZfEvent}
    (core : Core runtime.writer log) (stamped : Stamped runtime.writer)
    (appended : Appendable runtime.writer log concerned event) (different : concerned ≠ other) :
    stillQueued (log ++ [event]) other = stillQueued log other := by
  rw [stillQueued, runsOf_append_other core stamped appended different, stillQueued]

/-- An event of the run itself, or of none, puts nobody ahead of it. -/
theorem Ahead.of_append {concerned : String} {event : ZfEvent}
    (core : Core runtime.writer log) (stamped : Stamped runtime.writer)
    (appended : Appendable runtime.writer log concerned event) (different : concerned ≠ other)
    (ahead : Ahead (log ++ [event]) runId other) : Ahead log runId other := by
  obtain ⟨queued, position, first, below⟩ := ahead
  rw [stillQueued_append_other core stamped appended different] at queued
  rw [firstIndex_append_other appended different] at first
  refine ⟨queued, position, first, ?_⟩
  have inside := lt_of_firstIndex first
  rw [firstIndex_append] at below
  cases asked : firstIndex log runId .requested with
  | none => exact inside
  | some index =>
      rw [asked, Option.some_or] at below
      exact below

theorem Ahead.of_sideEvents (stamped : Stamped runtime.writer)
    (named : other ≠ "") (sides : List SideEvent) {own : String}
    (beside : Beside runtime.writer own log)
    (ahead : Ahead (log ++ sides.map SideEvent.event) runId other) : Ahead log runId other := by
  induction sides generalizing log with
  | nil => simpa using ahead
  | cons side rest ih =>
      have appended : Appendable runtime.writer log "" side.event := .side side
      have grown := beside.append stamped appended (Or.inl rfl)
      refine Ahead.of_append beside.core stamped appended named.symm (ih grown ?_)
      rwa [List.append_assoc, List.singleton_append]

theorem Ahead.of_recordAdmission (kind : AdmissionKind) (extra : List (String × Json))
    (stamped : Stamped runtime.writer)
    (beside : Beside runtime.writer (eventRunId source) log) (invoked : Invoked log source)
    (named : eventRunId source ≠ "") (queuing : kind ≠ .queued)
    (different : eventRunId source ≠ other)
    (ahead : Ahead (recordAdmission runtime kind source extra log) runId other) :
    Ahead log runId other := by
  rcases recordAdmission_cases runtime kind source extra log with ⟨same, _⟩ | appended
  · rwa [same] at ahead
  · rw [appended] at ahead
    exact Ahead.of_append beside.core stamped
      (appendable_admissionEvent runtime kind extra invoked named fun queued =>
        absurd queued queuing) different ahead

theorem Ahead.of_released {queued : Bool}
    (stamped : Stamped runtime.writer) (beside : Beside runtime.writer (eventRunId source) log)
    (invoked : Invoked log source) (named : eventRunId source ≠ "")
    (different : eventRunId source ≠ other)
    (ahead : Ahead (releasedLog runtime source queued log) runId other) :
    Ahead log runId other := by
  cases queued with
  | false => exact ahead
  | true =>
      exact Ahead.of_append beside.core stamped
        (appendable_admissionEvent runtime .released releasedFields invoked named (by simp))
        different ahead

theorem ahead_of_overtaken (overtaken : Overtaken log runId) :
    ∃ other, other ≠ runId ∧ Ahead log runId other := by
  obtain ⟨other, different, queued, position, asked, first, request, below⟩ := overtaken
  refine ⟨other, different, queued, position, first, ?_⟩
  rw [request]
  exact below

theorem activeOthers_eq_nil_iff : activeOthers source log = [] ↔
    ∀ runId, runId ≠ eventRunId source → ¬Active log runId := by
  rw [activeOthers, List.filter_eq_nil_iff]
  constructor
  · intro none runId different active
    exact none runId active (decide_eq_true different)
  · intro none runId active different
    exact none runId (of_decide_eq_true different) active

/-- A granted call of a run that overtakes nobody keeps the order. -/
theorem Fifo.admit (fifo : Fifo log) (serial : runtime.mode = .serial)
    (stamped : Stamped runtime.writer) (tracked : Tracked runtime.writer log)
    (invoked : Invoked log source) (inTurn : ¬Overtakes log source) :
    Fifo (admitWorkflowInvoke runtime source log).2 := by
  rcases admitWorkflowInvoke_cases runtime source log with
    ⟨same, _⟩ | ⟨named, unsettled, ⟨blocker, same, _⟩ | ⟨same, free⟩⟩
  · rw [same]
    exact fifo
  · rw [same]
    exact (fifo.recorded (by simp) named _).recorded (by simp) named _
  · have working : Beside runtime.writer (eventRunId source) log := tracked.open
    have asked : Fifo (recordAdmission runtime .requested source [] log) :=
      fifo.recorded (by simp) named _
    obtain ⟨beside, known⟩ := recordAdmission_beside .requested [] stamped working invoked named
      (by simp)
    have stage := unsettled_stage (tracked.staged _ named named) unsettled
    obtain ⟨entry, found, pending, _⟩ :=
      pending_of_requested stamped tracked.core invoked named stage
    have alone : activeOthers source log = [] := by
      have empty : activeOthers source (recordAdmission runtime .requested source [] log) = [] := by
        rw [Runtime.maxActiveRuns_serial serial] at free
        exact List.length_eq_zero_iff.mp (by omega)
      rw [activeOthers_eq_nil_iff] at empty ⊢
      intro runId different active
      refine empty runId different ((active_congr ?_).mpr active)
      exact recordAdmission_get?_other named tracked.core.sourced different
    rw [same, grant_eq stamped beside.core known pending.ungranted, fifo_append]
    constructor
    · cases wasQueued source log with
      | false => exact asked
      | true =>
          refine asked.silent ?_
          rw [admissionEvent_runEvent? runtime .released _ _ named]
          simp
    · intro _ overtaken
      have own : eventRunId (admittedEvent runtime source (wasQueued source log)
          (recordAdmission runtime .requested source [] log)) = eventRunId source :=
        admissionEvent_runId runtime .admitted _ _ named
      rw [own] at overtaken
      obtain ⟨other, different, ahead⟩ := ahead_of_overtaken overtaken
      have before : Ahead log (eventRunId source) other := by
        refine Ahead.of_recordAdmission .requested [] stamped working invoked named (by simp)
          different.symm ?_
        exact Ahead.of_released stamped beside known named different.symm ahead
      exact inTurn ⟨unsettled, alone, other, before.mem_keys, different, before⟩

theorem sideEvents_get? (stamped : Stamped runtime.writer) {own : String}
    (beside : Beside runtime.writer own log) (named : runId ≠ "") (sides : List SideEvent) :
    (runsOf (log ++ sides.map SideEvent.event)).get? runId = (runsOf log).get? runId := by
  induction sides generalizing log with
  | nil => simp
  | cons side rest ih =>
      have appended : Appendable runtime.writer log "" side.event := .side side
      have later := ih (beside.append stamped appended (Or.inl rfl))
      rw [List.append_assoc, List.singleton_append] at later
      exact later.trans (runsOf_append_other beside.core stamped appended named.symm)

theorem overtakes_of_sideEvents (stamped : Stamped runtime.writer)
    (tracked : Tracked runtime.writer log) (named : eventRunId source ≠ "")
    (sides : List SideEvent)
    (overtakes : Overtakes (log ++ sides.map SideEvent.event) source) : Overtakes log source := by
  obtain ⟨unsettled, alone, other, _, different, ahead⟩ := overtakes
  have nonempty : other ≠ "" := by
    obtain ⟨entry, found, _⟩ := (Option.any_eq_true _ _).mp ahead.1
    exact ne_empty_of_found found
  have before := ahead.of_sideEvents stamped nonempty sides tracked
  refine ⟨?_, ?_, other, before.mem_keys, different, before⟩
  · exact (settledDecision_none_congr (sideEvents_get? stamped tracked named sides)).mp unsettled
  · rw [activeOthers_eq_nil_iff] at alone ⊢
    intro runId distinct active
    obtain ⟨entry, found, _⟩ := (active_iff log runId).mp active
    refine alone runId distinct ((active_congr ?_).mpr active)
    exact sideEvents_get? stamped tracked (ne_empty_of_found found) sides

theorem admit_unnamed (runtime : Runtime) (log : Log) (unnamed : eventRunId source = "") :
    (admitWorkflowInvoke runtime source log).2 = log ∧
      (admitWorkflowInvoke runtime source log).1.status ≠ .admitted := by
  rcases admitWorkflowInvoke_cases runtime source log with ⟨same, running⟩ | ⟨named, _⟩
  · exact ⟨same, fun admitted => (running admitted).1 unnamed⟩
  · exact absurd unnamed named

theorem Fifo.handle (fifo : Fifo log) (serial : runtime.mode = .serial)
    (stamped : Stamped runtime.writer) (tracked : Tracked runtime.writer log)
    (invoked : Invoked log source) (handling : Handling)
    (inTurn : handling.asks = true → ¬Overtakes log source) :
    Fifo (handleInvoke runtime handling source log) := by
  have begun := fifo.sideEvents handling.preface
  have still := sideEvents_beside stamped tracked handling.preface
  have known := invoked.mono (List.prefix_append log (handling.preface.map SideEvent.event))
  unfold handleInvoke
  unfold Handling.asks at inTurn
  cases verdict : handling.verdict with
  | refuse taskId patternId reason =>
      refine (begun.silent ?_).reject source reason
      rw [runEvent?_rejection rfl]
      simp
  | admits followUps =>
      rw [verdict] at inTurn
      by_cases named : eventRunId source ≠ ""
      · have ordered : ¬Overtakes (log ++ handling.preface.map SideEvent.event) source :=
          fun overtakes => inTurn rfl (overtakes_of_sideEvents stamped tracked named _ overtakes)
        have admitted := begun.admit serial stamped still known ordered
        simp only
        split
        · exact admitted.followUps named followUps
        · exact admitted
      · obtain ⟨same, refused⟩ := admit_unnamed runtime
          (log ++ handling.preface.map SideEvent.event) (not_not.mp named)
        simp only [if_neg refused, same]
        exact begun

/-- A waiting run that is selected in a new pass is the head of the queue. -/
theorem queue_split_of_waiting {before after : List String} {entry : RunAdmissionEntry}
    (split : reconcileCandidates runtime log = before ++ eventRunId source :: after)
    (status : entry.status = .queued)
    (found : (runsOf log).get? (eventRunId source) = some entry)
    (tried : ∀ runId ∈ before, Tried [] log runId) :
    (buildRunAdmissionProjection log).queuedRunIds = eventRunId source :: after := by
  have first : before = [] := by
    refine List.eq_nil_iff_forall_not_mem.mpr fun runId member => ?_
    obtain ⟨_, _, attempted⟩ := tried runId member
    cases attempted
  rw [first, List.nil_append, reconcileCandidates] at split
  cases gaps : (buildRunAdmissionProjection log).activeRunIds.filter (crashGap log) with
  | nil =>
      simp only [gaps, List.nil_append] at split
      split_ifs at split
      exact split
  | cons gap rest =>
      simp only [gaps, List.cons_append, List.cons.injEq] at split
      have member : gap ∈ (buildRunAdmissionProjection log).activeRunIds.filter (crashGap log) :=
        gaps ▸ List.mem_cons_self
      obtain ⟨running, known, isRunning, _⟩ := running_of_crashGap (List.mem_filter.mp member).2
      rw [split.1, found] at known
      rw [← Option.some.inj known, status] at isRunning
      cases isRunning

/-- The selected run has nobody ahead of it. -/
theorem not_overtakes_of_selected (stamped : Stamped runtime.writer)
    (tracked : Tracked runtime.writer log)
    (selected : reconcileSource runtime [] log = some source) : ¬Overtakes log source := by
  rintro ⟨unsettled, _, other, _, different, queued, position, first, below⟩
  obtain ⟨before, after, split, ⟨entry, found, _⟩, tried⟩ :=
    (reconcileSource_eq_some_iff stamped tracked).mp selected
  have named := ne_empty_of_found found
  obtain ⟨entryOther, foundOther, statusOther⟩ := (Option.any_eq_true _ _).mp queued
  have namedOther := ne_empty_of_found foundOther
  have waitingOther := (tracked.staged _ namedOther namedOther).waiting_of_queued foundOther
    (of_decide_eq_true statusOther)
  rcases unsettled_stage (tracked.staged _ named named) unsettled with ⟨absent, _⟩ | ⟨_, known, own⟩
  · rw [absent] at found
    cases found
  · cases Option.some.inj (known.symm.trans found)
    have queue := queue_split_of_waiting split own.status found tried
    obtain ⟨asked, place, askedAt, placeAt, index, order⟩ := own.ordered
    obtain ⟨_, placeOther, _, placeOtherAt, indexOther, _⟩ := waitingOther.ordered
    have behind : other ∈ after := by
      have present : other ∈ (buildRunAdmissionProjection log).queuedRunIds := by
        refine (mem_queuedRunIds (runsOf_keyed log) other).mpr ⟨entryOther, foundOther, ?_, ?_⟩
        · exact waitingOther.status
        · rw [indexOther, Option.isSome_some]
      rw [queue] at present
      exact (List.mem_cons.mp present).resolve_left different
    have keys := queueKey_le_of_split [] queue found behind foundOther
    have indices : place ≤ placeOther := by
      rw [queueKey, queueKey, index, indexOther] at keys
      rcases Prod.Lex.toLex_le_toLex.mp keys with less | ⟨equal, _⟩
      · exact less.le
      · exact equal.le
    rw [placeOtherAt] at first
    cases Option.some.inj first
    rw [askedAt, Option.getD_some] at below
    omega

theorem Fifo.reconcile (fifo : Fifo log) (serial : runtime.mode = .serial)
    (stamped : Stamped runtime.writer) (tracked : Tracked runtime.writer log)
    (handlings : List Handling) :
    Fifo (reconcileRunAdmission runtime handlings [] log).2 := by
  cases handlings with
  | nil => exact fifo
  | cons handling rest =>
      unfold reconcileRunAdmission
      split
      · exact fifo
      · rename_i source selected
        simp only [serial]
        exact fifo.handle serial stamped tracked (reconcileSource_invoked selected) handling
          fun _ => not_overtakes_of_selected stamped tracked selected

end Appends

theorem SystemStep.apply_fifo {runtime : Runtime} {log : Log} {step : SystemStep}
    (serial : runtime.mode = .serial) (stamped : Stamped runtime.writer)
    (tracked : Tracked runtime.writer log) (enabled : step.Enabled log) (inTurn : step.InTurn log)
    (fifo : Fifo log) : Fifo (step.apply runtime log) := by
  cases step with
  | submit draft => exact fifo.silent (by rw [runEvent?_invoke rfl]; simp)
  | admitInvoke source => exact fifo.admit serial stamped tracked enabled inTurn
  | reject source reason => exact fifo.reject source reason
  | handle handling source => exact fifo.handle serial stamped tracked enabled handling inTurn
  | reconcile handlings => exact fifo.reconcile serial stamped tracked handlings
  | record event =>
      refine fifo.silent fun admitted => ?_
      rcases recordable_cases enabled with ⟨kind, type⟩ | ⟨unread, _⟩
      · cases runEvent?_terminal type admitted
      · rw [runEvent?_of_type rfl unread] at admitted
        cases admitted

/-- Serial admission is first come, first served in every run in which no live invoke overtakes
the queue. -/
theorem serial_fifo (runtime : Runtime) (serial : runtime.mode = .serial)
    (stamped : Stamped runtime.writer) {steps : List SystemStep}
    (along : Along (SystemStep.apply runtime)
      (fun log step => step.Enabled log ∧ step.InTurn log) [] steps) :
    Fifo (run (SystemStep.apply runtime) [] steps) := by
  have initial : Tracked runtime.writer [] ∧ Fifo [] := by
    refine ⟨tracked_nil runtime.writer, fun before event after split => ?_⟩
    exact absurd split (by simp)
  have final := along.invariant (fun log => Tracked runtime.writer log ∧ Fifo log)
    (fun log step invariant allowed =>
      ⟨step.apply_tracked stamped invariant.1 allowed.1,
        step.apply_fifo serial stamped invariant.1 allowed.1 allowed.2 invariant.2⟩) initial
  exact final.2

theorem strip_replicate (count : Nat) :
    PyString.strip (String.ofList (List.replicate count 'e')) =
      String.ofList (List.replicate count 'e') := by
  have solid : PyString.isSpace 'e' = false := by decide
  have kept (length : Nat) : (List.replicate length 'e').dropWhile PyString.isSpace =
      List.replicate length 'e' := by
    cases length with
    | zero => rfl
    | succ length => simp [List.replicate_succ, solid]
  rw [PyString.strip, String.toList_ofList, PyString.stripChars, kept, List.reverse_replicate,
    kept, List.reverse_replicate]

theorem serialRuntime_stamped : Stamped serialRuntime.writer where
  distinct first second same := by
    have chars := congrArg String.toList same
    simp only [serialRuntime, String.toList_ofList] at chars
    simpa using congrArg List.length chars
  named position := by
    intro empty
    have chars := congrArg String.toList empty
    simp [serialRuntime] at chars
  trimmed position := strip_replicate (position + 1)

def draftOf (runId : String) : Draft where
  type := invokeRequested
  payload := .obj [("workflow_run_id", .str runId)]

def invokeA : ZfEvent := submittedEvent serialRuntime (draftOf "run-a") []

def invokeB : ZfEvent := submittedEvent serialRuntime (draftOf "run-b") [invokeA]

def invokeC : ZfEvent := submittedEvent serialRuntime (draftOf "run-c") [invokeA, invokeB]

/-- The first run is admitted, the second one queued, and the first one completes. -/
def releasedSlotSteps : List SystemStep :=
  [.submit (draftOf "run-a"), .submit (draftOf "run-b"), .submit (draftOf "run-c"),
    .admitInvoke invokeA, .admitInvoke invokeB,
    .record (runFact "run.goal.completed" "completed-a" "run-a" [])]

/-- The handler call that asks for an admission and does nothing else. -/
def plainHandling : Handling where
  preface := []
  verdict := .admits []

/-- The pass that follows admits the queued run. -/
theorem reconciled_queue_fifo :
    Fifo (run (SystemStep.apply serialRuntime) []
        (releasedSlotSteps ++ [.reconcile [plainHandling]])) ∧
      (buildRunAdmissionProjection (run (SystemStep.apply serialRuntime) []
        (releasedSlotSteps ++ [.reconcile [plainHandling]]))).activeRunIds = ["run-b"] :=
  ⟨serial_fifo serialRuntime rfl serialRuntime_stamped (by decide +kernel), by decide +kernel⟩

def overtakingLog : Log :=
  run (SystemStep.apply serialRuntime) [] (releasedSlotSteps ++ [.admitInvoke invokeC])

theorem overtakingLog_length : 9 < overtakingLog.length := by decide +kernel

/-- An invoke that arrives before the pass is admitted past the queue. -/
theorem arrival_overtakes_queue :
    ¬ ∀ (runtime : Runtime), runtime.mode = .serial → Stamped runtime.writer →
      ∀ steps : List SystemStep,
        Along (SystemStep.apply runtime) (fun log step => step.Enabled log) [] steps →
          Fifo (run (SystemStep.apply runtime) [] steps) := by
  intro claim
  have fifo := claim serialRuntime rfl serialRuntime_stamped
    (releasedSlotSteps ++ [.admitInvoke invokeC]) (by decide +kernel)
  have split : overtakingLog = overtakingLog.take 9 ++
      overtakingLog.get ⟨9, overtakingLog_length⟩ :: overtakingLog.drop 10 := by
    rw [List.get_eq_getElem, ← List.drop_eq_getElem_cons overtakingLog_length,
      List.take_append_drop]
  refine fifo _ _ _ split (by decide +kernel) ⟨"run-b", by decide +kernel, by decide +kernel, ?_⟩
  exact ⟨6, 8, by decide +kernel, by decide +kernel, by decide⟩

end ZaofuFormal.Admission
