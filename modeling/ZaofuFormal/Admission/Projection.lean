import ZaofuFormal.Foundation.Sorting
import ZaofuFormal.Workflow.RunScope

/-!
# The run admission projection

Which runs are active, queued or ended is not stored: it is folded from the
event log.  Every run has one entry, and an event of a run changes only the
entry of that run.  Legacy running facts are the exception to a fold in append
order: whether they count depends on the invokes that the whole log leaves
without an outcome.
-/

namespace ZaofuFormal.Admission

open Foundation Workflow

inductive AdmissionKind where
  | requested
  | admitted
  | queued
  | released
  | rejected
  deriving DecidableEq

inductive TerminalKind where
  | goalCompleted
  | goalBlocked
  | runCompleted
  | runFailed
  | runCancelled
  | runAbandoned
  | resultAvailable
  deriving DecidableEq

inductive LegacyKind where
  | runStarted
  | goalStarted
  | invokeAccepted
  deriving DecidableEq

/-- The events that the projection reads. -/
inductive RunEventKind where
  | admission (kind : AdmissionKind)
  | terminal (kind : TerminalKind)
  | legacy (kind : LegacyKind)
  | paused
  | resumed
  | goalUpdated
  deriving DecidableEq

def RunEventKind.isAdmission : RunEventKind → Bool
  | .admission _ => true
  | _ => false

def AdmissionKind.type : AdmissionKind → String
  | .requested => "run.admission.requested"
  | .admitted => "run.admission.admitted"
  | .queued => "run.admission.queued"
  | .released => "run.admission.released"
  | .rejected => "run.admission.rejected"

def runEventKinds : List (String × RunEventKind) :=
  [(AdmissionKind.requested.type, .admission .requested),
    (AdmissionKind.admitted.type, .admission .admitted),
    (AdmissionKind.queued.type, .admission .queued),
    (AdmissionKind.released.type, .admission .released),
    (AdmissionKind.rejected.type, .admission .rejected),
    ("run.goal.completed", .terminal .goalCompleted),
    ("run.goal.blocked", .terminal .goalBlocked),
    ("run.completed", .terminal .runCompleted),
    ("run.failed", .terminal .runFailed),
    ("run.cancelled", .terminal .runCancelled),
    ("run.abandoned", .terminal .runAbandoned),
    ("workflow.result.available", .terminal .resultAvailable),
    ("run.started", .legacy .runStarted),
    ("run.goal.started", .legacy .goalStarted),
    ("workflow.invoke.accepted", .legacy .invokeAccepted),
    ("run.paused", .paused),
    ("run.resumed", .resumed),
    ("run.goal.updated", .goalUpdated)]

def runEventKind? (type : String) : Option RunEventKind := Dict.find type runEventKinds

def invokeRequested : String := "workflow.invoke.requested"

def outcomeEvents : List String := ["workflow.invoke.accepted", "workflow.invoke.rejected"]

/-- Only these kinds fall back on the correlation for their run. -/
def RunEventKind.correlated : RunEventKind → Bool
  | .goalUpdated => false
  | _ => true

@[irreducible] def eventRunId (event : ZfEvent) : String :=
  let candidate := PyString.strip
    (firstText [event.body.textAt "workflow_run_id", event.body.textAt "run_id"])
  if candidate ≠ "" then candidate
  else if event.type = invokeRequested then
    PyString.strip (firstText [event.body.textAt "request_id", event.id])
  else
    match runEventKind? event.type with
    | some kind => if kind.correlated then event.correlation else ""
    | none => ""

theorem strip_eventRunId (event : ZfEvent) :
    PyString.strip (eventRunId event) = eventRunId event := by
  unfold eventRunId
  simp only
  split
  · exact PyString.strip_strip _
  · split
    · exact PyString.strip_strip _
    · split
      · split
        · exact PyString.strip_strip _
        · exact PyString.strip_empty
      · exact PyString.strip_empty

theorem eventRunId_of_workflowRunId {event : ZfEvent} {runId : String}
    (same : event.body.textAt "workflow_run_id" = runId) (named : runId ≠ "")
    (stripped : PyString.strip runId = runId) : eventRunId event = runId := by
  have first : firstText [event.body.textAt "workflow_run_id", event.body.textAt "run_id"] =
      runId := by
    simp [firstText, same, named]
  unfold eventRunId
  simp only [first, stripped]
  exact if_pos named

/-- The kind of an event that the projection reads for some run. -/
@[irreducible] def runEvent? (event : ZfEvent) : Option RunEventKind :=
  if eventRunId event = "" then none else runEventKind? event.type

/-- The run that each logged invoke asks for. -/
def invokeById (log : Log) : Dict String String :=
  Dict.ofEntries (log.filterMap fun event =>
    if event.type = invokeRequested ∧ eventRunId event ≠ "" then some (event.id, eventRunId event)
    else none)

/-- The runs that one outcome event takes off the pending ones. -/
def discarded (invokes : Dict String String) (event : ZfEvent) : List String :=
  if event.type ∉ outcomeEvents then []
  else
    (invokes.get? (event.body.textAt "source_event_id")).toList ++
      (if eventRunId event = "" then [] else [eventRunId event])

def pendingInvokeRunIds (log : Log) : List String :=
  let invokes := invokeById log
  invokes.values.filter fun runId => decide (runId ∉ log.flatMap (discarded invokes))

inductive RunStatus where
  | requested
  | queued
  | running
  | paused
  | completed
  | blocked
  | cancelled
  | failed
  | rejected
  | abandoned
  deriving DecidableEq

def RunStatus.text : RunStatus → String
  | .requested => "requested"
  | .queued => "queued"
  | .running => "running"
  | .paused => "paused"
  | .completed => "completed"
  | .blocked => "blocked"
  | .cancelled => "cancelled"
  | .failed => "failed"
  | .rejected => "rejected"
  | .abandoned => "abandoned"

def RunStatus.active : RunStatus → Bool
  | .running | .paused => true
  | _ => false

def RunStatus.terminal : RunStatus → Bool
  | .completed | .blocked | .cancelled | .failed | .rejected | .abandoned => true
  | _ => false

structure RunAdmissionEntry where
  runId : String
  requestId : String := ""
  status : RunStatus := .requested
  sourceEventId : String := ""
  taskId : String := ""
  firstSeenIndex : Nat := 0
  queuedIndex : Option Nat := none
  admittedEventId : String := ""
  terminalEventId : String := ""
  terminalType : Option RunEventKind := none
  blocker : String := ""
  eventIds : List String := []
  deriving DecidableEq

namespace RunAdmissionEntry

def active (entry : RunAdmissionEntry) : Bool := entry.status.active

def terminal (entry : RunAdmissionEntry) : Bool := entry.status.terminal

def hasDedicatedAdmission (entry : RunAdmissionEntry) : Bool :=
  entry.admittedEventId ≠ "" || entry.queuedIndex.isSome || entry.sourceEventId ≠ ""

end RunAdmissionEntry

def terminalStatus (kind : TerminalKind) (payload : Json) : RunStatus :=
  match kind with
  | .goalCompleted => .completed
  | .resultAvailable =>
      if payload.textAt "result_kind" = "research_report" ∧
          payload.textAt "status" = "available" then .completed
      else .failed
  | .goalBlocked => .blocked
  | .runCancelled => .cancelled
  | .runAbandoned => .abandoned
  | .runFailed => .failed
  | .runCompleted =>
      let status := PyString.lowerWord (strippedAt payload "status")
      if status ∈ ["passed", "completed", "success", "succeeded"] then .completed
      else if status ∈ ["cancelled", "canceled"] then .cancelled
      else if status = "blocked" then .blocked
      else .failed

/-- A goal update that asks for a running run. -/
def reactivates (event : ZfEvent) : Bool :=
  decide (strippedAt event.body "status" ∈ ["active", "running"])

namespace RunAdmissionEntry

/-- The identities that every event of a run refreshes. -/
@[irreducible] def identify (kind : RunEventKind) (event : ZfEvent) (entry : RunAdmissionEntry) :
    RunAdmissionEntry :=
  let requestId := strippedAt event.body "request_id"
  let sourceEventId := strippedAt event.body "source_event_id"
  let taskId := PyString.strip (firstText [event.taskId.getD "", event.body.textAt "task_id"])
  { entry with
    requestId :=
      if requestId ≠ "" then requestId
      else if entry.requestId = "" ∧ kind.isAdmission then entry.runId
      else entry.requestId
    sourceEventId := if sourceEventId ≠ "" then sourceEventId else entry.sourceEventId
    taskId := if taskId ≠ "" then taskId else entry.taskId
    eventIds := if event.id = "" then entry.eventIds else entry.eventIds ++ [event.id] }

/-- The status change of one event, with the guards of its kind. -/
def advance (pending : List String) (index : Nat) (kind : RunEventKind) (event : ZfEvent)
    (entry : RunAdmissionEntry) : RunAdmissionEntry :=
  match kind with
  | .admission .requested =>
      if entry.terminal then entry else { entry with status := .requested }
  | .admission .queued =>
      if entry.terminal then entry
      else
        { entry with
          status := .queued
          blocker := event.body.textAt "reason"
          queuedIndex := entry.queuedIndex.or (some index) }
  | .admission .admitted =>
      if entry.terminal then entry
      else { entry with status := .running, blocker := "", admittedEventId := event.id }
  | .admission .released =>
      if entry.terminal then entry else { entry with status := .running, blocker := "" }
  | .admission .rejected =>
      { entry with
        status := .rejected
        blocker := event.body.textAt "reason"
        terminalEventId := event.id
        terminalType := some kind }
  | .paused => if entry.terminal then entry else { entry with status := .paused }
  | .resumed => if entry.terminal then entry else { entry with status := .running }
  | .goalUpdated =>
      if reactivates event ∧
          (¬entry.terminal ∨ entry.terminalType = some (.terminal .goalBlocked)) then
        { entry with
          status := .running
          blocker := ""
          terminalEventId := ""
          terminalType := none }
      else entry
  | .legacy _ =>
      if ¬entry.terminal ∧ ¬entry.hasDedicatedAdmission ∧ entry.runId ∉ pending then
        { entry with status := .running }
      else entry
  | .terminal terminal =>
      { entry with
        status := terminalStatus terminal event.body
        terminalEventId := event.id
        terminalType := some kind }

def note (pending : List String) (index : Nat) (kind : RunEventKind) (event : ZfEvent)
    (entry : RunAdmissionEntry) : RunAdmissionEntry :=
  (entry.identify kind event).advance pending index kind event

end RunAdmissionEntry

abbrev RunEntries := Dict String RunAdmissionEntry

def noteEvent (pending : List String) (runs : RunEntries) (row : ZfEvent × Nat) : RunEntries :=
  match runEvent? row.1 with
  | none => runs
  | some kind =>
      let runId := eventRunId row.1
      let entry := (runs.get? runId).getD { runId := runId, firstSeenIndex := row.2 }
      runs.insert runId (entry.note pending row.2 kind row.1)

def foldRuns (pending : List String) (log : Log) : RunEntries :=
  log.zipIdx.foldl (noteEvent pending) Dict.empty

structure RunAdmissionProjection where
  runs : RunEntries
  activeRunIds : List String
  queuedRunIds : List String

/-- The queue order: by first queueing, then by first appearance. -/
def queueKey (entry : RunAdmissionEntry) : Nat ×ₗ Nat :=
  toLex (entry.queuedIndex.getD 0, entry.firstSeenIndex)

def activeRunIds (runs : RunEntries) : List String :=
  (Sorting.sortedBy RunAdmissionEntry.firstSeenIndex
    (runs.values.filter RunAdmissionEntry.active)).map RunAdmissionEntry.runId

def queuedRunIds (runs : RunEntries) : List String :=
  (Sorting.sortedBy queueKey (runs.values.filter fun entry =>
    decide (entry.status = .queued) && entry.queuedIndex.isSome)).map RunAdmissionEntry.runId

def buildRunAdmissionProjection (log : Log) : RunAdmissionProjection :=
  let runs := foldRuns (pendingInvokeRunIds log) log
  { runs := runs, activeRunIds := activeRunIds runs, queuedRunIds := queuedRunIds runs }

/-- Running or paused according to the projection. -/
def Active (log : Log) (runId : String) : Prop :=
  runId ∈ (buildRunAdmissionProjection log).activeRunIds

instance (log : Log) (runId : String) : Decidable (Active log runId) := by
  unfold Active
  infer_instance

/-- One-based position in the queue, and zero outside it. -/
def RunAdmissionProjection.queuePosition (projection : RunAdmissionProjection) (runId : String) :
    Nat :=
  if runId ∈ projection.queuedRunIds then projection.queuedRunIds.idxOf runId + 1 else 0

/-- The fence of a prospective dispatch for a known run. -/
def runDispatchBlockReason (log : Log) (runId : String) : String :=
  if PyString.strip runId = "" then ""
  else
    match (buildRunAdmissionProjection log).runs.get? (PyString.strip runId) with
    | none => ""
    | some entry =>
        if entry.status = .paused then "run_paused"
        else if entry.terminal then "run_terminal:" ++ entry.status.text
        else if entry.status ≠ .running then "run_not_admitted:" ++ entry.status.text
        else ""

theorem terminalStatus_terminal (kind : TerminalKind) (payload : Json) :
    (terminalStatus kind payload).terminal = true := by
  cases kind with
  | resultAvailable =>
      simp only [terminalStatus]
      split <;> rfl
  | runCompleted =>
      simp only [terminalStatus]
      split
      · rfl
      · split
        · rfl
        · split <;> rfl
  | _ => rfl

theorem RunStatus.not_active_of_terminal {status : RunStatus} (ended : status.terminal = true) :
    status.active = false := by
  cases status <;> first | rfl | cases ended

section OneRun

variable {pending : List String} {index : Nat} {kind : RunEventKind} {event : ZfEvent}

@[simp] theorem RunAdmissionEntry.identify_runId (entry : RunAdmissionEntry) :
    (entry.identify kind event).runId = entry.runId := by
  unfold RunAdmissionEntry.identify
  rfl

@[simp] theorem RunAdmissionEntry.identify_status (entry : RunAdmissionEntry) :
    (entry.identify kind event).status = entry.status := by
  unfold RunAdmissionEntry.identify
  rfl

@[simp] theorem RunAdmissionEntry.identify_active (entry : RunAdmissionEntry) :
    (entry.identify kind event).active = entry.active :=
  congrArg RunStatus.active entry.identify_status

@[simp] theorem RunAdmissionEntry.identify_terminal (entry : RunAdmissionEntry) :
    (entry.identify kind event).terminal = entry.terminal :=
  congrArg RunStatus.terminal entry.identify_status

@[simp] theorem RunAdmissionEntry.identify_terminalType (entry : RunAdmissionEntry) :
    (entry.identify kind event).terminalType = entry.terminalType := by
  unfold RunAdmissionEntry.identify
  rfl

@[simp] theorem RunAdmissionEntry.identify_queuedIndex (entry : RunAdmissionEntry) :
    (entry.identify kind event).queuedIndex = entry.queuedIndex := by
  unfold RunAdmissionEntry.identify
  rfl

@[simp] theorem RunAdmissionEntry.identify_admittedEventId (entry : RunAdmissionEntry) :
    (entry.identify kind event).admittedEventId = entry.admittedEventId := by
  unfold RunAdmissionEntry.identify
  rfl

@[simp] theorem RunAdmissionEntry.identify_firstSeenIndex (entry : RunAdmissionEntry) :
    (entry.identify kind event).firstSeenIndex = entry.firstSeenIndex := by
  unfold RunAdmissionEntry.identify
  rfl

theorem RunAdmissionEntry.identify_sourceEventId (entry : RunAdmissionEntry) :
    (entry.identify kind event).sourceEventId =
      if strippedAt event.body "source_event_id" ≠ "" then strippedAt event.body "source_event_id"
      else entry.sourceEventId := by
  unfold RunAdmissionEntry.identify
  rfl

theorem RunAdmissionEntry.hasDedicatedAdmission_of_source {entry : RunAdmissionEntry}
    (named : entry.sourceEventId ≠ "") : entry.hasDedicatedAdmission = true := by
  simp [RunAdmissionEntry.hasDedicatedAdmission, named]

/-- No event changes the identities that `identify` has set, nor when the run was first seen. -/
theorem RunAdmissionEntry.advance_keeps (entry : RunAdmissionEntry) :
    (entry.advance pending index kind event).runId = entry.runId ∧
      (entry.advance pending index kind event).sourceEventId = entry.sourceEventId ∧
      (entry.advance pending index kind event).firstSeenIndex = entry.firstSeenIndex := by
  cases kind with
  | admission kind =>
      cases kind with
      | rejected => exact ⟨rfl, rfl, rfl⟩
      | _ => simp only [RunAdmissionEntry.advance]; split <;> exact ⟨rfl, rfl, rfl⟩
  | terminal kind => exact ⟨rfl, rfl, rfl⟩
  | _ => simp only [RunAdmissionEntry.advance]; split <;> exact ⟨rfl, rfl, rfl⟩

@[simp] theorem RunAdmissionEntry.note_runId (entry : RunAdmissionEntry) :
    (entry.note pending index kind event).runId = entry.runId :=
  (RunAdmissionEntry.advance_keeps _).1.trans entry.identify_runId

theorem RunAdmissionEntry.note_sourceEventId (entry : RunAdmissionEntry) :
    (entry.note pending index kind event).sourceEventId =
      if strippedAt event.body "source_event_id" ≠ "" then strippedAt event.body "source_event_id"
      else entry.sourceEventId :=
  (RunAdmissionEntry.advance_keeps _).2.1.trans entry.identify_sourceEventId

end OneRun

/-- What one row does to the entry of one run. -/
def noteFor (pending : List String) (runId : String) (entry : Option RunAdmissionEntry)
    (row : ZfEvent × Nat) : Option RunAdmissionEntry :=
  match runEvent? row.1 with
  | none => entry
  | some kind =>
      if eventRunId row.1 = runId then
        some ((entry.getD { runId := runId, firstSeenIndex := row.2 }).note pending row.2 kind row.1)
      else entry

theorem noteEvent_get? (pending : List String) (runs : RunEntries) (row : ZfEvent × Nat)
    (runId : String) :
    (noteEvent pending runs row).get? runId = noteFor pending runId (runs.get? runId) row := by
  unfold noteEvent noteFor
  cases runEvent? row.1 with
  | none => rfl
  | some kind =>
      by_cases mine : eventRunId row.1 = runId
      · subst mine
        exact (Dict.get?_insert_self _ _ _).trans (if_pos rfl).symm
      · exact (Dict.get?_insert_ne _ _ (Ne.symm mine)).trans (if_neg mine).symm

theorem foldRuns_append (pending : List String) (log : Log) (event : ZfEvent) :
    foldRuns pending (log ++ [event]) =
      noteEvent pending (foldRuns pending log) (event, log.length) := by
  rw [foldRuns, List.zipIdx_append, List.foldl_append]
  simp [foldRuns]

theorem foldRuns_append_get? (pending : List String) (log : Log) (event : ZfEvent)
    (runId : String) :
    (foldRuns pending (log ++ [event])).get? runId =
      noteFor pending runId ((foldRuns pending log).get? runId) (event, log.length) := by
  rw [foldRuns_append, noteEvent_get?]

theorem noteFor_other {pending : List String} {runId : String} {event : ZfEvent}
    (other : eventRunId event ≠ runId) (entry : Option RunAdmissionEntry) (index : Nat) :
    noteFor pending runId entry (event, index) = entry := by
  unfold noteFor
  cases runEvent? event with
  | none => rfl
  | some kind => exact if_neg other

theorem noteFor_none {pending : List String} {event : ZfEvent} (silent : runEvent? event = none)
    (runId : String) (entry : Option RunAdmissionEntry) (index : Nat) :
    noteFor pending runId entry (event, index) = entry := by
  simp only [noteFor, silent]

theorem noteFor_some (pending : List String) {event : ZfEvent} {kind : RunEventKind}
    (read : runEvent? event = some kind) (entry : Option RunAdmissionEntry) (index : Nat) :
    noteFor pending (eventRunId event) entry (event, index) =
      some ((entry.getD { runId := eventRunId event, firstSeenIndex := index }).note
        pending index kind event) := by
  simp only [noteFor, read, if_true]

/-- Every entry is stored under the id of its run. -/
def Keyed (runs : RunEntries) : Prop :=
  ∀ runId entry, runs.get? runId = some entry → entry.runId = runId

theorem foldRuns_keyed (pending : List String) (log : Log) : Keyed (foldRuns pending log) := by
  induction log using List.reverseRecOn with
  | nil =>
      intro runId entry found
      cases found
  | append_singleton log event ih =>
      intro runId entry found
      rw [foldRuns_append_get?] at found
      by_cases mine : eventRunId event = runId
      · subst mine
        cases read : runEvent? event with
        | none =>
            rw [noteFor_none read] at found
            exact ih _ _ found
        | some kind =>
            rw [noteFor_some _ read] at found
            rw [← Option.some.inj found, RunAdmissionEntry.note_runId]
            cases before : (foldRuns pending log).get? (eventRunId event) with
            | none => rfl
            | some old => exact ih _ _ before
      · rw [noteFor_other mine] at found
        exact ih _ _ found

/-- No event without a run creates an entry. -/
theorem foldRuns_get?_unnamed (pending : List String) (log : Log) :
    (foldRuns pending log).get? "" = none := by
  induction log using List.reverseRecOn with
  | nil => rfl
  | append_singleton log event ih =>
      rw [foldRuns_append_get?]
      by_cases unnamed : eventRunId event = ""
      · have silent : runEvent? event = none := by
          rw [runEvent?, if_pos unnamed]
        rw [noteFor_none silent, ih]
      · rw [noteFor_other unnamed, ih]

theorem runId_nodup {runs : RunEntries} (keyed : Keyed runs) :
    (runs.values.map RunAdmissionEntry.runId).Nodup := by
  have same : runs.values.map RunAdmissionEntry.runId = runs.entries.map Prod.fst := by
    rw [Dict.values, List.map_map]
    refine List.map_congr_left fun pair member => ?_
    exact keyed pair.1 pair.2 ((runs.get?_eq_some_iff _ _).mpr member)
  rw [same]
  exact runs.nodupKeys

section Selection

variable {κ : Type} [LinearOrder κ] {runs : RunEntries}

/-- A sorted selection of the entries names the selected runs, each of them once. -/
theorem mem_selected (keyed : Keyed runs) (key : RunAdmissionEntry → κ)
    (chosen : RunAdmissionEntry → Bool) (runId : String) :
    runId ∈ (Sorting.sortedBy key (runs.values.filter chosen)).map RunAdmissionEntry.runId ↔
      ∃ entry, runs.get? runId = some entry ∧ chosen entry = true := by
  simp only [List.mem_map, Sorting.mem_sortedBy, List.mem_filter, Dict.mem_values_iff]
  constructor
  · rintro ⟨entry, ⟨⟨key, found⟩, picked⟩, rfl⟩
    exact ⟨entry, keyed key entry found ▸ found, picked⟩
  · rintro ⟨entry, found, picked⟩
    exact ⟨entry, ⟨⟨runId, found⟩, picked⟩, keyed runId entry found⟩

theorem selected_nodup (keyed : Keyed runs) (key : RunAdmissionEntry → κ)
    (chosen : RunAdmissionEntry → Bool) :
    ((Sorting.sortedBy key (runs.values.filter chosen)).map RunAdmissionEntry.runId).Nodup := by
  have perm := (Sorting.sortedBy_perm key (runs.values.filter chosen)).map RunAdmissionEntry.runId
  refine perm.nodup_iff.mpr ?_
  exact (runId_nodup keyed).sublist (List.filter_sublist.map RunAdmissionEntry.runId)

theorem mem_activeRunIds (keyed : Keyed runs) (runId : String) :
    runId ∈ activeRunIds runs ↔
      ∃ entry, runs.get? runId = some entry ∧ entry.active = true :=
  mem_selected keyed _ _ runId

theorem activeRunIds_nodup (keyed : Keyed runs) : (activeRunIds runs).Nodup :=
  selected_nodup keyed _ _

theorem mem_queuedRunIds (keyed : Keyed runs) (runId : String) :
    runId ∈ queuedRunIds runs ↔
      ∃ entry, runs.get? runId = some entry ∧ entry.status = .queued ∧
        entry.queuedIndex.isSome = true := by
  refine (mem_selected keyed _ _ runId).trans ?_
  simp only [Bool.and_eq_true, decide_eq_true_eq]

end Selection

/-- Every legacy running fact names the invoke it belongs to, as those of the
invoke handler do. -/
def Sourced (log : Log) : Prop :=
  ∀ event ∈ log, ∀ kind, runEvent? event = some (.legacy kind) →
    strippedAt event.body "source_event_id" ≠ ""

theorem sourced_append {log : Log} {event : ZfEvent} :
    Sourced (log ++ [event]) ↔ Sourced log ∧ ∀ kind, runEvent? event = some (.legacy kind) →
      strippedAt event.body "source_event_id" ≠ "" := by
  simp only [Sourced, List.mem_append, List.mem_singleton, or_imp, forall_and, forall_eq]

/-- A sourced legacy fact never changes a status, so the pending invokes do not matter. -/
theorem RunAdmissionEntry.note_pending {kind : RunEventKind} {event : ZfEvent}
    (sourced : ∀ legacy, kind = .legacy legacy → strippedAt event.body "source_event_id" ≠ "")
    (first second : List String) (index : Nat) (entry : RunAdmissionEntry) :
    entry.note first index kind event = entry.note second index kind event := by
  cases kind with
  | legacy legacy =>
      have dedicated : (entry.identify (.legacy legacy) event).hasDedicatedAdmission = true := by
        refine RunAdmissionEntry.hasDedicatedAdmission_of_source ?_
        rw [RunAdmissionEntry.identify_sourceEventId, if_pos (sourced legacy rfl)]
        exact sourced legacy rfl
      simp only [RunAdmissionEntry.note, RunAdmissionEntry.advance, dedicated, not_true_eq_false,
        false_and, and_false, if_false]
  | admission kind => cases kind <;> rfl
  | _ => rfl

theorem noteEvent_pending {event : ZfEvent}
    (sourced : ∀ kind, runEvent? event = some (.legacy kind) →
      strippedAt event.body "source_event_id" ≠ "")
    (first second : List String) (runs : RunEntries) (index : Nat) :
    noteEvent first runs (event, index) = noteEvent second runs (event, index) := by
  unfold noteEvent
  cases read : runEvent? event with
  | none => rfl
  | some kind =>
      have same := RunAdmissionEntry.note_pending
        (fun legacy shape => sourced legacy (shape ▸ read)) first second index
        ((runs.get? (eventRunId event)).getD
          { runId := eventRunId event, firstSeenIndex := index })
      simp only [same]

theorem foldRuns_pending {log : Log} (sourced : Sourced log) (first second : List String) :
    foldRuns first log = foldRuns second log := by
  induction log using List.reverseRecOn with
  | nil => rfl
  | append_singleton log event ih =>
      obtain ⟨earlier, last⟩ := sourced_append.mp sourced
      rw [foldRuns_append, foldRuns_append, ih earlier]
      exact noteEvent_pending last first second _ _

/-- The entries of a log. -/
def runsOf (log : Log) : RunEntries := (buildRunAdmissionProjection log).runs

theorem runsOf_keyed (log : Log) : Keyed (runsOf log) := foldRuns_keyed _ log

/-- Without bare legacy facts the projection grows with the log. -/
theorem runsOf_append {log : Log} {event : ZfEvent} (sourced : Sourced (log ++ [event]))
    (runId : String) :
    (runsOf (log ++ [event])).get? runId =
      noteFor [] runId ((runsOf log).get? runId) (event, log.length) := by
  have earlier := (sourced_append.mp sourced).1
  change (foldRuns _ (log ++ [event])).get? runId = _
  rw [foldRuns_pending sourced _ [], foldRuns_append_get?]
  rw [foldRuns_pending earlier [] (pendingInvokeRunIds log)]
  rfl

theorem active_iff (log : Log) (runId : String) :
    Active log runId ↔ ∃ entry, (runsOf log).get? runId = some entry ∧ entry.active = true :=
  mem_activeRunIds (runsOf_keyed log) runId

theorem active_congr {first second : Log} {runId : String}
    (same : (runsOf first).get? runId = (runsOf second).get? runId) :
    Active first runId ↔ Active second runId := by
  rw [active_iff, active_iff, same]

end ZaofuFormal.Admission
