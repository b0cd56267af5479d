import ZaofuFormal.Workflow.Event

/-!
# Run scopes

Several runs can share one event log.  `runAliases` maps every id that names a
run to the canonical id of that run, reading the events in order; an event that
names two established runs merges nothing.
-/

namespace ZaofuFormal.Workflow

open Foundation

def correlationRunAnchorEvents : List String :=
  ["loop.started", "run.started", "run.completed", "run.failed", "run.goal.started",
    "run.goal.updated", "run.goal.completed", "run.goal.blocked", "ship.completed", "ship.done",
    "workflow.invoke.requested"]

def canonicalRunAnchorEvents : List String :=
  ["run.started", "run.goal.started", "workflow.invoke.requested"]

/-- `str(value or "").strip()` of a payload field. -/
def strippedAt (payload : Json) (key : String) : String := PyString.strip (payload.textAt key)

def ZfEvent.correlation (event : ZfEvent) : String :=
  PyString.strip (event.correlationId.getD "")

/-- The first non-empty text of a list, or the empty one. -/
def firstText (texts : List String) : String := (texts.find? fun text => decide (text ≠ "")).getD ""

theorem firstText_mem {texts : List String} (filled : firstText texts ≠ "") :
    firstText texts ∈ texts := by
  unfold firstText at filled ⊢
  cases found : texts.find? fun text => decide (text ≠ "") with
  | none =>
      rw [found] at filled
      exact absurd rfl filled
  | some text => exact List.mem_of_find?_eq_some found

theorem firstText_cons {text : String} (filled : text ≠ "") (rest : List String) :
    firstText (text :: rest) = text := by
  simp [firstText, filled]

theorem firstText_cons_empty (rest : List String) : firstText ("" :: rest) = firstText rest := by
  simp [firstText]

/-- The run ids that an anchor event establishes, with their priority. -/
def canonicalRoots (log : Log) : Dict String Nat :=
  log.foldl (fun roots event =>
    if event.type ∉ canonicalRunAnchorEvents then roots
    else
      let root := PyString.strip (firstText [event.body.textAt "run_id",
        event.body.textAt "workflow_run_id", event.correlationId.getD ""])
      if root = "" then roots
      else
        let priority := if event.type ∈ ["run.started", "run.goal.started"] then 0 else 1
        roots.insert root (min priority ((roots.get? root).getD priority))) Dict.empty

/-- The ids by which one event names runs. -/
def runIdentities (aliases : Dict String String) (event : ZfEvent) : List String :=
  let explicit := (["run_id", "workflow_run_id", "trace_id"].map (strippedAt event.body)).filter
    fun text => decide (text ≠ "")
  if event.correlation ≠ "" ∧ (explicit ≠ [] ∨ aliases.contains event.correlation ∨
      event.type ∈ correlationRunAnchorEvents) then
    explicit ++ [event.correlation]
  else explicit

/-- The identity of least priority value, the first one among equals. -/
def bestRoot (roots : Dict String Nat) (identities : List String) : Option String :=
  (identities.foldl (fun best identity =>
    match roots.get? identity, best with
    | none, _ => best
    | some priority, none => some (priority, identity)
    | some priority, some (least, chosen) =>
        if priority < least then some (priority, identity) else some (least, chosen))
    none).map Prod.snd

def canonicalRun (roots : Dict String Nat) (aliases : Dict String String)
    (identities : List String) : String :=
  match bestRoot roots identities with
  | some root => root
  | none =>
      let known := identities.filterMap aliases.get?
      match known.find? roots.contains with
      | some root => root
      | none => (known.head?.or identities.head?).getD ""

def noteRun (roots : Dict String Nat) (aliases : Dict String String) (event : ZfEvent) :
    Dict String String :=
  let identities := runIdentities aliases event
  if identities = [] then aliases
  else
    let established := ((identities.map fun identity =>
      if roots.contains identity then identity else (aliases.get? identity).getD "").filter
        roots.contains).eraseDups
    if 1 < established.length then
      aliases.insertAll (established.map fun root => (root, root))
    else
      let canonical := canonicalRun roots aliases identities
      let replaced := (identities.filterMap aliases.get?).filter fun target =>
        decide (target ≠ canonical)
      let merged := aliases.mapValues fun target =>
        if target ∈ replaced then canonical else target
      merged.insertAll (identities.map fun identity => (identity, canonical))

/-- Every known run id, mapped to the canonical id of its run. -/
def runAliases (log : Log) : Dict String String :=
  log.foldl (noteRun (canonicalRoots log)) Dict.empty

/-- The run of one event, among the known ones. -/
def eventRunId (aliases : Dict String String) (event : ZfEvent) : String :=
  firstText ([strippedAt event.body "run_id", event.correlation,
    strippedAt event.body "workflow_run_id", strippedAt event.body "trace_id"].map fun candidate =>
      (aliases.get? candidate).getD "")

end ZaofuFormal.Workflow
