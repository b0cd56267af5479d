import ZaofuFormal.Workflow.RunScope

/-!
# Operator waivers

A waiver is an event, and a later event with the same signature revokes it.
`activeWaivers` replays both kinds in the order of the log, for one task, claim
or goal.
-/

namespace ZaofuFormal.Goals

open Foundation Workflow

/-- The items of `value or []`, or nothing where the iteration raises. -/
def iterated (value : Json) : Option (List Json) :=
  if !value.truthy then some []
  else
    match value with
    | .arr items => some items
    | .str text => some (text.toList.map fun char => .str (String.singleton char))
    | .obj fields => some (fields.map fun field => .str field.1)
    | _ => none

/-- The scopes that a waiver event names. -/
def waiverTaskIds (event : ZfEvent) : Option (List String) :=
  (iterated (event.body.get "task_ids")).map fun items =>
    let single := PyString.strip
      (firstText [event.body.textAt "task_id", event.taskId.getD ""])
    (items.map fun item => PyString.strip item.pyStr).filter (fun id => decide (id ≠ "")) ++
      (if single = "" then [] else [single])

structure Waiver where
  signature : String
  reason : String
  waivedBy : String
  eventId : String
  ts : String

def waiverSignature (event : ZfEvent) : String :=
  PyString.strip (firstText [event.body.textAt "signature", event.body.textAt "command",
    event.body.textAt "finding_signature"])

def waiverOf (event : ZfEvent) : Waiver where
  signature := waiverSignature event
  reason := event.body.textAt "reason"
  waivedBy := firstText [event.body.textAt "waived_by", event.actor.getD "", "operator"]
  eventId := event.id
  ts := event.ts

def noteWaiver (taskId : String) (waivers : Dict String Waiver) (event : ZfEvent) :
    Option (Dict String Waiver) :=
  if event.type ∉ ["verification.waived", "verification.waiver.revoked"] then some waivers
  else
    (waiverTaskIds event).map fun scopes =>
      if scopes ≠ [] ∧ taskId ∉ scopes ∧ "*" ∉ scopes then waivers
      else if waiverSignature event = "" then waivers
      else if event.type = "verification.waived" then
        waivers.insert (waiverSignature event) (waiverOf event)
      else waivers.erase (waiverSignature event)

/-- The waivers of one scope that are active at the end of the log. -/
def activeWaivers (events : Log) (taskId : String) : Option (List Waiver) :=
  (events.foldlM (noteWaiver taskId) Dict.empty).map Dict.values

/-- The texts by which a waiver can be cited. -/
def Waiver.refs (waiver : Waiver) : List String :=
  [waiver.signature, waiver.eventId].filter fun ref => decide (PyString.strip ref ≠ "")

end ZaofuFormal.Goals
