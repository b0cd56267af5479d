import ZaofuFormal.Foundation.ChosenWalks
import ZaofuFormal.Foundation.Fallible
import ZaofuFormal.Workflow.Event

/-!
# Receipts that advanced a candidate

A request that expects an old candidate head is still served when admitted integrations
took the candidate from that head to the current one.  Kernel events name the receipts of
integrations; every receipt that hydrates is an edge between two heads, and the edges are
followed from the expected head as long as exactly one of them leads towards the current
head.
-/

namespace ZaofuFormal.Candidates

open Foundation Workflow
open ChosenWalks (IsChain visited finish walk walk_reaches)
open Fallible (bind_eq_ok refuse refuse_eq_ok_iff)

/-- The exceptions that the programs tell apart. -/
inductive Failure where
  | candidateIncremental (detail : String)
  | osError
  | typeError
  | valueError
  | other
  deriving DecidableEq

/-- `except (CandidateIncrementalError, OSError, TypeError, ValueError)`. -/
def Failure.caught : Failure → Bool
  | .other => false
  | _ => true

/-- A finished subprocess. -/
structure Completed where
  returncode : Int
  stdout : String := ""
  stderr : String := ""

/-- What the rebuilder reads: the sidecars, the task index and the answers of git. -/
structure Rebuilder where
  hydrateSidecarRef : Json → Except Failure Json
  taskIndex : Except Failure Json
  runGit : List String → Except Failure Completed

section Git

variable (rebuilder : Rebuilder)

def detail (result : Completed) : String :=
  if PyString.strip result.stderr = "" then PyString.strip result.stdout
  else PyString.strip result.stderr

def git (args : List String) : Except Failure String := do
  let result ← rebuilder.runGit args
  refuse (result.returncode ≠ 0) (.candidateIncremental
    ("git " ++ PyString.join ' ' args ++ " failed: " ++ detail result))
  .ok (PyString.strip result.stdout)

def resolveCommit (ref : String) : Except Failure String := do
  let value ← git rebuilder ["rev-parse", "--verify", ref ++ "^\x7bcommit\x7d"]
  refuse (value = "") (.candidateIncremental ("git ref is missing: " ++ ref))
  .ok value

def commitIsAncestor (ancestor descendant : String) : Except Failure Bool := do
  let result ← rebuilder.runGit ["merge-base", "--is-ancestor", ancestor, descendant]
  if result.returncode = 0 then .ok true
  else if result.returncode = 1 then .ok false
  else
    .error (.candidateIncremental ("git merge-base ancestry check failed: " ++ detail result))

end Git

def requiredFields : List String :=
  ["workflow_run_id", "task_id", "task_map_generation", "pipeline_key",
    "integration_operation_id", "task_ref", "task_commit", "contract_revision",
    "candidate_generation", "expected_candidate_head", "new_candidate_head", "patch_identity",
    "command_registry_digest"]

/-- A field of the receipt differs from the value that the caller expects there. -/
def expectField (receipt : Json) (key value : String) : Except Failure Unit :=
  refuse (value ≠ "" ∧ receipt.textAt key ≠ value)
    (.candidateIncremental ("integration receipt currentness mismatch: " ++ key))

section Receipts

variable (rebuilder : Rebuilder)

/-- The check against the entry of the task in the task index. -/
def checkTaskRef (receipt : Json) : Except Failure Unit := do
  let taskIndex ← rebuilder.taskIndex
  let index := (Dict.find (receipt.get "task_id").pyStr taskIndex.fields).getD (.obj [])
  refuse (index.isObject = false ∨ index.textAt "task_ref" ≠ (receipt.get "task_ref").pyStr ∨
      index.textAt "source_commit" ≠ (receipt.get "task_commit").pyStr)
    (.candidateIncremental "integration receipt TaskRef is stale")

def hydrateSmokeRef (item : Json) : Except Failure Unit := do
  refuse (item.isObject = false) (.candidateIncremental "rolling smoke receipt ref is invalid")
  let _ ← rebuilder.hydrateSidecarRef item
  .ok ()

def checkSmokeRefs (receipt : Json) : Except Failure Unit :=
  match receipt.get "rolling_smoke_receipt_refs" with
  | .arr (item :: items) => (item :: items).forM (hydrateSmokeRef rebuilder)
  | _ => .error (.candidateIncremental "integration receipt has no rolling smoke evidence")

def checkAncestry (receipt : Json) : Except Failure Unit := do
  let branch := receipt.textAt "candidate_branch"
  refuse (branch = "") (.candidateIncremental "integration receipt candidate branch missing")
  let current ← resolveCommit rebuilder ("refs/heads/" ++ branch)
  let integratedHead := (receipt.get "new_candidate_head").pyStr
  let ancestor ← rebuilder.runGit ["merge-base", "--is-ancestor", integratedHead, current]
  refuse (ancestor.returncode ≠ 0) (.candidateIncremental
    "integration receipt candidate head is not current ancestry")

def hydrateTaskIntegrationReceipt (descriptor : Json)
    (taskId workflowRunId taskMapGeneration : String) : Except Failure Json := do
  let receipt ← rebuilder.hydrateSidecarRef descriptor
  refuse (receipt.isObject = false)
    (.candidateIncremental "integration receipt is not an object")
  refuse (∃ key ∈ requiredFields, PyString.isBlank (receipt.textAt key))
    (.candidateIncremental "integration receipt is incomplete")
  expectField receipt "task_id" taskId
  expectField receipt "workflow_run_id" workflowRunId
  expectField receipt "task_map_generation" taskMapGeneration
  checkTaskRef rebuilder receipt
  checkSmokeRefs rebuilder receipt
  checkAncestry rebuilder receipt
  .ok receipt

end Receipts

/-- The run, the generations and the branch of a candidate. -/
structure Scope where
  workflowRunId : String
  taskMapGeneration : String
  candidateGeneration : String
  branch : String

/-- The fields of a payload or a receipt name the scope. -/
def Scope.NamedBy (scope : Scope) (body : Json) : Prop :=
  body.textAt "workflow_run_id" = scope.workflowRunId ∧
    body.textAt "task_map_generation" = scope.taskMapGeneration ∧
    body.textAt "candidate_generation" = scope.candidateGeneration ∧
    body.textAt "candidate_branch" = scope.branch

instance (scope : Scope) (body : Json) : Decidable (scope.NamedBy body) := by
  unfold Scope.NamedBy
  infer_instance

/-- One admitted receipt as an edge. -/
structure Edge where
  previous : String
  newHead : String
  descriptor : Json

def previousHead (receipt : Json) : String :=
  if (receipt.get "previous_candidate_head").truthy then
    receipt.textAt "previous_candidate_head"
  else receipt.textAt "expected_candidate_head"

section Walk

variable (rebuilder : Rebuilder) (scope : Scope)

/-- The edge of a receipt that hydrated; git is asked before the other tests are looked at. -/
def receiptEdge (payload descriptor receipt : Json) : Except Failure (Option Edge) := do
  let previous := previousHead receipt
  let newHead := receipt.textAt "new_candidate_head"
  let ancestor ← commitIsAncestor rebuilder previous newHead
  if previous = "" ∨ newHead = "" ∨ previous = newHead ∨
      payload.textAt "candidate_head" ≠ newHead ∨
      payload.textAt "operation_id" ≠ receipt.textAt "integration_operation_id" ∨
      ancestor = false then
    .ok none
  else .ok (some ⟨previous, newHead, descriptor⟩)

/-- What one event adds to the edges; `none` where the loop goes on. -/
def admittedEdge (event : ZfEvent) : Except Failure (Option Edge) :=
  let payload := event.body
  let descriptor := payload.get "receipt_ref"
  if event.type ≠ "candidate.updated" ∨ event.origin ≠ "kernel" then .ok none
  else if ¬scope.NamedBy payload ∨ descriptor.isObject = false then .ok none
  else
    match hydrateTaskIntegrationReceipt rebuilder descriptor (event.taskId.getD "")
        scope.workflowRunId scope.taskMapGeneration with
    | .error failure => if failure.caught then .ok none else .error failure
    | .ok receipt => receiptEdge rebuilder payload descriptor receipt

abbrev Edges := Dict String (List (String × Json))

/-- `edges.get(head, [])`. -/
def Edges.out (edges : Edges) (head : String) : List (String × Json) := (edges.get? head).getD []

/-- `edges.setdefault(previous, []).append((new_head, descriptor))`. -/
def Edges.add (edges : Edges) (edge : Edge) : Edges :=
  edges.insert edge.previous (edges.out edge.previous ++ [(edge.newHead, edge.descriptor)])

def collectEdges (edges : Edges) : Log → Except Failure Edges
  | [] => .ok edges
  | event :: rest => do
      match ← admittedEdge rebuilder scope event with
      | none => collectEdges edges rest
      | some edge => collectEdges (edges.add edge) rest

def leadsTo (newHead currentHead : String) : Except Failure Bool :=
  if newHead = currentHead then .ok true else commitIsAncestor rebuilder newHead currentHead

/-- The edges that lead towards the current head, one for every head and digest. -/
def bridges (currentHead : String) (found : Dict (String × String) Json) :
    List (String × Json) → Except Failure (Dict (String × String) Json)
  | [] => .ok found
  | (newHead, ref) :: rest => do
      let leads ← leadsTo rebuilder newHead currentHead
      let found := if leads then found.insert (newHead, ref.textAt "sha256") ref else found
      bridges currentHead found rest

/-- The only candidate at a head. -/
def nextHead (edges : Edges) (currentHead cursor : String) :
    Except Failure (Option (String × Json)) := do
  let candidates ← bridges rebuilder currentHead ∅ (edges.out cursor)
  match candidates.entries with
  | [((newHead, _), descriptor)] => .ok (some (newHead, descriptor))
  | _ => .ok none

/-- Only the keys of the edges can have a candidate. -/
def candidateAdvancementReceiptRefs (log : Log) (expectedHead currentHead : String) :
    Except Failure (List Json) := do
  if expectedHead = "" ∨ expectedHead = currentHead then .ok []
  else if (← commitIsAncestor rebuilder expectedHead currentHead) = false then .ok []
  else
    let edges ← collectEdges rebuilder scope ∅ log
    let found ← walk edges.keys (nextHead rebuilder edges currentHead) currentHead [] expectedHead
    .ok ((found.getD []).map Prod.fst)

end Walk

theorem expectField_eq_ok {receipt : Json} {key value : String} {passed : Unit}
    (expected : expectField receipt key value = .ok passed) :
    value = "" ∨ receipt.textAt key = value := by
  have fits := refuse_eq_ok_iff.mp expected
  by_cases blank : value = ""
  · exact Or.inl blank
  · exact Or.inr (not_not.mp fun differs => fits ⟨blank, differs⟩)

/-- A hydrated receipt is the content of the sidecar and fits the expected fields. -/
structure Hydrated (rebuilder : Rebuilder) (descriptor : Json)
    (taskId workflowRunId taskMapGeneration : String) (receipt : Json) : Prop where
  content : rebuilder.hydrateSidecarRef descriptor = .ok receipt
  task : taskId = "" ∨ receipt.textAt "task_id" = taskId
  run : workflowRunId = "" ∨ receipt.textAt "workflow_run_id" = workflowRunId
  generation : taskMapGeneration = "" ∨
    receipt.textAt "task_map_generation" = taskMapGeneration

section Proofs

variable {rebuilder : Rebuilder} {scope : Scope}

theorem hydrated_of_ok {descriptor receipt : Json} {taskId workflowRunId generation : String}
    (hydrated : hydrateTaskIntegrationReceipt rebuilder descriptor taskId workflowRunId
      generation = .ok receipt) :
    Hydrated rebuilder descriptor taskId workflowRunId generation receipt := by
  obtain ⟨body, content, later⟩ := bind_eq_ok hydrated
  obtain ⟨_, _, later⟩ := bind_eq_ok later
  obtain ⟨_, _, later⟩ := bind_eq_ok later
  obtain ⟨_, task, later⟩ := bind_eq_ok later
  obtain ⟨_, run, later⟩ := bind_eq_ok later
  obtain ⟨_, generated, later⟩ := bind_eq_ok later
  obtain ⟨_, _, later⟩ := bind_eq_ok later
  obtain ⟨_, _, later⟩ := bind_eq_ok later
  obtain ⟨_, _, later⟩ := bind_eq_ok later
  cases later
  exact ⟨content, expectField_eq_ok task, expectField_eq_ok run, expectField_eq_ok generated⟩

/-- The event is a kernel's, names the scope and the descriptor, and the receipt takes the
candidate from the one head to the other. -/
structure Integrates (rebuilder : Rebuilder) (scope : Scope) (event : ZfEvent)
    (receipt : Json) (previous : String) (descriptor : Json) (newHead : String) : Prop where
  type : event.type = "candidate.updated"
  origin : event.origin = "kernel"
  named : scope.NamedBy event.body
  ref : event.body.get "receipt_ref" = descriptor
  hydrated : Hydrated rebuilder descriptor (event.taskId.getD "") scope.workflowRunId
    scope.taskMapGeneration receipt
  starts : previousHead receipt = previous
  ends : receipt.textAt "new_candidate_head" = newHead
  announced : event.body.textAt "candidate_head" = newHead
  ancestor : commitIsAncestor rebuilder previous newHead = .ok true

theorem integrates_of_admittedEdge {event : ZfEvent} {edge : Edge}
    (admitted : admittedEdge rebuilder scope event = .ok (some edge)) :
    ∃ receipt, Integrates rebuilder scope event receipt edge.previous edge.descriptor
      edge.newHead := by
  unfold admittedEdge at admitted
  by_cases foreign : event.type ≠ "candidate.updated" ∨ event.origin ≠ "kernel"
  · rw [if_pos foreign] at admitted
    cases admitted
  rw [if_neg foreign] at admitted
  by_cases unnamed : ¬scope.NamedBy event.body ∨
      (event.body.get "receipt_ref").isObject = false
  · rw [if_pos unnamed] at admitted
    cases admitted
  rw [if_neg unnamed] at admitted
  cases outcome : hydrateTaskIntegrationReceipt rebuilder (event.body.get "receipt_ref")
      (event.taskId.getD "") scope.workflowRunId scope.taskMapGeneration with
  | error failure =>
      rw [outcome] at admitted
      change (if failure.caught then Except.ok none else Except.error failure) = _ at admitted
      split at admitted <;> cases admitted
  | ok receipt =>
      rw [outcome] at admitted
      obtain ⟨ancestor, asked, later⟩ := bind_eq_ok admitted
      split at later
      · cases later
      · rename_i fits
        cases later
        simp only [not_or, not_not, Bool.not_eq_false] at fits foreign unnamed
        obtain ⟨_, _, _, announced, _, rfl⟩ := fits
        exact ⟨receipt, foreign.1, foreign.2, unnamed.1, rfl, hydrated_of_ok outcome, rfl, rfl,
          announced, asked⟩

/-- The step from one head to the next is a receipt that an event of the log names. -/
def Advances (rebuilder : Rebuilder) (scope : Scope) (log : Log) (previous : String)
    (descriptor : Json) (newHead : String) : Prop :=
  ∃ event ∈ log, ∃ receipt, Integrates rebuilder scope event receipt previous descriptor newHead

theorem mem_out_add {edges : Edges} {edge : Edge} {head : String} {out : String × Json}
    (member : out ∈ (edges.add edge).out head) :
    out ∈ edges.out head ∨ head = edge.previous ∧ out = (edge.newHead, edge.descriptor) := by
  rw [Edges.out, Edges.add, Dict.get?_insert] at member
  by_cases here : head = edge.previous
  · rw [if_pos here, Option.getD_some, List.mem_append, List.mem_singleton] at member
    rw [here]
    exact member.imp_right (And.intro rfl)
  · rw [if_neg here] at member
    exact Or.inl member

/-- Every collected edge was there before or comes from an event. -/
theorem advances_of_collected {log : Log} {before edges : Edges}
    (collected : collectEdges rebuilder scope before log = .ok edges) {head : String}
    {out : String × Json} (member : out ∈ edges.out head) :
    out ∈ before.out head ∨ Advances rebuilder scope log head out.2 out.1 := by
  induction log generalizing before with
  | nil =>
      cases collected
      exact Or.inl member
  | cons event rest ih =>
      have later : ∀ {previous descriptor newHead},
          Advances rebuilder scope rest previous descriptor newHead →
            Advances rebuilder scope (event :: rest) previous descriptor newHead := by
        rintro _ _ _ ⟨other, inside, named⟩
        exact ⟨other, List.mem_cons_of_mem event inside, named⟩
      obtain ⟨admitted, here, onward⟩ := bind_eq_ok collected
      cases admitted with
      | none => exact (ih onward).imp_right later
      | some edge =>
          rcases ih onward with added | behind
          · refine (mem_out_add added).imp_right ?_
            rintro ⟨rfl, rfl⟩
            exact ⟨event, List.mem_cons_self, integrates_of_admittedEdge here⟩
          · exact Or.inr (later behind)

/-- Every candidate at a head is one of its edges. -/
theorem mem_of_bridges {currentHead : String} {out : List (String × Json)}
    {before candidates : Dict (String × String) Json}
    (bridged : bridges rebuilder currentHead before out = .ok candidates)
    {key : String × String} {ref : Json} (member : (key, ref) ∈ candidates.entries) :
    (key, ref) ∈ before.entries ∨ (key.1, ref) ∈ out := by
  induction out generalizing before with
  | nil =>
      cases bridged
      exact Or.inl member
  | cons first rest ih =>
      obtain ⟨leads, _, onward⟩ := bind_eq_ok bridged
      rcases ih onward with kept | later
      · cases leads with
        | false => exact Or.inl kept
        | true =>
            rcases Dict.mem_put kept with same | earlier
            · cases same
              exact Or.inr List.mem_cons_self
            · exact Or.inl earlier
      · exact Or.inr (List.mem_cons_of_mem first later)

theorem mem_out_of_nextHead {edges : Edges} {currentHead cursor newHead : String}
    {descriptor : Json}
    (chosen : nextHead rebuilder edges currentHead cursor = .ok (some (newHead, descriptor))) :
    (newHead, descriptor) ∈ edges.out cursor := by
  obtain ⟨candidates, bridged, only⟩ := bind_eq_ok chosen
  split at only
  · rename_i digest ref single
    cases only
    have member := mem_of_bridges bridged (single ▸ List.mem_singleton_self _)
    exact member.resolve_left List.not_mem_nil
  · cases only

/-- A bridge from the expected head to the current one is a chain of receipts that kernel
events of the scope name, along ancestors, and comes to no head twice. -/
theorem advancement_receipts_chain {log : Log} {expectedHead currentHead : String}
    {refs : List Json}
    (returned : candidateAdvancementReceiptRefs rebuilder scope log expectedHead currentHead =
      .ok refs) (filled : refs ≠ []) :
    ∃ steps : List (Json × String), refs = steps.map Prod.fst ∧
      IsChain (Advances rebuilder scope log) expectedHead steps ∧
      finish expectedHead steps = currentHead ∧ (visited expectedHead steps).Nodup := by
  unfold candidateAdvancementReceiptRefs at returned
  split at returned
  · cases returned
    exact absurd rfl filled
  obtain ⟨ancestor, _, later⟩ := bind_eq_ok returned
  split at later
  · cases later
    exact absurd rfl filled
  obtain ⟨edges, collected, later⟩ := bind_eq_ok later
  obtain ⟨found, walked, same⟩ := bind_eq_ok later
  cases same
  cases found with
  | none => exact absurd rfl filled
  | some steps =>
      have reaches := walk_reaches walked
      refine ⟨steps, rfl, reaches.chain.mono fun head descriptor next chosen => ?_,
        reaches.finish, reaches.distinct⟩
      exact (advances_of_collected collected (mem_out_of_nextHead chosen)).resolve_left
        List.not_mem_nil

end Proofs

section Sample

def sampleScope : Scope := ⟨"run-1", "map-1", "cg-1", "candidate/p1"⟩

/-- The receipt of the integration that made the head `newHead`, for a candidate of its own. -/
def sampleReceipt (previous newHead candidateGeneration branch : String) : Json :=
  .obj [("workflow_run_id", .str "run-1"), ("task_id", .str "T1"),
    ("task_map_generation", .str "map-1"), ("pipeline_key", .str "key"),
    ("integration_operation_id", .str newHead), ("task_ref", .str "refs/t1"),
    ("task_commit", .str "c1"), ("contract_revision", .str "r1"),
    ("candidate_generation", .str candidateGeneration), ("candidate_branch", .str branch),
    ("expected_candidate_head", .str previous), ("new_candidate_head", .str newHead),
    ("patch_identity", .str "p"), ("command_registry_digest", .str "d"),
    ("rolling_smoke_receipt_refs", .arr [.obj [("ref", .str "smoke")]])]

def sampleRef (newHead : String) : Json := .obj [("ref", .str newHead), ("sha256", .str newHead)]

def sampleAncestors : List (String × String) := [("h0", "h1"), ("h0", "h2"), ("h1", "h2")]

/-- Three commits in a row, the last one at the branch, and the two receipts between them. -/
def sampleRebuilder (candidateGeneration branch : String) : Rebuilder where
  hydrateSidecarRef descriptor :=
    if descriptor.textAt "ref" = "h1" then
      .ok (sampleReceipt "h0" "h1" candidateGeneration branch)
    else if descriptor.textAt "ref" = "h2" then
      .ok (sampleReceipt "h1" "h2" candidateGeneration branch)
    else if descriptor.textAt "ref" = "smoke" then .ok (.obj [])
    else .error .valueError
  taskIndex := .ok (.obj
    [("T1", .obj [("task_ref", .str "refs/t1"), ("source_commit", .str "c1")])])
  runGit
    | ["rev-parse", "--verify", _] => .ok ⟨0, "h2", ""⟩
    | ["merge-base", "--is-ancestor", ancestor, descendant] =>
        if ancestor == descendant || sampleAncestors.contains (ancestor, descendant) then
          .ok ⟨0, "", ""⟩
        else .ok ⟨1, "", ""⟩
    | _ => .ok ⟨128, "", "usage"⟩

/-- The kernel's report of the integration that made the head. -/
def sampleEvent (newHead : String) : ZfEvent where
  type := "candidate.updated"
  id := newHead
  ts := "t"
  taskId := some "T1"
  origin := "kernel"
  payload := .obj [("workflow_run_id", .str "run-1"), ("task_map_generation", .str "map-1"),
    ("candidate_generation", .str "cg-1"), ("candidate_branch", .str "candidate/p1"),
    ("candidate_head", .str newHead), ("operation_id", .str newHead),
    ("receipt_ref", sampleRef newHead)]

def sampleLog : Log := [sampleEvent "h2", sampleEvent "h1"]

theorem two_integrations_chained :
    candidateAdvancementReceiptRefs (sampleRebuilder "cg-1" "candidate/p1") sampleScope sampleLog
        "h0" "h2" = .ok [sampleRef "h1", sampleRef "h2"] ∧
      ∃ steps : List (Json × String), [sampleRef "h1", sampleRef "h2"] = steps.map Prod.fst ∧
        IsChain (Advances (sampleRebuilder "cg-1" "candidate/p1") sampleScope sampleLog) "h0"
          steps ∧
        finish "h0" steps = "h2" ∧ (visited "h0" steps).Nodup := by
  have returned : candidateAdvancementReceiptRefs (sampleRebuilder "cg-1" "candidate/p1")
      sampleScope sampleLog "h0" "h2" = .ok [sampleRef "h1", sampleRef "h2"] := by decide +kernel
  exact ⟨returned, advancement_receipts_chain returned (List.cons_ne_nil _ _)⟩

theorem commitIsAncestor_sample (candidateGeneration branch ancestor descendant : String) :
    commitIsAncestor (sampleRebuilder candidateGeneration branch) ancestor descendant = .ok true ↔
      ancestor = descendant ∨ (ancestor, descendant) ∈ sampleAncestors := by
  by_cases older : ancestor = descendant ∨ (ancestor, descendant) ∈ sampleAncestors
  · simp [commitIsAncestor, sampleRebuilder, older, bind, Except.bind]
  · simp [commitIsAncestor, sampleRebuilder, older, bind, Except.bind]

theorem isPartialOrder_sample (candidateGeneration branch : String) :
    IsPartialOrder String fun ancestor descendant =>
      commitIsAncestor (sampleRebuilder candidateGeneration branch) ancestor descendant =
        .ok true where
  refl commit := (commitIsAncestor_sample _ _ _ _).mpr (Or.inl rfl)
  trans first second third := by
    rw [commitIsAncestor_sample, commitIsAncestor_sample, commitIsAncestor_sample]
    simp only [sampleAncestors, List.mem_cons, Prod.mk.injEq, List.not_mem_nil, or_false]
    rintro (rfl | ⟨rfl, rfl⟩ | ⟨rfl, rfl⟩ | ⟨rfl, rfl⟩)
      (rfl | ⟨here, rfl⟩ | ⟨here, rfl⟩ | ⟨here, rfl⟩) <;> simp_all
  antisymm first second := by
    rw [commitIsAncestor_sample, commitIsAncestor_sample]
    simp only [sampleAncestors, List.mem_cons, Prod.mk.injEq, List.not_mem_nil, or_false]
    rintro (rfl | ⟨rfl, rfl⟩ | ⟨rfl, rfl⟩ | ⟨rfl, rfl⟩) <;> simp

/-- The contents of a receipt can name another candidate generation and another branch than
the event that names the receipt. -/
theorem receipt_of_other_candidate :
    candidateAdvancementReceiptRefs (sampleRebuilder "cg-2" "candidate/p2") sampleScope sampleLog
        "h0" "h2" = .ok [sampleRef "h1", sampleRef "h2"] ∧
      ¬ ∀ (rebuilder : Rebuilder) (scope : Scope) (log : Log) (expectedHead currentHead : String)
          (refs : List Json),
        (IsPartialOrder String fun ancestor descendant =>
          commitIsAncestor rebuilder ancestor descendant = .ok true) →
        candidateAdvancementReceiptRefs rebuilder scope log expectedHead currentHead = .ok refs →
        refs ≠ [] → ∀ ref ∈ refs, ∃ receipt,
          rebuilder.hydrateSidecarRef ref = .ok receipt ∧ scope.NamedBy receipt := by
  have returned : candidateAdvancementReceiptRefs (sampleRebuilder "cg-2" "candidate/p2")
      sampleScope sampleLog "h0" "h2" = .ok [sampleRef "h1", sampleRef "h2"] := by decide +kernel
  refine ⟨returned, fun every => ?_⟩
  obtain ⟨receipt, content, named⟩ := every _ _ _ _ _ _ (isPartialOrder_sample _ _) returned
    (List.cons_ne_nil _ _) (sampleRef "h1") List.mem_cons_self
  have body : (sampleRebuilder "cg-2" "candidate/p2").hydrateSidecarRef (sampleRef "h1") =
      .ok (sampleReceipt "h0" "h1" "cg-2" "candidate/p2") := by decide +kernel
  cases body.symm.trans content
  exact absurd named (by decide +kernel)

end Sample

end ZaofuFormal.Candidates
