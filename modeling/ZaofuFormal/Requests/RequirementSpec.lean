import ZaofuFormal.Foundation.Fallible
import ZaofuFormal.Foundation.Json

/-!
# Requirement specs

A versioned requirement is a record that is normalised whenever it is built or
revised: its lists hold distinct, stripped, non-empty texts, and its answers
keep the first thirty-two questions, each with its latest answer.  The kind of
a request decides which of its fields have to be filled in.
-/

namespace ZaofuFormal.Requests

open Foundation
open Fallible (refuse required)

inductive RequestError where
  | request (message : String)
  | conflict (message : String)
  | value (message : String)
  deriving DecidableEq

/-- The distinct non-empty texts of a list, stripped. -/
def stringsOf (items : List String) : List String :=
  ((items.map PyString.strip).filter fun text => decide (text ≠ "")).eraseDups

def strings : Json → List String
  | .str text => stringsOf [text]
  | .arr items => stringsOf (items.map Json.pyStr)
  | _ => []

structure Clarification where
  question : String
  answer : String
  deriving DecidableEq

/-- Take one answer: the latest answer of a question replaces the earlier one,
and a new question is kept while there is room. -/
def takeAnswer (answers : List (String × String)) (raw : Json) : List (String × String) :=
  let question := PyString.strip (raw.textAt "question")
  let answer := PyString.strip (raw.textAt "answer")
  if question = "" ∨ answer = "" then answers
  else if question ∈ answers.map Prod.fst ∨ answers.length < 32 then
    Dict.put question answer answers
  else answers

def normalizeClarificationAnswers (value : Json) : List Clarification :=
  match value with
  | .arr items => (items.foldl takeAnswer []).map fun entry => ⟨entry.1, entry.2⟩
  | _ => []

def Clarification.json (item : Clarification) : Json :=
  .obj [("question", .str item.question), ("answer", .str item.answer)]

def mergeClarificationAnswers (current : List Clarification) (updates : Json) :
    List Clarification :=
  normalizeClarificationAnswers (.arr ((current.map Clarification.json) ++
    (normalizeClarificationAnswers updates).map Clarification.json))

structure RequirementSpec where
  requestId : String
  projectId : String
  kind : String
  revision : Int
  objective : String
  sourceRef : String
  sourceRefs : Json
  artifactRefs : List Json
  taskInputBinding : Json
  taskInputContractRef : String
  taskInputContractDigest : String
  sourceRoot : String
  targetRoot : String
  scope : List String
  acceptance : List String
  constraints : List String
  openQuestions : List String
  clarificationAnswers : List Clarification
  confirmed : Bool
  createdAt : String
  updatedAt : String
  confirmedAt : String := ""
  confirmedBy : String := ""

def normalizeRequirementSpec (spec : RequirementSpec) : RequirementSpec :=
  { spec with
    acceptance := stringsOf spec.acceptance
    constraints := stringsOf spec.constraints
    openQuestions := stringsOf spec.openQuestions
    scope := stringsOf spec.scope
    clarificationAnswers :=
      normalizeClarificationAnswers (.arr (spec.clarificationAnswers.map Clarification.json)) }

/-- `first or second` on decoded JSON. -/
def orElse (first second : Json) : Json := if first.truthy then first else second

def conversion {α : Type} (value : Option α) : Except RequestError α :=
  required value (.value "conversion of a manifest field")

def buildRequirementSpec (manifest intake : Json) (revision : Int) (confirmed : Bool)
    (now : String) : Except RequestError RequirementSpec := do
  let sourceRefs ← conversion (manifest.get "source_refs").object?
  let artifactRefs ← conversion (manifest.get "artifact_refs").list?
  let taskInputBinding ← conversion (manifest.get "task_input_binding").object?
  return normalizeRequirementSpec {
    requestId := manifest.textAt "request_id"
    projectId := manifest.textAt "project_id"
    kind := (orElse (orElse (manifest.get "kind") (intake.get "effective_kind"))
      (.str "issue")).text
    revision
    objective := (orElse (manifest.get "objective") (intake.get "objective")).text
    sourceRef := manifest.textAt "source_ref"
    sourceRefs, artifactRefs, taskInputBinding
    taskInputContractRef := manifest.textAt "task_input_contract_ref"
    taskInputContractDigest := manifest.textAt "task_input_contract_digest"
    sourceRoot := (orElse (manifest.get "source_root") (intake.get "source_root")).text
    targetRoot := (orElse (manifest.get "target_root") (intake.get "target_root")).text
    scope := strings (orElse (intake.get "scope") (manifest.get "scope"))
    acceptance := strings (orElse (intake.get "acceptance") (manifest.get "acceptance"))
    constraints := strings (orElse (intake.get "constraints") (manifest.get "constraints"))
    openQuestions := strings (orElse (intake.get "open_questions") (manifest.get "open_questions"))
    clarificationAnswers := normalizeClarificationAnswers
      (orElse (intake.get "clarification_answers") (manifest.get "clarification_answers"))
    confirmed
    createdAt := (orElse (manifest.get "created_at") (.str now)).text
    updatedAt := now }

inductive RequiredField where
  | objective
  | sourceRoot
  | targetRoot
  deriving DecidableEq

def RequiredField.text : RequiredField → String
  | .objective => "objective"
  | .sourceRoot => "source_root"
  | .targetRoot => "target_root"

def workflowKindPolicies : List (String × List RequiredField) :=
  [("issue", [.objective]), ("prd", [.objective, .targetRoot]),
    ("refactor", [.objective, .sourceRoot, .targetRoot]), ("workflow", [.objective])]

/-- `normalize_workflow_kind` without `allow_auto`. -/
def requiredFieldsForKind (kind : String) : Except RequestError (List RequiredField) :=
  let value := PyString.lowerWord (PyString.strip kind)
  let named := if value = "feat" then "prd" else value
  required (Dict.find named workflowKindPolicies)
    (.value "workflow kind must be issue, prd, refactor, feat, workflow")

def RequirementSpec.valueOf (spec : RequirementSpec) : RequiredField → String
  | .objective => if spec.objective = "" then spec.sourceRef else spec.objective
  | .sourceRoot => spec.sourceRoot
  | .targetRoot => spec.targetRoot

def missingFields (spec : RequirementSpec) : Except RequestError (List String) := do
  let fields ← requiredFieldsForKind (if spec.kind = "" then "issue" else spec.kind)
  return (fields.filter fun field => PyString.isBlank (spec.valueOf field)).map RequiredField.text

theorem mem_stringsOf {items : List String} {text : String} (member : text ∈ stringsOf items) :
    PyString.strip text = text ∧ text ≠ "" := by
  obtain ⟨mapped, nonempty⟩ := List.mem_filter.mp (List.mem_eraseDups.mp member)
  obtain ⟨raw, _, rfl⟩ := List.mem_map.mp mapped
  exact ⟨PyString.strip_strip raw, of_decide_eq_true nonempty⟩

@[simp] theorem stringsOf_stringsOf (items : List String) :
    stringsOf (stringsOf items) = stringsOf items := by
  have stripped : (stringsOf items).map PyString.strip = stringsOf items :=
    (List.map_congr_left fun text member => (mem_stringsOf member).1).trans (List.map_id _)
  have kept : (stringsOf items).filter (fun text => decide (text ≠ "")) = stringsOf items :=
    List.filter_eq_self.mpr fun text member => decide_eq_true (mem_stringsOf member).2
  have distinct : (stringsOf items).Nodup := Lists.nodup_eraseDups _
  rw [stringsOf, stripped, kept, Lists.eraseDups_of_nodup distinct]

/-- Answers as normalisation leaves them. -/
structure Normal (answers : List (String × String)) : Prop where
  distinct : (answers.map Prod.fst).Nodup
  few : answers.length ≤ 32
  stripped : ∀ entry ∈ answers, PyString.strip entry.1 = entry.1 ∧ entry.1 ≠ "" ∧
    PyString.strip entry.2 = entry.2 ∧ entry.2 ≠ ""

variable {answers : List (String × String)}

theorem length_put_of_mem {question : String}
    (present : question ∈ answers.map Prod.fst) (answer : String) :
    (Dict.put question answer answers).length = answers.length := by
  induction answers with
  | nil => simp at present
  | cons entry rest ih =>
      rw [Dict.put]
      split
      · rfl
      · rename_i other
        rw [List.map_cons, List.mem_cons] at present
        rw [List.length_cons, List.length_cons,
          ih (present.resolve_left fun same => other same.symm)]

theorem takeAnswer_normal (normal : Normal answers)
    (raw : Json) : Normal (takeAnswer answers raw) := by
  unfold takeAnswer
  dsimp only
  by_cases empty : PyString.strip (raw.textAt "question") = "" ∨
      PyString.strip (raw.textAt "answer") = ""
  · rw [if_pos empty]
    exact normal
  rw [if_neg empty]
  obtain ⟨question, answer⟩ := not_or.mp empty
  by_cases room : PyString.strip (raw.textAt "question") ∈ answers.map Prod.fst ∨
      answers.length < 32
  · rw [if_pos room]
    refine ⟨Dict.nodup_put _ _ normal.distinct, ?_, fun entry member => ?_⟩
    · by_cases present : PyString.strip (raw.textAt "question") ∈ answers.map Prod.fst
      · rw [length_put_of_mem present]
        exact normal.few
      · rw [Dict.put_of_notMem present, List.length_append]
        exact room.resolve_left present
    · rcases Dict.mem_put member with rfl | earlier
      · exact ⟨PyString.strip_strip _, question, PyString.strip_strip _, answer⟩
      · exact normal.stripped entry earlier
  · rw [if_neg room]
    exact normal

theorem foldl_takeAnswer_normal (items : List Json)
    (normal : Normal answers) : Normal (items.foldl takeAnswer answers) := by
  induction items generalizing answers with
  | nil => exact normal
  | cons item rest ih => exact ih (takeAnswer_normal normal item)

theorem takeAnswer_entry {entry : String × String}
    (stripped : PyString.strip entry.1 = entry.1 ∧ entry.1 ≠ "" ∧
      PyString.strip entry.2 = entry.2 ∧ entry.2 ≠ "")
    (absent : entry.1 ∉ answers.map Prod.fst) (room : answers.length < 32) :
    takeAnswer answers (Clarification.json ⟨entry.1, entry.2⟩) = answers ++ [entry] := by
  have question : (Clarification.json ⟨entry.1, entry.2⟩).textAt "question" = entry.1 :=
    Json.text_str entry.1
  have answer : (Clarification.json ⟨entry.1, entry.2⟩).textAt "answer" = entry.2 :=
    Json.text_str entry.2
  unfold takeAnswer
  rw [question, answer, stripped.1, stripped.2.2.1]
  dsimp only
  rw [if_neg (not_or.mpr ⟨stripped.2.1, stripped.2.2.2⟩), if_pos (Or.inr room),
    Dict.put_of_notMem absent]

/-- Taking the answers of a normalised list again appends them one by one. -/
theorem foldl_takeAnswer_entries (later : List (String × String)) :
    ∀ before, Normal (before ++ later) →
      (later.map fun entry => Clarification.json ⟨entry.1, entry.2⟩).foldl takeAnswer before =
        before ++ later := by
  induction later with
  | nil => exact fun before _ => (List.append_nil before).symm
  | cons entry rest ih =>
      intro before normal
      have split : before ++ entry :: rest = before ++ [entry] ++ rest := by simp
      have absent : entry.1 ∉ before.map Prod.fst := by
        have distinct := normal.distinct
        rw [List.map_append, List.nodup_append] at distinct
        exact fun member => distinct.2.2 _ member _ (by simp) rfl
      have room : before.length < 32 := by
        have few := normal.few
        rw [List.length_append, List.length_cons] at few
        omega
      rw [List.map_cons, List.foldl_cons,
        takeAnswer_entry (normal.stripped entry (by simp)) absent room, split]
      exact ih (before ++ [entry]) (split ▸ normal)

theorem normalizeClarificationAnswers_normal (value : Json) :
    normalizeClarificationAnswers (.arr
      ((normalizeClarificationAnswers value).map Clarification.json)) =
        normalizeClarificationAnswers value := by
  cases value with
  | arr items =>
      have normal : Normal (items.foldl takeAnswer []) :=
        foldl_takeAnswer_normal items ⟨List.nodup_nil, Nat.zero_le _, by simp⟩
      have again := foldl_takeAnswer_entries (items.foldl takeAnswer []) [] normal
      simp only [normalizeClarificationAnswers, List.map_map]
      refine congrArg (List.map _) (Eq.trans ?_ again)
      rfl
  | null | bool | int | float | str | obj => rfl

end ZaofuFormal.Requests
