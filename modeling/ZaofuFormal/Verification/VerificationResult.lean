import ZaofuFormal.Foundation.Fallible
import ZaofuFormal.Foundation.Json
import ZaofuFormal.Foundation.Sorting

/-!
# Verification results

A verifier's report arrives as a typed result or as a legacy child report.  Both are
brought to one shape, with defaults of the contract and the target; the requirement
rows get a known status and an acceptance id, and the result is then checked against the
contract and by itself.  What a passed verdict stands for is read off these last checks.
-/

namespace ZaofuFormal.Verification

open Foundation
open Fallible (bind_eq_ok refuse refuse_eq_ok_iff)

def schemaVersion : String := "verification-result.v1"

def completedVerdicts : List String := ["passed", "rejected", "blocked"]

def executionStatuses : List String := ["completed", "failed"]

def requirementStatuses : List String :=
  ["passed", "failed", "blocked", "waived", "not_applicable"]

/-- `_list`: a value that is no list stands for itself, and nothing for `None` and `""`. -/
def listOf : Json → List Json
  | .arr items => items
  | .null => []
  | .str text => if text = "" then [] else [.str text]
  | value => [value]

def stringList (value : Json) : List String :=
  ((listOf value).map fun item => PyString.strip item.pyStr).filter (· ≠ "")

/-- `first or second`. -/
def orElse (first second : Json) : Json := if first.truthy then first else second

def texts (values : List String) : Json := .arr (values.map Json.str)

abbrev VerificationResult := Dict String Json

namespace VerificationResult

/-- `result.get(key)`. -/
def field (result : VerificationResult) (key : String) : Json := (result.get? key).getD .null

/-- `str(result.get(key) or "")`. -/
def textAt (result : VerificationResult) (key : String) : String := (result.field key).text

/-- `result[key] = value`. -/
def assign (result : VerificationResult) (key : String) (value : Json) : VerificationResult :=
  result.insert key value

def setDefault (result : VerificationResult) (key : String) (value : Json) :
    VerificationResult :=
  if result.contains key then result else result.assign key value

def setDefaults (result : VerificationResult) (defaults : List (String × Json)) :
    VerificationResult :=
  defaults.foldl (fun result entry => result.setDefault entry.1 entry.2) result

/-- The list in a field; any other value has no members. -/
def members (result : VerificationResult) (key : String) : List Json :=
  match result.field key with
  | .arr items => items
  | _ => []

end VerificationResult

open VerificationResult

def recommendations : List String :=
  ["approve", "approved", "pass", "passed", "reject", "rejected", "block", "blocked"]

/-- The first value of several that counts as true, as a text. -/
def firstText (values : List Json) : String := ((values.find? Json.truthy).map Json.pyStr).getD ""

section Normalize

variable (lower : String → String) (defaultOwner defaultTier : String)

def legacyResult (payload : Json) : VerificationResult :=
  let report := (payload.get "report").objectOrEmpty
  let matrix? : Option (List Json) :=
    match report.get "requirement_coverage_matrix" with
    | .arr rows => some rows
    | _ =>
        match payload.get "requirement_coverage_matrix" with
        | .arr rows => some rows
        | _ => none
  let recommendation := lower (PyString.strip
    (firstText [report.get "recommendation", report.get "verdict", payload.get "verdict"]))
  let reportStatus := lower (PyString.strip
    (firstText [report.get "status", payload.get "status"]))
  let hasProductReport := matrix?.any (fun rows => !rows.isEmpty) ∨
    recommendation ∈ recommendations
  let executionStatus :=
    if ¬ hasProductReport ∧ reportStatus ∈ ["failed", "error"] then "failed" else "completed"
  let verdict :=
    if executionStatus = "failed" then "abstained"
    else if recommendation ∈ ["reject", "rejected"] ∨ reportStatus = "rejected" then "rejected"
    else if recommendation ∈ ["block", "blocked"] ∨ reportStatus = "blocked" then "blocked"
    else if reportStatus ∈ ["failed", "error"] then "rejected"
    else "passed"
  Dict.ofEntries [
    ("schema_version", .str schemaVersion),
    ("execution_status", .str executionStatus),
    ("verdict", .str verdict),
    ("verification_owner", .str (firstText [report.get "verification_owner", .str defaultOwner])),
    ("verification_tier", .str (firstText [report.get "verification_tier", .str defaultTier])),
    ("summary", .str
      (firstText [report.get "summary", payload.get "summary", payload.get "reason"])),
    ("findings", .arr (listOf (orElse (report.get "findings") (payload.get "findings")))),
    ("evidence_refs", texts
      (stringList (orElse (report.get "evidence_refs") (payload.get "evidence_refs")))),
    ("reproduction_commands", texts (stringList (orElse (report.get "reproduction_commands")
      (orElse (payload.get "reproduction_commands") (payload.get "verification_commands"))))),
    ("requirement_results", .arr (matrix?.getD []))]

def contractKeys : List String :=
  ["workflow_run_id", "task_id", "contract_authority_revision", "execution_owner",
    "workflow_request_id", "workflow_request_revision", "origin_binding_digest",
    "contract_revision", "task_map_generation", "base_commit", "task_ref"]

def targetKeys : List String :=
  ["contract_snapshot_ref", "contract_snapshot_digest", "target_snapshot_ref",
    "target_commit", "target_snapshot_digest"]

def defaultFailureClass (result : VerificationResult) : String :=
  if result.textAt "execution_status" = "failed" then "verifier_execution_failure"
  else if result.textAt "verdict" = "rejected" then "product_rejection"
  else if result.textAt "verdict" = "blocked" then "dependency_blocked"
  else "none"

def withDefaults (payload contract target : Json) (result : VerificationResult) :
    VerificationResult :=
  let result := result.setDefaults <|
    [("schema_version", .str schemaVersion)] ++
      contractKeys.map (fun key => (key, .str (contract.textAt key))) ++
      targetKeys.map (fun key => (key, .str (target.textAt key))) ++
      [("verification_owner", .str defaultOwner),
        ("verification_tier", .str defaultTier),
        ("summary", .str (payload.textAt "summary")),
        ("findings", .arr (listOf (payload.get "findings"))),
        ("evidence_refs", texts (stringList (payload.get "evidence_refs"))),
        ("reproduction_commands", texts (stringList (orElse
          (payload.get "reproduction_commands") (payload.get "verification_commands"))))]
  result.setDefault "failure_class" (.str (defaultFailureClass result))

/-- `acceptance_criteria` of the contract, when it is a list. -/
def criteriaOf (contract : Json) : List Json :=
  match contract.get "acceptance_criteria" with
  | .arr criteria => criteria
  | _ => []

/-- `str(item.get("acceptance_id") or "")`. -/
def acceptanceId (item : Json) : String := item.textAt "acceptance_id"

/-- The criterion with an id, the last of several; nothing else has an owner or a tier. -/
def criterionFor (contract : Json) (id : String) : Json :=
  ((criteriaOf contract).reverse.find? fun item =>
    item.isObject && acceptanceId item != "" && acceptanceId item == id).getD (.obj [])

def statusAliases : List (String × String) :=
  [("pass", "passed"), ("approve", "passed"), ("approved", "passed"), ("fail", "failed"),
    ("reject", "failed"), ("rejected", "failed"), ("block", "blocked")]

def normalizeRow (contract : Json) (index : Nat) (record : Json) : Json :=
  let named := PyString.strip
    (firstText [record.get "acceptance_id", record.get "criterion_id", record.get "id"])
  let id :=
    if named = "" then
      match (criteriaOf contract)[index]? with
      | some (.obj fields) => acceptanceId (.obj fields)
      | _ => named
    else named
  let criterion := criterionFor contract id
  let rawStatus := lower (firstText [record.get "status", record.get "verdict"])
  .obj [
    ("acceptance_id", .str id),
    ("status", .str ((Dict.find rawStatus statusAliases).getD rawStatus)),
    ("verification_owner", .str (firstText [record.get "verification_owner",
      criterion.get "verification_owner", .str defaultOwner])),
    ("verification_tier", .str (firstText [record.get "verification_tier",
      criterion.get "verification_tier", .str defaultTier])),
    ("evidence_refs", texts (stringList (record.get "evidence_refs"))),
    ("findings", .arr (listOf (record.get "findings"))),
    ("reproduction_commands", texts
      (stringList (orElse (record.get "reproduction_commands") (record.get "commands"))))]

/-- Rows that are no objects are left out, and keep their place in the count. -/
def normalizeRequirementResults (contract : Json) (source : List Json) : List Json :=
  (source.zipIdx.filter fun item => item.1.isObject).map fun item =>
    normalizeRow lower defaultOwner defaultTier contract item.2 item.1

end Normalize

def reworkStatuses : List String :=
  ["missing", "incomplete", "incorrect", "unverified", "blocked"]

def reworkKeys : List String :=
  ["rework_item_id", "acceptance_id", "expected", "observed", "required_delta", "done_when",
    "next_gate", "owner"]

def place (name : String) (index : Nat) : String := name ++ "[" ++ toString index ++ "]"

def normalizeReworkItem (index : Nat) (item : Json) : Except String Json := do
  refuse (item.isObject = false) (place "rework_items" index ++ " must be an object")
  refuse (PyString.strip (item.textAt "status") ∉ reworkStatuses)
    (place "rework_items" index ++ " has invalid status")
  let missing := reworkKeys.filter fun key => PyString.isBlank (item.textAt key)
  refuse (missing ≠ [])
    (place "rework_items" index ++ " missing: " ++ ", ".intercalate missing)
  let record := Dict.ofEntries item.fields
  let record := record.insert "reproduction_command_ids"
    (texts (stringList (item.get "reproduction_command_ids")))
  .ok (Json.ofDict (record.insert "allowed_scope"
    (texts (stringList (item.get "allowed_scope")))))

def normalizeReworkItems (source : List Json) : Except String (List Json) :=
  source.zipIdx.mapM fun item => normalizeReworkItem item.2 item.1

/-- What the rows name under a key, each text once. -/
def rowTexts (rows : List Json) (key : String) : List String :=
  (rows.filter Json.isObject).foldl
    (fun values row => (stringList (row.get key)).foldl
      (fun values value => if value ∈ values then values else values ++ [value]) values) []

def aggregateTexts (key : String) (result : VerificationResult) : VerificationResult :=
  if stringList (result.field key) ≠ [] then result
  else result.assign key (texts (rowTexts (result.members "requirement_results") key))

def aggregateFindings (result : VerificationResult) : VerificationResult :=
  if listOf (result.field "findings") ≠ [] then result
  else
    result.assign "findings" (.arr
      (((result.members "requirement_results").filter Json.isObject).flatMap fun row =>
        listOf (row.get "findings")))

def aggregateRequirementEvidence (result : VerificationResult) : VerificationResult :=
  match result.field "requirement_results" with
  | .arr _ =>
      aggregateFindings
        (aggregateTexts "reproduction_commands" (aggregateTexts "evidence_refs" result))
  | _ => result

/-- `bool(item.get("mandatory", True))`. -/
def isMandatory (item : Json) : Bool :=
  match Dict.find "mandatory" item.fields with
  | some value => value.truthy
  | none => true

def mandatoryIds (contract : Json) : List String :=
  (((criteriaOf contract).filter fun item => item.isObject && isMandatory item).map
    acceptanceId).filter (· ≠ "")

/-- Every id of the contract, and `""` for a criterion without one. -/
def knownIds (contract : Json) : List String :=
  ((criteriaOf contract).filter Json.isObject).map acceptanceId

/-- The requirement rows of a result. -/
def rowsOf (result : VerificationResult) : List Json := result.members "requirement_results"

def validateRequirementCoverage (result : VerificationResult) (contract : Json) :
    Except String Unit :=
  if result.textAt "execution_status" = "failed" then .ok ()
  else do
    let ids := ((rowsOf result).filter Json.isObject).map acceptanceId
    let duplicates := Sorting.sortedSet (ids.filter fun id => id ≠ "" ∧ 1 < ids.count id)
    refuse (duplicates ≠ [])
      ("requirement matrix contains duplicate acceptance ids: " ++ ", ".intercalate duplicates)
    let missing := Sorting.sortedSet ((mandatoryIds contract).filter (· ∉ ids))
    let unknown := Sorting.sortedSet (ids.filter (· ∉ knownIds contract))
    refuse (missing ≠ [])
      ("requirement matrix misses mandatory acceptance ids: " ++ ", ".intercalate missing)
    refuse (unknown ≠ [])
      ("requirement matrix has unknown acceptance ids: " ++ ", ".intercalate unknown)

def identityKeys (result : VerificationResult) : List String :=
  ["workflow_run_id", "task_id", "contract_revision", "task_map_generation", "base_commit",
    "task_ref", "contract_snapshot_ref", "contract_snapshot_digest", "target_snapshot_ref",
    "target_commit", "target_snapshot_digest", "verification_owner", "verification_tier"] ++
    if result.textAt "contract_authority_revision" = "" then []
    else ["contract_authority_revision"]

/-- The probe receipts of a result. -/
def probesOf (result : VerificationResult) : List Json := result.members "probe_receipts"

def probeId (probe : Json) : String :=
  PyString.strip (firstText [probe.get "probe_id", probe.get "command_id"])

def probeStatus (probe : Json) : String := PyString.strip (probe.textAt "status")

/-- The receipts from one place on, with the ids seen before it. -/
def validateProbes : Nat → List String → List Json → Except String Unit
  | _, _, [] => .ok ()
  | index, seen, probe :: rest => do
      refuse (probe.isObject = false) (place "probe_receipts" index ++ " must be an object")
      refuse (probeId probe = "" ∨ probeId probe ∈ seen)
        (place "probe_receipts" index ++ " id is missing or duplicated")
      refuse (probeStatus probe ∉ ["passed", "failed", "blocked"])
        (place "probe_receipts" index ++ " has invalid status")
      refuse (stringList (probe.get "evidence_refs") = [])
        (place "probe_receipts" index ++ " requires evidence_refs")
      validateProbes (index + 1) (probeId probe :: seen) rest

def validatePassedEvidence (result : VerificationResult) : Except String Unit := do
  refuse (stringList (result.field "evidence_refs") = [])
    "passed verdict requires top-level report evidence_refs"
  refuse (stringList (result.field "reused_command_receipt_ids") = [] ∧ probesOf result = [])
    "passed verdict requires a reused command or probe receipt"
  validateProbes 0 [] (probesOf result)

def rowKeys : List String :=
  ["acceptance_id", "status", "verification_owner", "verification_tier"]

def rowStatus (row : Json) : String := row.textAt "status"

def validateRow (strict : Bool) (index : Nat) (row : Json) : Except String Unit := do
  let name := place "requirement_results" index
  refuse (row.isObject = false) (name ++ " must be an object")
  let missing := rowKeys.filter fun key => PyString.isBlank (row.textAt key)
  refuse (missing ≠ []) (name ++ " missing: " ++ ", ".intercalate missing)
  refuse (rowStatus row ∉ requirementStatuses) (name ++ " has invalid status")
  refuse (strict = true ∧ rowStatus row = "passed" ∧ stringList (row.get "evidence_refs") = [])
    (name ++ " passed without evidence")
  refuse (strict = true ∧ rowStatus row ∈ ["failed", "blocked"] ∧
      listOf (row.get "findings") = [])
    (name ++ " " ++ rowStatus row ++ " without findings")
  refuse (strict = true ∧ rowStatus row ∈ ["failed", "blocked"] ∧
      stringList (row.get "evidence_refs") = [])
    (name ++ " " ++ rowStatus row ++ " without evidence")

/-- The checks of a completed execution. -/
def validateCompleted (result : VerificationResult) (strict requireReworkItems : Bool) :
    Except String Unit := do
  let verdict := result.textAt "verdict"
  refuse (verdict ∉ completedVerdicts) "completed verifier must pass, reject, or block"
  (if strict = true ∧ verdict = "passed" then validatePassedEvidence result else .ok ())
  refuse (rowsOf result = []) "completed verdict requires a requirement matrix"
  (rowsOf result).zipIdx.forM fun row => validateRow strict row.2 row.1
  let statuses := (rowsOf result).map rowStatus
  refuse (verdict = "passed" ∧ ("failed" ∈ statuses ∨ "blocked" ∈ statuses))
    "passed verdict contains failed or blocked requirements"
  refuse (verdict = "rejected" ∧ "failed" ∉ statuses)
    "rejected verdict requires a failed requirement"
  refuse (verdict = "blocked" ∧ "blocked" ∉ statuses)
    "blocked verdict requires a blocked requirement"
  refuse (requireReworkItems = true ∧ verdict ∈ ["rejected", "blocked"] ∧
      (result.field "rework_items").truthy = false)
    (verdict ++ " verdict requires structured rework_items")

def validateVerificationResult (result : VerificationResult)
    (strict requireReworkItems : Bool) : Except String Unit := do
  refuse (result.textAt "schema_version" ≠ schemaVersion)
    "unsupported verification result schema"
  let missing := (identityKeys result).filter fun key => PyString.isBlank (result.textAt key)
  refuse (missing ≠ []) ("verification result missing: " ++ ", ".intercalate missing)
  let executionStatus := result.textAt "execution_status"
  refuse (executionStatus ∉ executionStatuses)
    ("invalid execution_status " ++ Json.reprString executionStatus)
  if executionStatus = "failed" then
    refuse (result.textAt "verdict" ≠ "abstained") "failed verifier execution must abstain"
  else validateCompleted result strict requireReworkItems

/-- The result a payload carries, typed or legacy. -/
def reportedResult (lower : String → String) (defaultOwner defaultTier : String)
    (payload : Json) : VerificationResult :=
  match payload.get "verification_result" with
  | .obj fields => Dict.ofEntries fields
  | _ => legacyResult lower defaultOwner defaultTier payload

def normalizeVerificationResult (lower : String → String) (payload contract target : Json)
    (defaultOwner defaultTier : String) (strict requireReworkItems : Bool) :
    Except String VerificationResult := do
  let result := withDefaults defaultOwner defaultTier payload contract target
    (reportedResult lower defaultOwner defaultTier payload)
  let result := result.assign "reused_command_receipt_ids"
    (texts (stringList (result.field "reused_command_receipt_ids")))
  let result := result.assign "probe_receipts" (.arr (listOf (result.field "probe_receipts")))
  let reworkItems ← normalizeReworkItems (result.members "rework_items")
  let result := result.assign "rework_items" (.arr reworkItems)
  let result := result.assign "requirement_results" (.arr (normalizeRequirementResults lower
    (firstText [result.field "verification_owner", .str defaultOwner])
    (firstText [result.field "verification_tier", .str defaultTier])
    contract (result.members "requirement_results")))
  let result := aggregateRequirementEvidence result
  validateRequirementCoverage result contract
  validateVerificationResult result strict requireReworkItems
  .ok result

theorem of_refuse {refused : Prop} [Decidable refused] {error : String} {α : Type}
    {next : Unit → Except String α} {result : α}
    (passed : (refuse refused error >>= next) = .ok result) :
    ¬ refused ∧ next () = .ok result := by
  obtain ⟨_, allowed, later⟩ := bind_eq_ok passed
  exact ⟨refuse_eq_ok_iff.mp allowed, later⟩

/-- A row that counts towards a passed verdict. -/
def Settled (row : Json) : Prop :=
  rowStatus row = "waived" ∨ rowStatus row = "not_applicable" ∨
    rowStatus row = "passed" ∧ stringList (row.get "evidence_refs") ≠ []

def Unfavourable (status : String) : Prop := status = "failed" ∨ status = "blocked"

structure RowFacts (row : Json) : Prop where
  isObject : row.isObject = true
  named : acceptanceId row ≠ ""
  status : rowStatus row ∈ requirementStatuses
  evidence : rowStatus row = "passed" → stringList (row.get "evidence_refs") ≠ []

theorem validateRow_facts {index : Nat} {row : Json} (valid : validateRow true index row = .ok ()) :
    RowFacts row := by
  obtain ⟨object, valid⟩ := of_refuse valid
  obtain ⟨filled, valid⟩ := of_refuse valid
  obtain ⟨status, valid⟩ := of_refuse valid
  obtain ⟨evidence, _⟩ := of_refuse valid
  refine ⟨by simpa using object, ?_, not_not.mp status, ?_⟩
  · intro nameless
    have blank : PyString.isBlank (row.textAt "acceptance_id") = true := by
      change PyString.isBlank (acceptanceId row) = true
      rw [nameless]
      decide +kernel
    have member : "acceptance_id" ∈ rowKeys.filter fun key =>
        PyString.isBlank (row.textAt key) :=
      List.mem_filter.mpr ⟨List.mem_cons_self, blank⟩
    exact filled (List.ne_nil_of_mem member)
  · exact fun passed bare => evidence ⟨rfl, passed, bare⟩

theorem settled_of_facts {row : Json} (facts : RowFacts row)
    (favourable : ¬ Unfavourable (rowStatus row)) : Settled row := by
  have status := facts.status
  simp only [requirementStatuses, List.mem_cons, List.not_mem_nil, or_false] at status
  rcases status with passed | failed | blocked | waived | inapplicable
  · exact Or.inr (Or.inr ⟨passed, facts.evidence passed⟩)
  · exact absurd (Or.inl failed) favourable
  · exact absurd (Or.inr blocked) favourable
  · exact Or.inl waived
  · exact Or.inr (Or.inl inapplicable)

/-- The rows of a completed result with a passed verdict. -/
theorem validateCompleted_rows {result : VerificationResult} {requireReworkItems : Bool}
    (valid : validateCompleted result true requireReworkItems = .ok ())
    (passed : result.textAt "verdict" = "passed") :
    ∀ row ∈ rowsOf result, RowFacts row ∧ ¬ Unfavourable (rowStatus row) := by
  obtain ⟨_, valid⟩ := of_refuse valid
  obtain ⟨_, _, valid⟩ := bind_eq_ok valid
  obtain ⟨_, valid⟩ := of_refuse valid
  obtain ⟨_, each, valid⟩ := bind_eq_ok valid
  obtain ⟨favourable, _⟩ := of_refuse valid
  intro row member
  obtain ⟨index, here⟩ := List.getElem?_of_mem member
  have own := Fallible.forM_ok_iff.mp each (row, index) (List.mem_zipIdx_iff_getElem?.mpr here)
  refine ⟨validateRow_facts own, ?_⟩
  have status : rowStatus row ∈ (rowsOf result).map rowStatus := List.mem_map_of_mem member
  rintro (failed | blocked)
  · exact favourable ⟨passed, Or.inl (failed ▸ status)⟩
  · exact favourable ⟨passed, Or.inr (blocked ▸ status)⟩

theorem validateVerificationResult_passed {result : VerificationResult}
    {requireReworkItems : Bool}
    (valid : validateVerificationResult result true requireReworkItems = .ok ())
    (passed : result.textAt "verdict" = "passed") :
    result.textAt "execution_status" = "completed" ∧
      validateCompleted result true requireReworkItems = .ok () := by
  obtain ⟨_, valid⟩ := of_refuse valid
  obtain ⟨_, valid⟩ := of_refuse valid
  obtain ⟨status, valid⟩ := of_refuse valid
  have either := not_not.mp status
  simp only [executionStatuses, List.mem_cons, List.not_mem_nil, or_false] at either
  rcases either with completed | failed
  · rw [if_neg (by rw [completed]; decide)] at valid
    exact ⟨completed, valid⟩
  · rw [if_pos failed] at valid
    have abstained := refuse_eq_ok_iff.mp valid
    rw [passed] at abstained
    exact absurd (by decide) abstained

/-- The ids that the contract gives its criteria. -/
def contractIds (contract : Json) : List String := (knownIds contract).filter (· ≠ "")

theorem sortedSet_eq_nil {items : List String} (none : Sorting.sortedSet items = []) :
    ∀ item, item ∉ items := by
  intro item member
  have sorted := (Sorting.mem_sortedSet items item).mpr member
  rw [none] at sorted
  cases sorted

theorem coverage_rows {result : VerificationResult} {contract : Json}
    (covered : validateRequirementCoverage result contract = .ok ())
    (completed : result.textAt "execution_status" = "completed")
    (rows : ∀ row ∈ rowsOf result, RowFacts row) :
    (∀ id ∈ mandatoryIds contract, ((rowsOf result).map acceptanceId).count id = 1) ∧
      ∀ row ∈ rowsOf result, acceptanceId row ∈ contractIds contract := by
  rw [validateRequirementCoverage, if_neg (by rw [completed]; decide)] at covered
  obtain ⟨distinct, covered⟩ := of_refuse covered
  obtain ⟨complete, covered⟩ := of_refuse covered
  have known := refuse_eq_ok_iff.mp covered
  have objects : (rowsOf result).filter Json.isObject = rowsOf result :=
    List.filter_eq_self.mpr fun row member => (rows row member).isObject
  rw [objects] at distinct complete known
  constructor
  · intro id mandatory
    have named : id ≠ "" := by simpa using (List.mem_filter.mp mandatory).2
    have present : id ∈ (rowsOf result).map acceptanceId := by
      by_contra absent
      exact sortedSet_eq_nil (not_not.mp complete) id
        (List.mem_filter.mpr ⟨mandatory, by simpa using absent⟩)
    have once : ¬ 1 < ((rowsOf result).map acceptanceId).count id := fun twice =>
      sortedSet_eq_nil (not_not.mp distinct) id
        (List.mem_filter.mpr ⟨present, by simpa [named] using twice⟩)
    have some := List.count_pos_iff.mpr present
    omega
  · intro row member
    have listed : acceptanceId row ∈ (rowsOf result).map acceptanceId :=
      List.mem_map_of_mem member
    refine List.mem_filter.mpr ⟨?_, by simpa using (rows row member).named⟩
    by_contra unknown
    exact sortedSet_eq_nil (not_not.mp known) _
      (List.mem_filter.mpr ⟨listed, by simpa using unknown⟩)

/-- What a passed verdict is to stand for. -/
structure PassSound (contract : Json) (result : VerificationResult) : Prop where
  completed : result.textAt "execution_status" = "completed"
  mandatory : ∀ id ∈ mandatoryIds contract, ((rowsOf result).map acceptanceId).count id = 1
  known : ∀ row ∈ rowsOf result, acceptanceId row ∈ contractIds contract
  settled : ∀ row ∈ rowsOf result, Settled row
  probes : ∀ probe ∈ probesOf result, ¬ Unfavourable (probeStatus probe)

/-- Everything but the receipts is checked before a passed verdict is returned. -/
theorem normalize_passed {lower : String → String} {payload contract target : Json}
    {defaultOwner defaultTier : String} {requireReworkItems : Bool}
    {result : VerificationResult}
    (returned : normalizeVerificationResult lower payload contract target defaultOwner
      defaultTier true requireReworkItems = .ok result)
    (passed : result.textAt "verdict" = "passed") :
    result.textAt "execution_status" = "completed" ∧
      (∀ id ∈ mandatoryIds contract, ((rowsOf result).map acceptanceId).count id = 1) ∧
      (∀ row ∈ rowsOf result, acceptanceId row ∈ contractIds contract) ∧
      ∀ row ∈ rowsOf result, Settled row := by
  obtain ⟨items, _, returned⟩ := bind_eq_ok returned
  obtain ⟨_, covered, returned⟩ := bind_eq_ok returned
  obtain ⟨_, valid, returned⟩ := bind_eq_ok returned
  obtain rfl := Except.ok.inj returned
  obtain ⟨completed, valid⟩ := validateVerificationResult_passed valid passed
  have rows := validateCompleted_rows valid passed
  obtain ⟨mandatory, known⟩ :=
    coverage_rows covered completed fun row member => (rows row member).1
  exact ⟨completed, mandatory, known, fun row member =>
    settled_of_facts (rows row member).1 (rows row member).2⟩

def sampleContract : Json :=
  .obj [("workflow_run_id", .str "run"), ("task_id", .str "task"),
    ("contract_revision", .str "1"), ("task_map_generation", .str "1"),
    ("base_commit", .str "base"), ("task_ref", .str "ref"),
    ("acceptance_criteria", .arr [.obj [("acceptance_id", .str "A1")],
      .obj [("acceptance_id", .str "A2"), ("mandatory", .bool false)]])]

def sampleTarget : Json := .obj (targetKeys.map fun key => (key, .str "sealed"))

/-- One requirement in the legacy spelling, and a probe with a given status. -/
def sampleReport (status : String) : Json :=
  .obj [("verification_result", .obj [
    ("execution_status", .str "completed"), ("verdict", .str "passed"),
    ("probe_receipts", .arr [.obj [("probe_id", .str "P1"), ("status", .str status),
      ("evidence_refs", .str "log")]]),
    ("requirement_results", .arr [.obj [("id", .str "A1"), ("verdict", .str "approve"),
      ("evidence_refs", .arr [.str "log"])]])])]

theorem sample_passed (status : String) (known : status = "passed" ∨ status = "failed") :
    ∃ result, normalizeVerificationResult PyString.lowerAscii (sampleReport status)
      sampleContract sampleTarget "task_verify" "runtime" true false = .ok result ∧
      result.textAt "verdict" = "passed" := by
  refine Fallible.ok_of_toOption_map ?_
  rcases known with rfl | rfl <;> decide +kernel

theorem sample_report_checked :
    ∃ result, normalizeVerificationResult PyString.lowerAscii (sampleReport "passed")
      sampleContract sampleTarget "task_verify" "runtime" true false = .ok result ∧
      result.textAt "execution_status" = "completed" ∧
      (∀ id ∈ mandatoryIds sampleContract, ((rowsOf result).map acceptanceId).count id = 1) ∧
      (∀ row ∈ rowsOf result, acceptanceId row ∈ contractIds sampleContract) ∧
      ∀ row ∈ rowsOf result, Settled row := by
  obtain ⟨result, returned, passed⟩ := sample_passed "passed" (Or.inl rfl)
  exact ⟨result, returned, normalize_passed returned passed⟩

/-- A failed probe stands beside the passed verdict. -/
theorem failed_probe_admitted :
    ¬ ∀ result, normalizeVerificationResult PyString.lowerAscii (sampleReport "failed")
      sampleContract sampleTarget "task_verify" "runtime" true false = .ok result →
      result.textAt "verdict" = "passed" → PassSound sampleContract result := by
  intro sound
  have probes : (normalizeVerificationResult PyString.lowerAscii (sampleReport "failed")
      sampleContract sampleTarget "task_verify" "runtime" true false).toOption.map
        (fun result => (result.textAt "verdict", (probesOf result).map probeStatus)) =
          some ("passed", ["failed"]) := by
    decide +kernel
  obtain ⟨result, returned, same⟩ := Fallible.ok_of_toOption_map probes
  obtain ⟨passed, statuses⟩ := Prod.mk.inj same
  have listed : "failed" ∈ (probesOf result).map probeStatus := by
    rw [statuses]
    exact List.mem_singleton_self _
  obtain ⟨probe, member, failed⟩ := List.mem_map.mp listed
  exact (sound result returned passed).probes probe member (Or.inl failed)

end ZaofuFormal.Verification
