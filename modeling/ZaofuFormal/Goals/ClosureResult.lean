import ZaofuFormal.Foundation.Fallible
import ZaofuFormal.Foundation.Sorting
import ZaofuFormal.Goals.Waivers

/-!
# Goal closure results

A judge closes a goal by a result that covers every claim of the pinned claim
set.  Three functions read the same coverage rows: `validateGoalClosureResult`
compares the trimmed and lowered status, `claimSetIssues` and `waiverIssues` the
status as it is written.
-/

namespace ZaofuFormal.Goals

open Foundation Workflow

/-- `_strings(value)`: the distinct non-blank texts of a list or of one value. -/
def strings (value : Json) : List String :=
  let values :=
    match value with
    | .arr items => items
    | value => if value.truthy then [value] else []
  ((values.map fun item => PyString.strip item.pyStr).filter fun text => decide (text ≠ "")).eraseDups

/-- The first of a list of checks that fails decides. -/
def firstFailure : List (Option String) → Except String Unit
  | [] => .ok ()
  | none :: rest => firstFailure rest
  | some message :: _ => .error message

theorem firstFailure_ok_iff (checks : List (Option String)) :
    firstFailure checks = .ok () ↔ ∀ check ∈ checks, check = none := by
  induction checks with
  | nil => simp [firstFailure]
  | cons check rest ih =>
      cases check with
      | none => simp [firstFailure, ih]
      | some message => simp [firstFailure]

def failWhen (failed : Bool) (message : String) : Option String :=
  if failed then some message else none

@[simp] theorem failWhen_eq_none (failed : Bool) (message : String) :
    failWhen failed message = none ↔ failed = false := by
  cases failed <;> simp [failWhen]

def requiredFields : List String :=
  ["workflow_run_id", "goal_id", "flow_kind", "task_map_generation", "target_commit",
    "objective_ref", "goal_claim_set_ref", "goal_claim_set_digest", "planning_result_ref",
    "candidate_ref", "closure_fact_ref", "closure_fact_digest", "verdict", "summary"]

def productIdentity : List String :=
  ["product_acceptance_spec_ref", "product_acceptance_spec_digest",
    "product_acceptance_report_ref", "product_acceptance_report_digest",
    "product_acceptance_verdict", "provider_qualification_status"]

def blankFields (result : Json) (fields : List String) : List String :=
  fields.filter fun field => decide (strippedAt result field = "")

def commaSeparated (texts : List String) : String := String.intercalate ", " texts

def productIdentityCheck (result : Json) : Option String :=
  let missing := blankFields result productIdentity
  if (result.get "product_acceptance_required").truthy then
    failWhen (!missing.isEmpty)
      ("goal closure result missing Product Acceptance identity: " ++ commaSeparated missing)
  else
    failWhen (missing.length ≠ productIdentity.length && !missing.isEmpty)
      "partial Product Acceptance identity is not allowed"

def verdictOf (result : Json) : String := PyString.lowerWord (result.textAt "verdict")

/-- The rows of the coverage, when it is a list. -/
def coverageRows (result : Json) : List Json :=
  match result.get "goal_coverage" with
  | .arr rows => rows
  | _ => []

def rowClaimId (row : Json) : String := strippedAt row "goal_claim_id"

/-- The status of a row as the validation reads it. -/
def rowStatus (row : Json) : String := PyString.lowerWord (strippedAt row "status")

def rowRefs (row : Json) : List String := strings (row.get "supporting_result_refs")

def rowWaiverRef (row : Json) : String := strippedAt row "waiver_ref"

def claimStatuses : List String := ["closed", "open", "blocked", "waived"]

def rowLabel (index : Nat) : String := "goal_coverage[" ++ toString index ++ "]"

/-- The checks of one coverage row, in order. -/
def rowChecks (seen : List String) (index : Nat) (row : Json) : List (Option String) :=
  [failWhen (!row.isObject) (rowLabel index ++ " must be an object"),
    failWhen (decide (rowClaimId row = "")) (rowLabel index ++ " missing goal_claim_id"),
    failWhen (decide (rowClaimId row ∈ seen))
      ("duplicate goal claim " ++ Json.reprString (rowClaimId row)),
    failWhen (decide (rowStatus row ∉ claimStatuses))
      (rowLabel index ++ " has invalid status " ++ Json.reprString (rowStatus row)),
    failWhen (decide (rowStatus row = "closed") && (rowRefs row).isEmpty)
      (rowLabel index ++ " closed without supporting_result_refs"),
    failWhen (decide (rowStatus row = "waived") && decide (rowWaiverRef row = ""))
      (rowLabel index ++ " waived without waiver_ref")]

def coverageChecks (seen : List String) : Nat → List Json → List (Option String)
  | _, [] => []
  | index, row :: rest =>
      rowChecks seen index row ++ coverageChecks (rowClaimId row :: seen) (index + 1) rest

def allowedActions (verdict : String) : List String :=
  if verdict = "passed" then ["complete"]
  else if verdict = "rejected" then ["gap_plan", "replan", "candidate_verify"]
  else ["human", "hold"]

/-- The checks before the coverage rows. -/
def identityChecks (result : Json) : List (Option String) :=
  let missing := blankFields result requiredFields
  let flowKind := PyString.lowerWord (result.textAt "flow_kind")
  let verdict := verdictOf result
  [failWhen (decide (result.textAt "schema_version" ≠ "goal-closure-result.v1"))
      "unsupported goal closure result schema",
    failWhen (!missing.isEmpty) ("goal closure result missing: " ++ commaSeparated missing),
    productIdentityCheck result,
    failWhen (decide (flowKind ∉ ["issue", "prd", "refactor"]))
      ("invalid flow_kind " ++ Json.reprString flowKind),
    failWhen (decide (verdict ∉ ["passed", "rejected", "blocked"]))
      ("invalid verdict " ++ Json.reprString verdict),
    failWhen ((result.get "product_acceptance_required").truthy && decide (verdict = "passed") &&
        decide (result.textAt "product_acceptance_verdict" ≠ "passed"))
      "passed Goal closure requires passed Product Acceptance",
    failWhen (coverageRows result).isEmpty "goal_coverage must be a non-empty list"]

/-- The checks after the coverage rows. -/
def verdictChecks (result : Json) : List (Option String) :=
  let verdict := verdictOf result
  let rows := coverageRows result
  let gaps := strings (result.get "open_gap_refs")
  let action := PyString.lowerWord (strippedAt result "recommended_action")
  [failWhen (strings (result.get "input_result_refs")).isEmpty
      "input_result_refs must reference admitted results",
    failWhen (decide (verdict = "passed") &&
        !rows.all fun row => decide (rowStatus row ∈ ["closed", "waived"]))
      "passed verdict contains open or blocked claims",
    failWhen (decide (verdict = "passed") && !gaps.isEmpty)
      "passed verdict cannot contain open_gap_refs",
    failWhen (decide (verdict = "rejected") && gaps.isEmpty)
      "rejected verdict requires open_gap_refs",
    failWhen (decide (verdict = "rejected") && !rows.any fun row => decide (rowStatus row ∈ ["open", "blocked"]))
      "rejected verdict requires an open claim",
    failWhen (decide (action ∉ allowedActions verdict))
      ("recommended_action " ++ Json.reprString action ++ " is invalid for " ++ verdict)]

def validateGoalClosureResult (result : Json) : Except String Unit :=
  firstFailure
    (identityChecks result ++ coverageChecks [] 0 (coverageRows result) ++ verdictChecks result)

structure Issue where
  field : String
  code : String
  message : String
  deriving DecidableEq

/-- The claims of a claim set. -/
def claimItems (claimSet : Json) : List Json :=
  match claimSet.get "claims" with
  | .arr items => items.filter Json.isObject
  | _ => []

/-- `bool(item.get("mandatory", True))`. -/
def mandatory (item : Json) : Bool :=
  match Dict.find "mandatory" item.fields with
  | none => true
  | some value => value.truthy

def knownClaims (claimSet : Json) : List String :=
  ((claimItems claimSet).map rowClaimId).filter fun id => decide (id ≠ "")

def expectedClaims (claimSet : Json) : List String :=
  (((claimItems claimSet).filter mandatory).map rowClaimId).filter fun id => decide (id ≠ "")

/-- The claim ids that the coverage names, with repetitions. -/
def actualClaims (result : Json) : List String :=
  ((coverageRows result).filter Json.isObject).map rowClaimId

def coverageIssue (code value : String) : Issue := ⟨"goal_coverage", code, value⟩

/-- The supporting results of rows that are written as `closed`. -/
def unadmittedIssues (admitted : List String) (result : Json) : List Issue :=
  (coverageRows result).zipIdx.flatMap fun (row, index) =>
    if !row.isObject || decide (row.textAt "status" ≠ "closed") then []
    else
      ((rowRefs row).filter fun ref => decide (ref ∉ admitted)).map fun ref =>
        ⟨rowLabel index ++ ".supporting_result_refs", "result_not_admitted", ref⟩

def claimSetIssues (result claimSet : Json) (admittedResultRefs : Option (List String))
    (claimSetDescriptorDigest : String) : List Issue :=
  let actual := actualClaims result
  let missing := Sorting.sortedSet ((expectedClaims claimSet).filter fun id => decide (id ∉ actual))
  let unknown := Sorting.sortedSet (actual.filter fun id => decide (id ∉ knownClaims claimSet))
  let duplicates := Sorting.sortedSet
    (actual.filter fun id => decide (1 < actual.count id ∧ id ≠ ""))
  let expectedDigest := firstText [claimSetDescriptorDigest, claimSet.textAt "claim_set_digest"]
  let resultDigest := result.textAt "goal_claim_set_digest"
  missing.map (coverageIssue "missing_claim") ++ unknown.map (coverageIssue "unknown_claim") ++
    duplicates.map (coverageIssue "duplicate_claim") ++
    (if expectedDigest ≠ "" ∧ resultDigest ≠ expectedDigest then
      [⟨"goal_claim_set_digest", "identity_mismatch",
        "expected " ++ expectedDigest ++ ", got " ++ resultDigest⟩]
    else []) ++
    (admittedResultRefs.map fun admitted => unadmittedIssues admitted result).getD []

/-- The refs of the waivers that are active for the claim of a row or for the goal. -/
def activeRefs (events : Log) (result row : Json) : Option (List String) :=
  let scopes := [rowClaimId row, result.textAt "goal_id"].eraseDups.filter fun scope =>
    decide (scope ≠ "")
  (scopes.mapM (activeWaivers events)).map fun active => active.flatten.flatMap Waiver.refs

/-- The waiver check of one row, for rows that are written as `waived`. -/
def rowWaiverIssues (events : Log) (result : Json) (entry : Json × Nat) : Option (List Issue) :=
  if !entry.1.isObject || decide (entry.1.textAt "status" ≠ "waived") then some []
  else
    (activeRefs events result entry.1).map fun refs =>
      if rowWaiverRef entry.1 ∈ refs then []
      else [⟨"control_result." ++ rowLabel entry.2 ++ ".waiver_ref", "waiver_not_active",
        rowWaiverRef entry.1⟩]

/-- The waiver check of `_goal_closure_issues`. -/
def waiverIssues (events : Log) (result : Json) : Option (List Issue) :=
  ((coverageRows result).zipIdx.mapM (rowWaiverIssues events result)).map List.flatten

/-- A coverage that the validation lets pass with the verdict `passed`. -/
structure Covered (rows : List Json) : Prop where
  object : ∀ row ∈ rows, row.isObject = true
  distinct : (rows.map rowClaimId).Nodup
  named : ∀ row ∈ rows, rowClaimId row ≠ ""
  settled : ∀ row ∈ rows, rowStatus row = "closed" ∨ rowStatus row = "waived"
  supported : ∀ row ∈ rows, rowStatus row = "closed" → rowRefs row ≠ []

theorem coverageChecks_pass {seen : List String} {index : Nat} {rows : List Json}
    (pass : ∀ check ∈ coverageChecks seen index rows, check = none) :
    (∀ row ∈ rows, row.isObject = true ∧ rowClaimId row ≠ "" ∧ rowClaimId row ∉ seen ∧
      (rowStatus row = "closed" → rowRefs row ≠ [])) ∧ (rows.map rowClaimId).Nodup := by
  induction rows generalizing seen index with
  | nil => simp
  | cons row rest ih =>
      have here : ∀ check ∈ rowChecks seen index row, check = none := fun check member =>
        pass check (List.mem_append_left _ member)
      obtain ⟨later, distinct⟩ := ih fun check member => pass check (List.mem_append_right _ member)
      simp only [rowChecks, List.forall_mem_cons, failWhen_eq_none, Bool.not_eq_false',
        decide_eq_false_iff_not, Bool.and_eq_false_imp, decide_eq_true_eq] at here
      obtain ⟨object, named, fresh, _, supported, _⟩ := here
      refine ⟨?_, ?_⟩
      · intro other member
        rcases List.mem_cons.mp member with rfl | inside
        · exact ⟨object, named, fresh, fun closed => by simpa using supported closed⟩
        · obtain ⟨object, named, unseen, supported⟩ := later other inside
          exact ⟨object, named, fun member => unseen (List.mem_cons_of_mem _ member), supported⟩
      · rw [List.map_cons, List.nodup_cons]
        refine ⟨fun repeated => ?_, distinct⟩
        obtain ⟨other, inside, same⟩ := List.mem_map.mp repeated
        refine (later other inside).2.2.1 ?_
        rw [same]
        exact List.mem_cons_self

theorem covered_of_valid {result : Json} (valid : validateGoalClosureResult result = .ok ())
    (passed : verdictOf result = "passed") : Covered (coverageRows result) := by
  have checks := (firstFailure_ok_iff _).mp valid
  rw [List.forall_mem_append, List.forall_mem_append] at checks
  obtain ⟨⟨_, rowsPass⟩, last⟩ := checks
  obtain ⟨rows, distinct⟩ := coverageChecks_pass rowsPass
  have settled : ∀ row ∈ coverageRows result, rowStatus row = "closed" ∨ rowStatus row = "waived" := by
    simp only [verdictChecks, List.forall_mem_cons, failWhen_eq_none, passed, decide_true,
      Bool.true_and, Bool.not_eq_false', List.all_eq_true, decide_eq_true_eq] at last
    intro row member
    simpa using last.2.1 row member
  exact ⟨fun row member => (rows row member).1, distinct, fun row member => (rows row member).2.1,
    settled, fun row member => (rows row member).2.2.2⟩

/-- A waiver of the claim or of the goal is active and has the ref of the row. -/
def WaiverActive (events : Log) (result row : Json) : Prop :=
  ∃ scope ∈ [rowClaimId row, result.textAt "goal_id"], scope ≠ "" ∧
    ∃ waivers, activeWaivers events scope = some waivers ∧
      ∃ waiver ∈ waivers, rowWaiverRef row ∈ waiver.refs

theorem mem_activeRefs {events : Log} {result row : Json} {refs : List String}
    (active : activeRefs events result row = some refs) (listed : rowWaiverRef row ∈ refs) :
    WaiverActive events result row := by
  unfold activeRefs at active
  obtain ⟨groups, collected, rfl⟩ := Option.map_eq_some_iff.mp active
  obtain ⟨waiver, member, cited⟩ := List.mem_flatMap.mp listed
  obtain ⟨waivers, group, inside⟩ := List.mem_flatten.mp member
  obtain ⟨scope, chosen, found⟩ := Fallible.mem_of_mapM_eq_some collected group
  obtain ⟨listed, named⟩ := List.mem_filter.mp chosen
  exact ⟨scope, List.mem_eraseDups.mp listed, of_decide_eq_true named, waivers, found, waiver,
    inside, cited⟩

/-- The results of a closed row and the waiver of a waived row are in force. -/
def Settles (admitted : List String) (events : Log) (result row : Json) : Prop :=
  (rowStatus row = "closed" ∧ rowRefs row ≠ [] ∧ ∀ ref ∈ rowRefs row, ref ∈ admitted) ∨
    (rowStatus row = "waived" ∧ WaiverActive events result row)

/-- A passed result that none of the three functions objects to. -/
structure Accepted (admitted : List String) (digest : String) (events : Log)
    (result claimSet : Json) : Prop where
  valid : validateGoalClosureResult result = .ok ()
  passed : verdictOf result = "passed"
  claims : claimSetIssues result claimSet (some admitted) digest = []
  waivers : waiverIssues events result = some []

section Acceptance

variable {admitted : List String} {digest : String} {events : Log} {result claimSet : Json}

theorem exists_zipIdx {rows : List Json} {row : Json} (member : row ∈ rows) :
    ∃ index, (row, index) ∈ rows.zipIdx := by
  obtain ⟨index, inside, same⟩ := List.getElem_of_mem member
  refine ⟨index, List.mem_zipIdx_iff_getElem?.mpr ?_⟩
  rw [← same]
  exact List.getElem?_eq_getElem inside

theorem Accepted.issues (accepted : Accepted admitted digest events result claimSet) :
    (∀ id ∈ expectedClaims claimSet, id ∈ actualClaims result) ∧
      unadmittedIssues admitted result = [] := by
  have none := accepted.claims
  simp only [claimSetIssues, List.append_eq_nil_iff, List.map_eq_nil_iff, Option.map_some,
    Option.getD_some] at none
  obtain ⟨⟨⟨⟨missing, _⟩, _⟩, _⟩, unadmitted⟩ := none
  refine ⟨fun id expected => ?_, unadmitted⟩
  by_contra absent
  have listed : id ∈ Sorting.sortedSet ((expectedClaims claimSet).filter fun id =>
      decide (id ∉ actualClaims result)) := by
    rw [Sorting.mem_sortedSet, List.mem_filter]
    exact ⟨expected, decide_eq_true absent⟩
  rw [missing] at listed
  exact absurd listed List.not_mem_nil

/-- The refs of a row that is written as `closed` have been looked up. -/
theorem Accepted.refs_admitted (accepted : Accepted admitted digest events result claimSet)
    {row : Json} (member : row ∈ coverageRows result) (object : row.isObject = true)
    (written : row.textAt "status" = "closed") : ∀ ref ∈ rowRefs row, ref ∈ admitted := by
  intro ref cited
  by_contra unknown
  obtain ⟨index, inside⟩ := exists_zipIdx member
  have none := List.flatMap_eq_nil_iff.mp accepted.issues.2 (row, index) inside
  simp only [object, written, Bool.not_true, Bool.false_or, ne_eq, not_true_eq_false,
    decide_false, Bool.false_eq_true, if_false, List.map_eq_nil_iff, List.filter_eq_nil_iff,
    decide_eq_true_eq, not_not] at none
  exact unknown (none ref cited)

/-- The waiver of a row that is written as `waived` has been looked up. -/
theorem Accepted.waiver_active (accepted : Accepted admitted digest events result claimSet)
    {row : Json} (member : row ∈ coverageRows result) (object : row.isObject = true)
    (written : row.textAt "status" = "waived") : WaiverActive events result row := by
  obtain ⟨groups, collected, empty⟩ := Option.map_eq_some_iff.mp accepted.waivers
  obtain ⟨index, inside⟩ := exists_zipIdx member
  obtain ⟨issues, listed, found⟩ := Fallible.exists_of_mapM_eq_some collected inside
  have none : issues = [] := List.flatten_eq_nil_iff.mp empty issues listed
  simp only [rowWaiverIssues, object, written, Bool.not_true, Bool.false_or, ne_eq,
    not_true_eq_false, decide_false, Bool.false_eq_true, if_false] at found
  obtain ⟨refs, active, outcome⟩ := Option.map_eq_some_iff.mp found
  rw [none] at outcome
  split at outcome
  case isTrue cited => exact mem_activeRefs active cited
  case isFalse => cases outcome

/-- The rows of an accepted result are settled, apart from those whose status is
`closed` or `waived` in another spelling. -/
theorem Accepted.settles_iff (accepted : Accepted admitted digest events result claimSet)
    {row : Json} (member : row ∈ coverageRows result) :
    Settles admitted events result row ↔
      (row.textAt "status" ≠ "closed" → rowStatus row = "closed" →
        ∀ ref ∈ rowRefs row, ref ∈ admitted) ∧
      (row.textAt "status" ≠ "waived" → rowStatus row = "waived" →
        WaiverActive events result row) := by
  have covered := covered_of_valid accepted.valid accepted.passed
  have object := covered.object row member
  constructor
  · rintro (⟨closed, _, listed⟩ | ⟨waived, active⟩)
    · refine ⟨fun _ _ => listed, fun _ waived => ?_⟩
      rw [closed] at waived
      exact absurd waived (by decide)
    · refine ⟨fun _ closed => ?_, fun _ _ => active⟩
      rw [waived] at closed
      exact absurd closed (by decide)
  · rintro ⟨otherClosed, otherWaived⟩
    rcases covered.settled row member with closed | waived
    · refine .inl ⟨closed, covered.supported row member closed, ?_⟩
      by_cases written : row.textAt "status" = "closed"
      · exact accepted.refs_admitted member object written
      · exact otherClosed written closed
    · refine .inr ⟨waived, ?_⟩
      by_cases written : row.textAt "status" = "waived"
      · exact accepted.waiver_active member object written
      · exact otherWaived written waived

/-- The mandatory claims of an accepted result are covered once and settled exactly if
each of them has an id, and those of their rows that spell `closed` or `waived` in
another way satisfy what was not looked up for them. -/
theorem goal_closure_sound_iff (accepted : Accepted admitted digest events result claimSet) :
    (∀ item ∈ claimItems claimSet, mandatory item = true →
      (actualClaims result).count (rowClaimId item) = 1 ∧
      ∃ row ∈ coverageRows result, rowClaimId row = rowClaimId item ∧
        Settles admitted events result row) ↔
    ∀ item ∈ claimItems claimSet, mandatory item = true → rowClaimId item ≠ "" ∧
      ∀ row ∈ coverageRows result, rowClaimId row = rowClaimId item →
        (row.textAt "status" ≠ "closed" → rowStatus row = "closed" →
          ∀ ref ∈ rowRefs row, ref ∈ admitted) ∧
        (row.textAt "status" ≠ "waived" → rowStatus row = "waived" →
          WaiverActive events result row) := by
  have covered := covered_of_valid accepted.valid accepted.passed
  have actual : actualClaims result = (coverageRows result).map rowClaimId := by
    rw [actualClaims, List.filter_eq_self.mpr covered.object]
  refine forall₃_congr fun item listed required => ?_
  constructor
  · rintro ⟨_, row, member, same, settles⟩
    refine ⟨same ▸ covered.named row member, fun other inside sameId => ?_⟩
    obtain rfl : row = other :=
      List.inj_on_of_nodup_map covered.distinct member inside (same.trans sameId.symm)
    exact (accepted.settles_iff member).mp settles
  · rintro ⟨named, rows⟩
    have expected : rowClaimId item ∈ expectedClaims claimSet := by
      rw [expectedClaims, List.mem_filter, List.mem_map]
      exact ⟨⟨item, List.mem_filter.mpr ⟨listed, required⟩, rfl⟩, decide_eq_true named⟩
    have present := accepted.issues.1 _ expected
    rw [actual] at present ⊢
    refine ⟨List.count_eq_one_of_mem covered.distinct present, ?_⟩
    obtain ⟨row, member, same⟩ := List.mem_map.mp present
    exact ⟨row, member, same, (accepted.settles_iff member).mpr (rows row member same)⟩

end Acceptance

def sampleClaim : Json :=
  .obj [("goal_claim_id", .str "GOAL-ROOT"), ("text", .str "Ship it"), ("mandatory", .bool true)]

def sampleClaimSet : Json := .obj [("claims", .arr [sampleClaim])]

def sampleRow (status : String) : Json :=
  .obj [("goal_claim_id", .str "GOAL-ROOT"), ("status", .str status),
    ("supporting_result_refs", .arr [.str "results/verify.json"])]

def sampleResult (status : String) : Json :=
  .obj ([("schema_version", .str "goal-closure-result.v1"), ("flow_kind", .str "prd"),
      ("verdict", .str "passed"), ("recommended_action", .str "complete"),
      ("input_result_refs", .arr [.str "results/verify.json"]),
      ("goal_coverage", .arr [sampleRow status])] ++
    ["workflow_run_id", "goal_id", "task_map_generation", "target_commit", "objective_ref",
      "goal_claim_set_ref", "goal_claim_set_digest", "planning_result_ref", "candidate_ref",
      "closure_fact_ref", "closure_fact_digest", "summary"].map fun field => (field, .str field))

theorem coverageRows_sampleResult (status : String) :
    coverageRows (sampleResult status) = [sampleRow status] := rfl

theorem claimItems_sampleClaimSet : claimItems sampleClaimSet = [sampleClaim] := by decide +kernel

theorem sampleClaim_id : rowClaimId sampleClaim = "GOAL-ROOT" := by decide +kernel

/-- The claim is closed by an admitted result. -/
theorem sampleResult_sound :
    (actualClaims (sampleResult "closed")).count "GOAL-ROOT" = 1 ∧
      ∃ row ∈ coverageRows (sampleResult "closed"), rowClaimId row = "GOAL-ROOT" ∧
        Settles ["results/verify.json"] [] (sampleResult "closed") row := by
  have accepted : Accepted ["results/verify.json"] "" [] (sampleResult "closed")
      sampleClaimSet :=
    ⟨(firstFailure_ok_iff _).mpr (by decide +kernel), by decide +kernel, by decide +kernel,
      by decide +kernel⟩
  have sound := goal_closure_sound_iff accepted
  rw [claimItems_sampleClaimSet] at sound
  rw [← sampleClaim_id]
  refine sound.mpr (fun item listed _ => ?_) sampleClaim List.mem_cons_self (by decide +kernel)
  obtain rfl := List.mem_singleton.mp listed
  refine ⟨by decide +kernel, fun row member _ => ?_⟩
  rw [coverageRows_sampleResult, List.mem_singleton] at member
  subst member
  exact ⟨fun other => absurd (by decide +kernel) other,
    fun _ waived => absurd waived (by decide +kernel)⟩

/-- `Closed` passes the validation, and nobody looks up the result it cites. -/
theorem capital_closed_unadmitted :
    Accepted [] "" [] (sampleResult "Closed") sampleClaimSet ∧
      ¬ ∀ item ∈ claimItems sampleClaimSet, mandatory item = true →
        (actualClaims (sampleResult "Closed")).count (rowClaimId item) = 1 ∧
        ∃ row ∈ coverageRows (sampleResult "Closed"), rowClaimId row = rowClaimId item ∧
          Settles [] [] (sampleResult "Closed") row := by
  refine ⟨⟨(firstFailure_ok_iff _).mpr (by decide +kernel), by decide +kernel, by decide +kernel,
    by decide +kernel⟩, fun sound => ?_⟩
  rw [claimItems_sampleClaimSet] at sound
  obtain ⟨_, row, member, _, settles⟩ := sound sampleClaim List.mem_cons_self (by decide +kernel)
  rw [coverageRows_sampleResult, List.mem_singleton] at member
  subst member
  rcases settles with ⟨_, _, listed⟩ | ⟨waived, _⟩
  · exact List.not_mem_nil (listed "results/verify.json" (by decide +kernel))
  · exact absurd waived (by decide +kernel)

end ZaofuFormal.Goals
