import ZaofuFormal.Foundation.Digest
import ZaofuFormal.Foundation.Fallible
import ZaofuFormal.Foundation.JsonOrder
import ZaofuFormal.Foundation.Runs

/-!
# Sealed evaluators

The authority writes the hidden cases of a generation to one file, named by their
digest, in a directory named after the generation id with every unusual character
replaced.  An evaluation reads the only file of the directory that the handle
leads to, whatever id the file names, and stamps the result with the generation
digest that its caller passes.
-/

namespace ZaofuFormal.Evolution.SealedEvaluator

open Foundation
open Fallible (refuse)

/-- What the authority takes from its surroundings: `isalnum`, the hexadecimal SHA-256 of a
text, `float(value)` with its text when the value is no truth value and the float is finite,
and the floats of the JSON reader. -/
structure Env where
  isAlnum : Char → Bool
  sha256 : List Char → List Char
  finite : Json → Option (Rat × String)
  float : String → Json

section Contract

variable (env : Env)

abbrev Body := Dict String Json

/-- `body.get(key)`. -/
def field (body : Body) (key : String) : Json := (body.get? key).getD .null

def stableDigest (value : Json) : String :=
  String.ofList (env.sha256 (JsonText.dumps value ++ [Char.ofNat 10]))

def isHexDigit (char : Char) : Bool :=
  (decide ('0' ≤ char) && decide (char ≤ '9')) || (decide ('a' ≤ char) && decide (char ≤ 'f'))

def normalizeDigest (value : Json) (label : String) : Except String String :=
  let text := (PyString.stripChars value.text.toList).map Char.toLower
  let digits := if "sha256:".toList.isPrefixOf text then text.drop 7 else text
  if digits.length = 64 ∧ digits.all isHexDigit then .ok (String.ofList digits)
  else .error (label ++ " must be a sha256 digest")

def requiredText (body : Body) (key : String) : Except String Body :=
  let value := PyString.strip (field body key).text
  if value = "" then .error (key ++ " is required") else .ok (body.insert key (.str value))

def finiteValue (value : Json) (label : String) : Except String (Rat × String) :=
  match value with
  | .bool _ => .error (label ++ " must be a finite number")
  | value => Fallible.required (env.finite value) (label ++ " must be a finite number")

def normalizeDigests (body : Body) : List String → Except String Body
  | [] => .ok body
  | key :: rest => do
      let digest ← normalizeDigest (field body key) key
      normalizeDigests (body.insert key (.str digest)) rest

/-- `bool(item.get(key, default))`. -/
def flag (item : Json) (key : String) (fallback : Bool) : Bool :=
  ((Dict.find key item.fields).map Json.truthy).getD fallback

/-- The entries of a list of objects with ids. -/
def normalizeEntries (label : String) (normalize : String → Json → Except String Json) :
    List String → List Json → Except String (List Json)
  | _, [] => .ok []
  | seen, item :: rest => do
      refuse (item.isObject = false) (label ++ " entries must be objects")
      let id := PyString.strip (item.textAt "id")
      refuse (id = "" ∨ id ∈ seen) (label ++ " ids must be non-empty and unique")
      let entry ← normalize id item
      let others ← normalizeEntries label normalize (id :: seen) rest
      .ok (entry :: others)

def normalizeList (body : Body) (key : String) (normalize : String → Json → Except String Json) :
    Except String (List Json) :=
  match field body key with
  | .arr [] => .error (key ++ " must be a non-empty list")
  | .arr items => normalizeEntries key normalize [] items
  | _ => .error (key ++ " must be a non-empty list")

def normalizeGate (id : String) (item : Json) : Except String Json :=
  .ok (.obj [("id", .str id), ("blocking", .bool (flag item "blocking" true))])

def normalizeDimension (id : String) (item : Json) : Except String Json := do
  let weight ← finiteValue env (item.get "weight") ("dimension " ++ id ++ " weight")
  let lower ← finiteValue env (item.get "min") ("dimension " ++ id ++ " min")
  let upper ← finiteValue env (item.get "max") ("dimension " ++ id ++ " max")
  refuse (weight.1 ≤ 0 ∨ upper.1 ≤ lower.1)
    ("dimension " ++ id ++ " requires weight > 0 and min < max")
  .ok (.obj [("id", .str id), ("weight", .float weight.1 weight.2),
    ("min", .float lower.1 lower.2), ("max", .float upper.1 upper.2),
    ("higher_is_better", .bool (flag item "higher_is_better" true)),
    ("blocking_regression", .bool (flag item "blocking_regression" false))])

def defaultComparisonIdentityFields : List String :=
  ["scenario_set_digest", "config_generation", "provider_capability_digest", "toolchain_digest",
    "environment_digest", "sandbox_policy_digest", "network_policy_digest",
    "credential_policy_digest", "budget_digest", "seed_policy_digest", "task_family"]

def uniqueStrings (value : Json) (label : String) : Except String Json :=
  match value with
  | .arr items =>
      let out := items.map fun item : Json => PyString.strip item.text
      if "" ∈ out ∨ ¬out.Nodup then
        .error (label ++ " must contain unique non-empty strings")
      else .ok (.arr (out.map .str))
  | _ => .error (label ++ " must be a list")

def nonNegative (body : Body) (key : String) (fallback : Int) : Except String Body := do
  let value ← finiteValue env ((body.get? key).getD (.int fallback)) key
  refuse (value.1 < 0) (key ++ " must be >= 0")
  .ok (body.insert key (.float value.1 value.2))

def handleStem : String := "sealed-evaluator://generation/"

def validateEvaluatorGeneration (raw : Body) : Except String Body := do
  refuse ((field raw "schema_version").text ≠ "evaluator-generation.v1")
    "schema_version must be evaluator-generation.v1"
  let body ← requiredText raw "generation_id"
  let body ← normalizeDigests body
    ["parser_digest", "tcb_digest", "scenario_set_digest", "holdout_generation_digest"]
  let body ← requiredText body "holdout_authority_ref"
  refuse (PyString.startsWith (field body "holdout_authority_ref").text handleStem = false)
    "holdout_authority_ref must be an opaque sealed-evaluator handle"
  let gates ← normalizeList body "required_gates" normalizeGate
  let body := body.insert "required_gates" (.arr gates)
  let dimensions ← normalizeList body "required_score_dimensions" (normalizeDimension env)
  let body := body.insert "required_score_dimensions" (.arr dimensions)
  let identityFields :=
    if field body "comparison_identity_fields" = .null then
      .arr (defaultComparisonIdentityFields.map .str)
    else field body "comparison_identity_fields"
  let identityFields ← uniqueStrings identityFields "comparison_identity_fields"
  let body := body.insert "comparison_identity_fields" identityFields
  let minTrials ← Fallible.required ((body.get? "min_trials").getD (.int 1)).int?
    "min_trials must be an integer"
  refuse (minTrials < 1) "min_trials must be positive"
  let body := body.insert "min_trials" (.int minTrials)
  let body ← nonNegative env body "min_delta" 0
  let body ← nonNegative env body "max_spread" 100
  let weights := dimensions.map fun item : Json => (item.textAt "id", item.get "weight")
  let body := body.insert "weights_digest" (.str (stableDigest env (.obj weights)))
  .ok (body.insert "generation_digest"
    (.str (stableDigest env (.ofDict (body.erase "generation_digest")))))

def publicKeys : List String :=
  ["schema_version", "generation_id", "generation_digest", "required_gates",
    "required_score_dimensions", "comparison_identity_fields", "min_trials", "min_delta",
    "max_spread", "weights_digest", "parser_digest", "tcb_digest", "scenario_set_digest",
    "holdout_generation_digest", "holdout_authority_ref"]

def evaluatorPublicProjection (generation : Body) : Except String Body := do
  let normalized ← validateEvaluatorGeneration env generation
  .ok (.ofEntries (normalized.entries.filter fun entry => publicKeys.contains entry.1))

end Contract

def safeComponent (env : Env) (value : String) : Except String String :=
  let out := String.ofList (value.toList.map fun char =>
    if env.isAlnum char ∨ char ∈ ['-', '_', '.'] then char else '-')
  if out = "" ∨ out = "." ∨ out = ".." then .error "unsafe evaluator generation id" else .ok out

def generationIdFromHandle (handle : String) : Except String String :=
  if PyString.startsWith handle handleStem = false then .error "invalid sealed evaluator handle"
  else
    let value := PyString.strip (String.ofList (handle.toList.drop handleStem.length))
    if value = "" then .error "invalid sealed evaluator handle" else .ok value

/-- The arguments of one registration: the sealed cases are dictionaries that the JSON reader
reads back.  The path test and the write of the public sidecar are given by their outcomes. -/
structure Registration (float : String → Json) where
  rootInState : Bool
  publicSpec : Body
  sealedCases : List Json
  objects : ∀ case ∈ sealedCases, case.isObject = true
  plain : ∀ case ∈ sealedCases, JsonText.Plain float case
  sidecar : Except String Json

/-- The files of the generations by directory and name. -/
abbrev Files := Dict String (Dict String (List Char))

def Files.stored (files : Files) (component name : String) : Option (List Char) :=
  (files.get? component).bind fun directory => directory.get? name

def privateFields (generationId : String) (cases : List Json) : List (String × Json) :=
  [("schema_version", .str "sealed-evaluator-generation.v1"),
    ("generation_id", .str generationId), ("cases", .arr cases)]

def encoded (generationId : String) (cases : List Json) : List Char :=
  JsonText.dumps (.obj (privateFields generationId cases)) ++ [Char.ofNat 10]

/-- What a registration has computed when it comes to its directory. -/
structure Prepared where
  generationId : String
  generation : Body
  component : String
  name : String

section Operations

variable (env : Env)

def prepare (call : Registration env.float) : Except String Prepared := do
  refuse (call.rootInState = true)
    "sealed evaluator root must be outside the project state directory"
  refuse (call.sealedCases = []) "sealed evaluator requires at least one case"
  let generationId := PyString.strip (field call.publicSpec "generation_id").text
  refuse (generationId = "") "generation_id is required"
  let holdoutDigest := stableDigest env (.obj (privateFields generationId call.sealedCases))
  let generation ← validateEvaluatorGeneration env
    ((call.publicSpec.insert "holdout_authority_ref" (.str (handleStem ++ generationId))).insert
      "holdout_generation_digest" (.str holdoutDigest))
  let component ← safeComponent env generationId
  .ok ⟨generationId, generation, component, holdoutDigest ++ ".json"⟩

/-- What follows the write of the sealed file. -/
def publish (call : Registration env.float) (generation : Body) : Except String (Body × Json) := do
  let projection ← evaluatorPublicProjection env generation
  let descriptor ← call.sidecar
  .ok (projection, descriptor)

def registerGeneration (files : Files) (call : Registration env.float) :
    Except String (Body × Json) × Files :=
  match prepare env call with
  | .error message => (.error message, files)
  | .ok prepared =>
      let text := encoded prepared.generationId call.sealedCases
      match files.stored prepared.component prepared.name with
      | some present =>
          if present ≠ text then (.error "sealed evaluator digest collision", files)
          else (publish env call prepared.generation, files)
      | none =>
          let directory := (files.get? prepared.component).getD .empty
          (publish env call prepared.generation,
            files.insert prepared.component (directory.insert prepared.name text))

/-- `glob("*.json")` in a directory. -/
def jsonFiles (files : Files) (component : String) : List (String × List Char) :=
  ((files.get? component).getD .empty).entries.filter fun file =>
    ".json".toList.isSuffixOf file.1.toList

/-- The cases that an evaluation hands to the runner. -/
def sealedCases (token : String) (files : Files) (handle accessToken : String) :
    Except String (List Json) := do
  refuse (token ≠ accessToken) "sealed evaluator access denied"
  let generationId ← generationIdFromHandle handle
  let component ← safeComponent env generationId
  match jsonFiles files component with
  | [(_, text)] =>
      match (JsonText.loads env.float text).map fun body : Json => body.get "cases" with
      | some (.arr cases) => .ok cases
      | _ => .error "sealed evaluator body is invalid"
  | _ => .error "sealed evaluator generation is unavailable"

def evaluate (token : String) (files : Files) (handle generationDigest accessToken : String)
    (trustedRunner : List Json → Except String Body) : Except String Body := do
  let cases ← sealedCases env token files handle accessToken
  let result ← trustedRunner cases
  .ok (result.insert "evaluator_generation_digest" (.str generationDigest))

/-- A registration that has returned. -/
structure Registered where
  generationId : String
  cases : List Json
  digest : String
  deriving DecidableEq

structure State where
  files : Files
  registered : List Registered
  deriving DecidableEq

def step (state : State) (call : Registration env.float) : State where
  files := (registerGeneration env state.files call).2
  registered :=
    match (registerGeneration env state.files call).1 with
    | .error _ => state.registered
    | .ok (generation, _) => state.registered ++
        [⟨PyString.strip (field call.publicSpec "generation_id").text, call.sealedCases,
          (field generation "generation_digest").text⟩]

def run (calls : List (Registration env.float)) : State :=
  Runs.run (step env) ⟨Dict.empty, []⟩ calls

end Operations

section Files

variable {env : Env}

theorem stored_insert {files : Files} {component name : String} {text : List Char}
    (other label : String) :
    Files.stored (files.insert component (((files.get? component).getD .empty).insert name text))
        other label =
      if other = component ∧ label = name then some text else files.stored other label := by
  unfold Files.stored
  by_cases here : other = component
  · subst here
    rw [Dict.get?_insert_self, Option.bind_some, Dict.get?_insert]
    by_cases same : label = name
    · rw [if_pos same, if_pos ⟨rfl, same⟩]
    · rw [if_neg same, if_neg fun both => same both.2]
      cases files.get? other <;> rfl
  · rw [Dict.get?_insert_ne _ _ here, if_neg fun both => here both.1]

theorem prepare_eq_ok {call : Registration env.float} {prepared : Prepared}
    (ready : prepare env call = .ok prepared) :
    prepared.generationId = PyString.strip (field call.publicSpec "generation_id").text ∧
      safeComponent env prepared.generationId = .ok prepared.component ∧
      prepared.name = stableDigest env (.obj (privateFields prepared.generationId
        call.sealedCases)) ++ ".json" := by
  unfold prepare at ready
  obtain ⟨-, -, ready⟩ := Fallible.bind_eq_ok ready
  obtain ⟨-, -, ready⟩ := Fallible.bind_eq_ok ready
  obtain ⟨-, -, ready⟩ := Fallible.bind_eq_ok ready
  obtain ⟨generation, -, ready⟩ := Fallible.bind_eq_ok ready
  obtain ⟨component, safe, ready⟩ := Fallible.bind_eq_ok ready
  cases ready
  exact ⟨rfl, safe, rfl⟩

/-- All that a registration does to the files: it keeps every file, and when it returns its
sealed text is among them. -/
theorem registerGeneration_files (files : Files) (call : Registration env.float) :
    (∀ component name text, files.stored component name = some text →
      (registerGeneration env files call).2.stored component name = some text) ∧
    ∀ answer, (registerGeneration env files call).1 = .ok answer →
      ∃ prepared, prepare env call = .ok prepared ∧
        (registerGeneration env files call).2.stored prepared.component prepared.name =
          some (encoded prepared.generationId call.sealedCases) := by
  unfold registerGeneration
  cases ready : prepare env call with
  | error message => exact ⟨fun _ _ _ found => found, nofun⟩
  | ok prepared =>
      dsimp only
      cases present : files.stored prepared.component prepared.name with
      | some text =>
          dsimp only
          split
          · exact ⟨fun _ _ _ found => found, nofun⟩
          · rename_i same
            rw [not_not] at same
            exact ⟨fun _ _ _ found => found, fun _ _ => ⟨prepared, rfl, same ▸ present⟩⟩
      | none =>
          dsimp only
          refine ⟨fun component name text found => ?_, fun _ _ => ⟨prepared, rfl, ?_⟩⟩
          · rw [stored_insert, if_neg]
            · exact found
            · rintro ⟨rfl, rfl⟩
              rw [present] at found
              cases found
          · rw [stored_insert, if_pos ⟨rfl, rfl⟩]

/-- A registered generation has its sealed text in the directory of its id, and its cases are
read back. -/
def Sealed (env : Env) (files : Files) (registered : Registered) : Prop :=
  (∀ case ∈ registered.cases, JsonText.Plain env.float case) ∧
    ∃ component name, safeComponent env registered.generationId = .ok component ∧
      ".json".toList <:+ name.toList ∧
      files.stored component name = some (encoded registered.generationId registered.cases)

theorem sealed_step {state : State} (call : Registration env.float)
    (allSealed : ∀ registered ∈ state.registered, Sealed env state.files registered) :
    ∀ registered ∈ (step env state call).registered,
      Sealed env (step env state call).files registered := by
  obtain ⟨keeps, seals⟩ := registerGeneration_files state.files call
  have earlier : ∀ registered ∈ state.registered,
      Sealed env (step env state call).files registered := by
    intro registered member
    obtain ⟨plain, component, name, safe, suffix, stored⟩ := allSealed registered member
    exact ⟨plain, component, name, safe, suffix, keeps component name _ stored⟩
  intro registered member
  unfold step at member
  cases outcome : (registerGeneration env state.files call).1 with
  | error message =>
      simp only [outcome] at member
      exact earlier registered member
  | ok answer =>
      simp only [outcome] at member
      rcases List.mem_append.mp member with old | new
      · exact earlier registered old
      · rw [List.mem_singleton.mp new]
        obtain ⟨prepared, ready, stored⟩ := seals answer outcome
        obtain ⟨named, safe, nameEq⟩ := prepare_eq_ok ready
        refine ⟨call.plain, prepared.component, prepared.name, ?_, ?_, ?_⟩
        · exact named ▸ safe
        · rw [nameEq, String.toList_append]
          exact List.suffix_append _ _
        · exact named ▸ stored

theorem sealed_run (calls : List (Registration env.float)) :
    ∀ registered ∈ (run env calls).registered,
      Sealed env (run env calls).files registered :=
  Runs.run_invariant
    (fun state : State => ∀ registered ∈ state.registered, Sealed env state.files registered)
    (fun _ call allSealed => sealed_step call allSealed)
    (fun _ none => absurd none List.not_mem_nil) calls

theorem cases_encoded {generationId : String} {cases : List Json}
    (plain : ∀ case ∈ cases, JsonText.Plain env.float case) :
    (JsonText.loads env.float (encoded generationId cases)).map
      (fun body : Json => body.get "cases") = some (.arr (JsonText.sortItems cases)) := by
  have distinct : ((privateFields generationId cases).map Prod.fst).Nodup := by
    have names : ["schema_version", "generation_id", "cases"].Nodup := by decide
    exact names
  have readable : JsonText.Plain env.float (.obj (privateFields generationId cases)) :=
    ⟨distinct, True.intro, True.intro, (JsonText.plainItems_iff env.float cases).mpr plain,
      True.intro⟩
  have sorted := JsonText.plain_sortMembers readable
  have blank : JsonText.skip [Char.ofNat 10] = [] := by decide
  rw [encoded, JsonText.loads_dumps_append readable blank, Option.map_some]
  rw [JsonText.sortMembers] at sorted ⊢
  have listed : ("cases", Json.arr (JsonText.sortItems cases)) ∈ Sorting.sortedBy Prod.fst
      (JsonText.sortFields (privateFields generationId cases)) := by
    rw [Sorting.mem_sortedBy]
    exact List.mem_cons_of_mem _ (List.mem_cons_of_mem _ List.mem_cons_self)
  rw [Json.get, Json.fields, (Dict.find_eq_some_iff sorted.1 _ _).mpr listed, Option.getD_some]

/-- An evaluation under the id of a registered generation reads the cases of this one. -/
theorem sealedCases_registered {files : Files} {token handle accessToken : String}
    {cases : List Json} (evaluated : sealedCases env token files handle accessToken = .ok cases)
    {registered : Registered} (isSealed : Sealed env files registered)
    (named : generationIdFromHandle handle = .ok registered.generationId) :
    cases = JsonText.sortItems registered.cases := by
  obtain ⟨plain, component, name, safe, suffix, stored⟩ := isSealed
  obtain ⟨directory, found, inDirectory⟩ := Option.bind_eq_some_iff.mp stored
  have listed : (name, encoded registered.generationId registered.cases) ∈
      jsonFiles files component := by
    rw [jsonFiles, found, Option.getD_some]
    exact List.mem_filter.mpr ⟨(directory.get?_eq_some_iff _ _).mp inDirectory,
      List.isSuffixOf_iff_suffix.mpr suffix⟩
  unfold sealedCases at evaluated
  obtain ⟨-, -, evaluated⟩ := Fallible.bind_eq_ok evaluated
  obtain ⟨generationId, handleId, evaluated⟩ := Fallible.bind_eq_ok evaluated
  obtain ⟨reached, handleSafe, evaluated⟩ := Fallible.bind_eq_ok evaluated
  rw [named] at handleId
  cases handleId
  rw [safe] at handleSafe
  cases handleSafe
  split at evaluated
  · rename_i only text single
    rw [single, List.mem_singleton] at listed
    obtain ⟨-, sameText⟩ := Prod.mk.inj listed
    rw [← sameText, cases_encoded plain] at evaluated
    exact (Except.ok.inj evaluated).symm
  · cases evaluated

end Files

/-- The result is bound to its generation: the cases are those registered for the id in the
handle, up to the order of the members of an object, and the digest is that of a registration
of this id. -/
def BoundTo (state : State) (handle generationDigest : String) (cases : List Json) : Prop :=
  ∃ generationId, generationIdFromHandle handle = .ok generationId ∧
    (∃ registered ∈ state.registered, registered.generationId = generationId ∧
      registered.digest = generationDigest) ∧
    ∀ registered ∈ state.registered, registered.generationId = generationId →
      cases = JsonText.sortItems registered.cases

/-- An evaluation that returns is bound to its generation exactly when the id in the handle was
itself registered and the caller passes the digest of such a registration. -/
theorem evaluation_bound_iff (env : Env) (token : String) (calls : List (Registration env.float))
    (handle generationDigest accessToken : String) (trustedRunner : List Json → Except String Body)
    (result : Body) (evaluated : evaluate env token (run env calls).files handle generationDigest
      accessToken trustedRunner = .ok result) :
    (∃ cases answer, sealedCases env token (run env calls).files handle accessToken = .ok cases ∧
      trustedRunner cases = .ok answer ∧
      result = answer.insert "evaluator_generation_digest" (.str generationDigest) ∧
      BoundTo (run env calls) handle generationDigest cases) ↔
    ∃ registered ∈ (run env calls).registered,
      generationIdFromHandle handle = .ok registered.generationId ∧
        registered.digest = generationDigest := by
  constructor
  · rintro ⟨cases, answer, -, -, -, generationId, handleId, ⟨registered, member, named, digest⟩, -⟩
    exact ⟨registered, member, named ▸ handleId, digest⟩
  · rintro ⟨registered, member, handleId, digest⟩
    obtain ⟨cases, read, after⟩ := Fallible.bind_eq_ok evaluated
    obtain ⟨answer, answered, stamped⟩ := Fallible.bind_eq_ok after
    refine ⟨cases, answer, read, answered, (Except.ok.inj stamped).symm, registered.generationId,
      handleId, ⟨registered, member, rfl, digest⟩, ?_⟩
    intro other otherMember sameId
    exact sealedCases_registered read (sealed_run calls other otherMember) (sameId ▸ handleId)

def sampleCases : List Json := [.obj [("expected", .str "42")]]

def sampleSpec : Body :=
  .ofEntries [("schema_version", .str "evaluator-generation.v1"), ("generation_id", .str "a/b"),
    ("parser_digest", .str (String.ofList (List.replicate 64 'a'))),
    ("tcb_digest", .str (String.ofList (List.replicate 64 'b'))),
    ("scenario_set_digest", .str (String.ofList (List.replicate 64 'c'))),
    ("required_gates", .arr [.obj [("id", .str "correctness")]]),
    ("required_score_dimensions", .arr [.obj [("id", .str "correctness"), ("weight", .int 1),
      ("min", .int 0), ("max", .int 1)]]),
    ("comparison_identity_fields", .arr [.str "seed_policy_digest"])]

def sampleHoldoutDigest : String :=
  "ff065e1a3aee1a3c3b3fc684a3f1b6b7eda4172e6df706be384a6693052e26a1"

def sampleWeightsDigest : String :=
  "0313fba4418f3c01883575fb8c5ea3611721d3a7817fe20be621238f63504a98"

def sampleGenerationDigest : String :=
  "fa317d9cbdcf2ca4668cbd26cf30ef56ac773052f413c26b0aa3f370c9545758"

/-- The SHA-256 of the three texts that the sample registration digests, which are told apart by
their lengths: those of the sealed cases, of the weights and of the generation. -/
def sampleSha256 (text : List Char) : List Char :=
  match text.length with
  | 102 => sampleHoldoutDigest.toList
  | 20 => sampleWeightsDigest.toList
  | _ => sampleGenerationDigest.toList

def sampleEnv : Env where
  isAlnum := Char.isAlphanum
  sha256 := sampleSha256
  finite value :=
    match value with
    | .int number => some (number, toString number ++ ".0")
    | .float number repr => some (number, repr)
    | _ => none
  float _ := .null

def sampleRegistration : Registration sampleEnv.float where
  rootInState := false
  publicSpec := sampleSpec
  sealedCases := sampleCases
  objects := by
    intro case member
    rw [List.mem_singleton.mp member]
    rfl
  plain := by
    intro case member
    rw [List.mem_singleton.mp member]
    exact ⟨List.nodup_singleton _, True.intro, True.intro⟩
  sidecar := .ok (.obj [("kind", .str "evaluator_generation")])

def sampleToken : String := "0123456789abcdef"

def sampleRunner (cases : List Json) : Except String Body :=
  .ok (.ofEntries [("cases", .arr cases)])

def sampleState : State where
  files := .ofEntries [("a-b", .ofEntries [(sampleHoldoutDigest ++ ".json",
    encoded "a/b" sampleCases)])]
  registered := [⟨"a/b", sampleCases, sampleGenerationDigest⟩]

theorem run_sample : run sampleEnv [sampleRegistration] = sampleState := by
  decide +kernel

/-- The evaluation of a registered generation with its own digest. -/
theorem sample_evaluation_bound :
    ∃ cases, sealedCases sampleEnv sampleToken (run sampleEnv [sampleRegistration]).files
        (handleStem ++ "a/b") sampleToken = .ok cases ∧
      BoundTo (run sampleEnv [sampleRegistration]) (handleStem ++ "a/b") sampleGenerationDigest
        cases := by
  have evaluated : evaluate sampleEnv sampleToken (run sampleEnv [sampleRegistration]).files
      (handleStem ++ "a/b") sampleGenerationDigest sampleToken sampleRunner =
        .ok (.ofEntries [("cases", .arr sampleCases),
          ("evaluator_generation_digest", .str sampleGenerationDigest)]) := by
    rw [run_sample]
    decide +kernel
  have registered : (⟨"a/b", sampleCases, sampleGenerationDigest⟩ : Registered) ∈
      (run sampleEnv [sampleRegistration]).registered := by
    rw [run_sample]
    exact List.mem_singleton_self _
  have named : generationIdFromHandle (handleStem ++ "a/b") = .ok "a/b" := by decide +kernel
  obtain ⟨cases, -, read, -, -, bound⟩ := (evaluation_bound_iff sampleEnv sampleToken
    [sampleRegistration] (handleStem ++ "a/b") sampleGenerationDigest sampleToken sampleRunner _
    evaluated).mpr ⟨_, registered, named, rfl⟩
  exact ⟨cases, read, bound⟩

/-- The handle of an id that was never registered reads the cases of the registered one, and any
digest is stamped on the result. -/
theorem other_generation_evaluated :
    ((run sampleEnv [sampleRegistration]).registered.map Registered.generationId = ["a/b"]) ∧
    evaluate sampleEnv sampleToken (run sampleEnv [sampleRegistration]).files
        (handleStem ++ "a-b") sampleGenerationDigest sampleToken sampleRunner =
      .ok (.ofEntries [("cases", .arr sampleCases),
        ("evaluator_generation_digest", .str sampleGenerationDigest)]) ∧
    evaluate sampleEnv sampleToken (run sampleEnv [sampleRegistration]).files
        (handleStem ++ "a/b") "of another generation" sampleToken sampleRunner =
      .ok (.ofEntries [("cases", .arr sampleCases),
        ("evaluator_generation_digest", .str "of another generation")]) := by
  rw [run_sample]
  decide +kernel

end ZaofuFormal.Evolution.SealedEvaluator
