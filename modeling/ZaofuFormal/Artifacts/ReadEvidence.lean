import ZaofuFormal.Artifacts.ControlledReads

/-!
# Read evidence

The input-consumption policy of an attempt lists the reads that its worker has
to make.  Each of them is looked up among the rows of the sealed ledger.  A row
says whether the character limit cut what was returned; nothing in it says that
the item limit did.
-/

namespace ZaofuFormal.Artifacts.ReadEvidence

open Foundation Foundation.JsonText Foundation.Runs ReadLedger ControlledReads

structure Issue where
  field : String
  code : String
  message : Option String
deriving DecidableEq

variable (reader : Reader)

def sealedRef (descriptor : Descriptor) : String :=
  "artifacts/attempts/" ++ descriptor.component ++ "/read-ledger-" ++ descriptor.name ++ ".jsonl"

def hydrateLimitBytes : Nat := 4 * 1024 * 1024

/-- `hydrate_sidecar_ref` of a sealed ledger. -/
def hydrate (files : Files) (descriptor : Descriptor) : Except String (List Char) :=
  let ref := sealedRef descriptor
  match (files descriptor.component).fragments.get? descriptor.name with
  | none => .error ("sidecar ref missing: " ++ ref)
  | some raw =>
      if descriptor.byteCount ≠ 0 ∧ descriptor.byteCount ≠ byteCount raw then
        .error ("sidecar byte_count mismatch for " ++ ref ++ ": expected " ++
          toString descriptor.byteCount ++ ", got " ++ toString (byteCount raw))
      else if descriptor.sha256 ≠ "" ∧ descriptor.sha256 ≠ reader.sha256 raw then
        .error ("sidecar hash mismatch for " ++ ref ++ ": expected " ++ descriptor.sha256 ++
          ", got " ++ reader.sha256 raw)
      else if hydrateLimitBytes < byteCount raw then
        .error ("sidecar payload too large: " ++ ref)
      else .ok raw

/-- `int(value or default)`, when it does not raise. -/
def intOr? (value : Json) (default : Int) : Option Int :=
  if value.truthy then value.int? else some default

def requiredDigest (requirement : Json) : String :=
  if (requirement.get "artifact_sha256").truthy then (requirement.get "artifact_sha256").pyStr
  else requirement.textAt "sha256"

def requiredPath (requirement : Json) : String := textOr (requirement.get "json_path") "$"

/-- A limit that the requirement names is the limit of the read. -/
def limitMatches (row requirement : Json) (field : String) : Option Bool :=
  ((requirement.get field).intOrZero?).bind fun required =>
    if required = 0 then some true
    else ((row.get field).intOrZero?).map fun used => used == required

/-- The row is a read of the required part of the required artifact. -/
def namesRead (row requirement : Json) : Bool :=
  textOr (row.get "status") "read" == "read" &&
  requirement.textAt "source_id" == row.textAt "source_id" &&
  requirement.textAt "artifact_id" == row.textAt "artifact_id" &&
  (requiredDigest requirement == "" ||
    requiredDigest requirement == row.textAt "artifact_sha256") &&
  requiredPath requirement == textOr (row.get "json_path") "$"

/-- `_read_matches`, when it does not raise. -/
def readMatches (row requirement : Json) : Option Bool :=
  if namesRead row requirement = false then some false
  else
    (intOr? (row.get "returned_bytes") 0).bind fun returned =>
      (intOr? (requirement.get "min_returned_bytes") 1).bind fun least =>
        if returned < least then some false
        else if (row.get "truncated").truthy ∧ (requirement.get "allow_truncated").truthy = false
        then some false
        else
          (limitMatches row requirement "max_items").bind fun items =>
            if items then limitMatches row requirement "max_chars" else some false

def anyMatches (requirement : Json) : List Json → Option Bool
  | [] => some false
  | row :: rest =>
      (readMatches row requirement).bind fun here =>
        if here then some true else anyMatches requirement rest

def requiredReads (policy : Json) : List Json :=
  match policy.get "required_reads" with
  | .arr items => items
  | _ => []

def checkReads (rows : List Json) : Nat → List Json → Option (List Issue)
  | _, [] => some []
  | index, item :: rest =>
      let field := s!"required_reads[{index}]"
      if item.isObject = false then
        (checkReads rows (index + 1) rest).map (⟨field, "invalid_policy", none⟩ :: ·)
      else
        (anyMatches item rows).bind fun found =>
          (checkReads rows (index + 1) rest).map fun issues =>
            if found then issues
            else
              ⟨field, "required_read_missing",
                some ((item.get "source_id").pyStr ++ "/" ++ (item.get "artifact_id").pyStr ++
                  " " ++ requiredPath item)⟩ :: issues

/-- `validate_required_reads`, when it does not raise. -/
def validateRequiredReads (files : Files) (policy : Json) (descriptor : Descriptor) :
    Option (List Issue) :=
  let field := "input_consumption.read_ledger_ref"
  match hydrate reader files descriptor with
  | .error message => some [⟨field, "invalid_ref", some message⟩]
  | .ok raw =>
      match parseLedger reader.toHost raw (policy.textAt "attempt_id") with
      | .error message => some [⟨field, "invalid_ledger", some message⟩]
      | .ok rows => checkReads rows 0 (requiredReads policy)

inductive Step where
  | read (call : Call)
  | sealing (attemptId : String)

/-- What a step does to the ledger files. -/
def ledgerStep : Step → Option SealedReads.Step
  | .read call =>
      match call.outcome reader with
      | .ok found => some (.append found.1)
      | .error _ => none
  | .sealing attemptId => some (.sealing attemptId)

def perform (files : Files) (step : Step) : Files :=
  match ledgerStep reader step with
  | none => files
  | some change => SealedReads.apply reader.toHost files change

theorem run_perform (files : Files) (steps : List Step) :
    run (perform reader) files steps =
      run (SealedReads.apply reader.toHost) files (steps.filterMap (ledgerStep reader)) := by
  induction steps generalizing files with
  | nil => rfl
  | cons step rest ih =>
      rw [run_cons, ih, perform]
      cases change : ledgerStep reader step with
      | none => rw [List.filterMap_cons_none change]
      | some change' => rw [List.filterMap_cons_some change, run_cons]

theorem anyMatches_true {requirement : Json} {rows : List Json}
    (found : anyMatches requirement rows = some true) :
    ∃ row ∈ rows, readMatches row requirement = some true := by
  induction rows with
  | nil => cases found
  | cons row rest ih =>
      obtain ⟨here, decided, final⟩ := Option.bind_eq_some_iff.mp found
      cases here with
      | true => exact ⟨row, List.mem_cons_self, decided⟩
      | false =>
          obtain ⟨other, member, holds⟩ := ih final
          exact ⟨other, List.mem_cons_of_mem row member, holds⟩

theorem checkReads_nil {rows items : List Json} {index : Nat}
    (clean : checkReads rows index items = some []) :
    ∀ item ∈ items, anyMatches item rows = some true := by
  induction items generalizing index with
  | nil => exact fun _ member => absurd member List.not_mem_nil
  | cons item rest ih =>
      rw [checkReads] at clean
      split at clean
      · obtain ⟨_, _, impossible⟩ := Option.map_eq_some_iff.mp clean
        cases impossible
      · obtain ⟨found, decided, final⟩ := Option.bind_eq_some_iff.mp clean
        obtain ⟨issues, later, final⟩ := Option.map_eq_some_iff.mp final
        cases found with
        | false => cases final
        | true =>
            obtain rfl : issues = [] := final
            exact List.forall_mem_cons.mpr ⟨decided, ih later⟩

theorem exists_match_of_validated {files : Files} {policy : Json} {descriptor : Descriptor}
    (valid : validateRequiredReads reader files policy descriptor = some []) :
    ∃ raw rows, (files descriptor.component).fragments.get? descriptor.name = some raw ∧
      parseLedger reader.toHost raw (policy.textAt "attempt_id") = .ok rows ∧
      ∀ requirement ∈ requiredReads policy, ∃ row ∈ rows,
        readMatches row requirement = some true := by
  unfold validateRequiredReads at valid
  dsimp only at valid
  split at valid
  · cases valid
  · rename_i raw hydrated
    split at valid
    · cases valid
    · rename_i rows parsed
      refine ⟨raw, rows, ?_, parsed, fun requirement listed =>
        anyMatches_true (checkReads_nil valid requirement listed)⟩
      unfold hydrate at hydrated
      dsimp only at hydrated
      split at hydrated
      · cases hydrated
      · rename_i text found
        split at hydrated
        · cases hydrated
        · split at hydrated
          · cases hydrated
          · split at hydrated
            · cases hydrated
            · rw [found, Except.ok.inj hydrated]

/-- What a matching row says of a requirement. -/
structure Evidence (row requirement : Json) : Prop where
  status : textOr (row.get "status") "read" = "read"
  source : requirement.textAt "source_id" = row.textAt "source_id"
  artifact : requirement.textAt "artifact_id" = row.textAt "artifact_id"
  digest : requiredDigest requirement = "" ∨
    requiredDigest requirement = row.textAt "artifact_sha256"
  path : requiredPath requirement = textOr (row.get "json_path") "$"
  whole : (requirement.get "allow_truncated").truthy = false →
    (row.get "truncated").truthy = false

theorem evidence_of_readMatches {row requirement : Json}
    (found : readMatches row requirement = some true) : Evidence row requirement := by
  unfold readMatches at found
  by_cases names : namesRead row requirement = false
  · rw [if_pos names] at found
    cases found
  · rw [if_neg names] at found
    rw [Bool.not_eq_false] at names
    simp only [namesRead, Bool.and_eq_true, Bool.or_eq_true, beq_iff_eq] at names
    obtain ⟨⟨⟨⟨status, source⟩, artifact⟩, digest⟩, path⟩ := names
    refine ⟨status, source, artifact, digest, path, fun strict => ?_⟩
    obtain ⟨returned, _, found⟩ := Option.bind_eq_some_iff.mp found
    obtain ⟨least, _, found⟩ := Option.bind_eq_some_iff.mp found
    by_contra truncated
    by_cases short : returned < least
    · rw [if_pos short] at found
      cases found
    · rw [if_neg short, if_pos ⟨by simpa using truncated, strict⟩] at found
      cases found

theorem get_deniedRow_status (call : Call) (source : Json) :
    (call.deniedRow source).json.get "status" = .str "denied" := rfl

theorem valueAt_empty_path (raw : Bytes) (value : Json) : valueAt reader raw "" ≠ .ok value := by
  intro read
  unfold valueAt at read
  dsimp only at read
  rw [if_pos (by decide)] at read
  split at read
  · cases read
  · unfold selectJsonPath at read
    rw [if_neg (by decide), if_pos (by decide)] at read
    cases read

/-- A row that counts as a read was written by a call that returned its content. -/
theorem readRow_of_outcome {call : Call} {row : Row} {content : Option (List Char)}
    (written : call.outcome reader = .ok (row, content))
    (status : textOr (row.json.get "status") "read" = "read") :
    ∃ source raw value, findSource call.manifest call.sourceId call.artifactId = some source ∧
      call.artifact reader source = .ok raw ∧
      valueAt reader raw call.jsonPath = .ok value ∧
      row = call.readRow reader source raw (call.returned value).1 (call.returned value).2 ∧
      content = some (call.returned value).1 := by
  unfold Call.outcome at written
  split at written
  · cases written
  · rename_i source located
    split at written
    · obtain ⟨rfl, _⟩ := Prod.mk.inj (Except.ok.inj written)
      rw [get_deniedRow_status] at status
      exact absurd status (by decide)
    · obtain ⟨raw, bytes, written⟩ := Fallible.bind_eq_ok written
      obtain ⟨value, selected, written⟩ := Fallible.bind_eq_ok written
      obtain ⟨rfl, rfl⟩ := Prod.mk.inj (Except.ok.inj written)
      exact ⟨source, raw, value, located, bytes, selected, rfl, rfl⟩

/-- The number of items of a list or of fields of an object. -/
def itemCount : Json → Nat
  | .arr items => items.length
  | .obj fields => fields.length
  | _ => 0

/-- The item limit of the call drops items of the value that the call selects. -/
def Shortens (call : Call) : Prop :=
  ∃ source raw value, findSource call.manifest call.sourceId call.artifactId = some source ∧
    call.artifact reader source = .ok raw ∧ valueAt reader raw call.jsonPath = .ok value ∧
    0 < call.maxItems ∧ call.maxItems < itemCount value

theorem limitItems_eq_self {value : Json} {maxItems : Int}
    (fits : 0 < maxItems → (itemCount value : Int) ≤ maxItems) :
    limitItems value maxItems = value := by
  unfold limitItems
  split
  · rfl
  · rename_i positive
    have fits := fits (by omega)
    cases value with
    | arr items =>
        have short : items.length ≤ maxItems.toNat := by
          simp only [itemCount] at fits
          omega
        simp only [List.take_of_length_le short]
    | obj fields =>
        have short : fields.length ≤ maxItems.toNat := by
          simp only [itemCount] at fits
          omega
        simp only [List.take_of_length_le short]
    | _ => rfl

theorem returned_of_untruncated {call : Call} {value : Json}
    (whole : (call.returned value).2 = false) :
    (call.returned value).1 = encodeSelected (limitItems value call.maxItems) := by
  unfold Call.returned at whole ⊢
  dsimp only at whole ⊢
  split at whole
  · cases whole
  · rename_i uncut
    rw [if_neg uncut]

variable {reader} in
/-- The rows of a ledger were written by calls of the run. -/
theorem call_of_appended {steps : List Step} {row : Row}
    (member : row ∈ SealedReads.appended (steps.filterMap (ledgerStep reader))) :
    PyString.strip row.attemptId ≠ "" ∧ ∃ before call after content,
      steps = before ++ .read call :: after ∧ call.outcome reader = .ok (row, content) := by
  obtain ⟨change, changed, kept⟩ := List.mem_filterMap.mp member
  obtain ⟨step, taken, mapped⟩ := List.mem_filterMap.mp changed
  cases change with
  | sealing attemptId => cases kept
  | append written =>
      unfold SealedReads.appendedBy at kept
      dsimp only at kept
      split at kept
      · cases kept
      · rename_i named
        obtain rfl := Option.some.inj kept
        refine ⟨named, ?_⟩
        obtain ⟨before, after, shape⟩ := List.append_of_mem taken
        cases step with
        | sealing attemptId => cases mapped
        | read call =>
            unfold ledgerStep at mapped
            dsimp only at mapped
            split at mapped
            · rename_i found outcome
              cases Option.some.inj mapped
              exact ⟨before, call, after, found.2, shape, outcome⟩
            · cases mapped

theorem readAttemptArtifact_of_outcome {call : Call} {row : Row} {content : List Char}
    (outcome : call.outcome reader = .ok (row, some content))
    (named : PyString.strip row.attemptId ≠ "") (files : Files) :
    readAttemptArtifact reader call files = .ok content := by
  rw [readAttemptArtifact, outcome]
  dsimp only [bind, Except.bind]
  rw [appendArtifactRead, if_neg named]

/-- In a run of reads whose item limits drop nothing, a policy that is found met by a sealed
ledger has, for each requirement that accepts no cut, a read in the run that returned the whole
encoding of the value at the required path. -/
theorem controlled_reads_complete (reader : Reader) (steps : List Step)
    (whole : ∀ call, .read call ∈ steps → ¬Shortens reader call)
    (policy : Json) (descriptor : Descriptor)
    (valid : validateRequiredReads reader
      (run (perform reader) SealedReads.initial steps) policy descriptor = some [])
    (requirement : Json) (listed : requirement ∈ requiredReads policy)
    (strict : (requirement.get "allow_truncated").truthy = false) :
    ∃ before call after source raw value content,
      steps = before ++ .read call :: after ∧
      readAttemptArtifact reader call
        (run (perform reader) SealedReads.initial before) = .ok content ∧
      call.sourceId = requirement.textAt "source_id" ∧
      call.artifactId = requirement.textAt "artifact_id" ∧
      findSource call.manifest call.sourceId call.artifactId = some source ∧
      call.artifact reader source = .ok raw ∧
      (requiredDigest requirement = "" ∨ reader.digest raw = requiredDigest requirement) ∧
      valueAt reader raw (requiredPath requirement) = .ok value ∧
      content = encodeSelected value := by
  obtain ⟨text, rows, found, parsed, matched⟩ := exists_match_of_validated reader valid
  obtain ⟨decoded, decodedListed, holds⟩ := matched requirement listed
  have evidence := evidence_of_readMatches holds
  rw [run_perform] at found
  have tracks := @SealedReads.tracks_run reader.toHost (steps.filterMap (ledgerStep reader))
  obtain ⟨lines, rfl, among⟩ := tracks.rows ((SealedReads.mem_texts _ _).mpr (Or.inl ⟨_, found⟩))
  obtain ⟨_, rfl⟩ := (parseLedger_ledgerText _ _ lines rows).mp parsed
  obtain ⟨row, rowListed, rfl⟩ := List.mem_map.mp decodedListed
  obtain ⟨named, before, call, after, content, shape, outcome⟩ :=
    call_of_appended (List.mem_filter.mp (among row rowListed)).1
  have status := evidence.status
  rw [row.get_canonical] at status
  obtain ⟨source, raw, value, located, bytes, selected, rfl, rfl⟩ :=
    readRow_of_outcome reader outcome status
  have path : requiredPath requirement = call.jsonPath := by
    have same := evidence.path
    rw [Row.get_canonical] at same
    have nonempty : call.jsonPath ≠ "" := by
      intro empty
      rw [empty] at selected
      exact valueAt_empty_path reader raw value selected
    have read : textOr ((call.readRow reader source raw (call.returned value).1
        (call.returned value).2).json.get "json_path") "$" = call.jsonPath := by
      change textOr (.str call.jsonPath) "$" = call.jsonPath
      rw [textOr, if_pos (by simpa [Json.truthy] using nonempty)]
      rfl
    rw [same, read]
  have untruncated : (call.returned value).2 = false := by
    have flag := evidence.whole strict
    rw [Row.get_canonical] at flag
    exact flag
  have fits : limitItems value call.maxItems = value := by
    apply limitItems_eq_self
    intro positive
    by_contra dropped
    refine whole call ?_ ⟨source, raw, value, located, bytes, selected, positive, by omega⟩
    rw [shape]
    simp
  refine ⟨before, call, after, source, raw, value, (call.returned value).1, shape,
    readAttemptArtifact_of_outcome reader outcome named _, ?_, ?_, located, bytes, ?_, ?_, ?_⟩
  · rw [evidence.source, Row.textAt_canonical]
    exact (Json.text_str _).symm
  · rw [evidence.artifact, Row.textAt_canonical]
    exact (Json.text_str _).symm
  · rcases evidence.digest with empty | same
    · exact Or.inl empty
    · right
      rw [same, Row.textAt_canonical]
      exact (Json.text_str _).symm
  · rw [path]
    exact selected
  · rw [returned_of_untruncated untruncated, fits]

theorem readMatches_canonical (row : Row) (requirement : Json) :
    readMatches row.canonical requirement = readMatches row.json requirement := by
  have names : namesRead row.canonical requirement = namesRead row.json requirement := by
    simp only [namesRead, Row.get_canonical, Row.textAt_canonical]
  have limits : ∀ field,
      limitMatches row.canonical requirement field = limitMatches row.json requirement field := by
    intro field
    rw [limitMatches, limitMatches, row.get_canonical]
  rw [readMatches, readMatches, names, limits, limits, row.get_canonical "returned_bytes",
    row.get_canonical "truncated"]

/-- A policy with one requirement, checked against the sealed ledger of one read. -/
theorem validated_single {reader : Reader} {call : Call} {row : Row} {content : Option (List Char)}
    {policy requirement : Json} (outcome : call.outcome reader = .ok (row, content))
    (printable : Printable row)
    (schema : row.json.get "schema_version" = .str artifactReadSchema)
    (apart : fragmentName (reader.sha256 []) ≠ fragmentName (reader.sha256 (line row.json)))
    (named : PyString.strip row.attemptId ≠ "")
    (small : byteCount (line row.json) ≤ hydrateLimitBytes)
    (attempt : policy.textAt "attempt_id" = row.attemptId)
    (required : requiredReads policy = [requirement]) (object : requirement.isObject = true)
    (found : readMatches row.json requirement = some true) :
    ∃ descriptor, validateRequiredReads reader (run (perform reader) SealedReads.initial
      [.read call, .sealing row.attemptId]) policy descriptor = some [] := by
  have sealable := SealedReads.sealable_single printable schema apart
  have appended : SealedReads.appended [.append row] = [row] := by
    simp [SealedReads.appended, SealedReads.appendedBy, named]
  have listed : SealedReads.appendedFor row.attemptId [.append row] = [row] := by
    simp [SealedReads.appendedFor, appended]
  have located : SealedReads.appendedAt (safeComponent row.attemptId) [.append row] = [row] := by
    simp [SealedReads.appendedAt, appended]
  have tracks := @SealedReads.tracks_run reader.toHost [.append row]
  obtain ⟨files, descriptor, sealed⟩ := tracks.exists_sealed sealable (List.prefix_refl _)
    (by rw [listed]; exact List.cons_ne_nil _ _)
  have reached : run (perform reader) SealedReads.initial
      [.read call, .sealing row.attemptId] = files := by
    rw [run_perform]
    simp only [List.filterMap_cons, List.filterMap_nil, ledgerStep, outcome, run_cons, run_nil]
    rw [run_cons, run_nil] at sealed
    exact SealedReads.apply_sealing sealed
  obtain ⟨shape, described⟩ := tracks.sealed_cases sealed
  have text : SealedReads.sealedAt (safeComponent row.attemptId) [.append row] =
      line row.json := by
    rw [SealedReads.sealedAt, located]
    exact SealedReads.sealedText_single row
  rw [text] at shape described
  have stored : (files descriptor.component).fragments.get? descriptor.name =
      some (line row.json) := by
    rw [shape, described, Function.update_self]
    exact Dict.get?_insert_self _ _ _
  have hydrated : hydrate reader files descriptor = .ok (line row.json) := by
    unfold hydrate
    rw [stored, described]
    dsimp only
    rw [if_neg (by simp), if_neg (by simp), if_neg (Nat.not_lt.mpr small)]
  have parsed : parseLedger reader.toHost (line row.json) (policy.textAt "attempt_id") =
      .ok [row.canonical] := by
    have accepted := (parseLedger_ledgerText reader.toHost (policy.textAt "attempt_id") [row]
      [row.canonical]).mpr ⟨?_, rfl⟩
    · simpa [ledgerText] using accepted
    · intro other member
      rw [List.mem_singleton.mp member]
      exact ⟨unbroken_of_printable printable, schema, Or.inr attempt.symm⟩
  refine ⟨descriptor, ?_⟩
  rw [reached, validateRequiredReads, hydrated]
  dsimp only
  rw [parsed]
  dsimp only
  rw [required]
  simp [checkReads, object, anyMatches, readMatches_canonical, found]

def asciiText (raw : Bytes) : String := String.ofList (raw.map fun byte => Char.ofNat byte.toNat)

/-- A host that knows the digests of the list `[1,2]`, of the empty ledger and of the ledger of
one read. -/
def sampleReader (ledgerDigest : String) : Reader where
  sha256 text :=
    if text = [] then "e3b0c44298fc1c149afbf4c8996fb92427ae41e4649b934ca495991b7852b855"
    else ledgerDigest
  float _ := .null
  digest _ := "49a64717d5d4cb19952e6eac2946415cf6879adacf9908e7d872332d32c6e684"
  decode raw := some (asciiText raw)
  decodeReplace := asciiText
  decimal := PyString.digit?

def sampleCall (maxItems : Int) : Call where
  manifest := .obj [("attempt_id", .str "attempt-1"), ("sources", .arr [.obj [
    ("source_id", .str "s1"), ("artifact_id", .str "a1"), ("ref", .str "artifacts/a1.json")]])]
  sourceId := "s1"
  artifactId := "a1"
  jsonPath := "$"
  maxItems := maxItems
  maxChars := 0
  actor := ""
  role := ""
  provider := ""
  purpose := ""
  readAt := "2026-01-01T00:00:00+00:00"
  files _ := .ok (some [91, 49, 44, 50, 93])

def sampleRequirement : Json := .obj [("source_id", .str "s1"), ("artifact_id", .str "a1"),
  ("json_path", .str "$"), ("artifact_sha256",
    .str "49a64717d5d4cb19952e6eac2946415cf6879adacf9908e7d872332d32c6e684")]

def samplePolicy : Json :=
  .obj [("attempt_id", .str "attempt-1"), ("required_reads", .arr [sampleRequirement])]

def sampleSource : Json := .obj [
  ("source_id", .str "s1"), ("artifact_id", .str "a1"), ("ref", .str "artifacts/a1.json")]

/-- The row of a sample read. -/
def sampleRead (ledgerDigest : String) (maxItems : Int) : Row :=
  (sampleCall maxItems).readRow (sampleReader ledgerDigest) sampleSource [91, 49, 44, 50, 93]
    ((sampleCall maxItems).returned (.arr [.int 1, .int 2])).1 false

def wholeDigest : String := "11312aa1f848a748719b74cfb2fc491ba5d1a1a96a0a8e96149a3493932602f7"

def clippedDigest : String := "c5aac3e64a29f7ce8c1dc334f3aa2937bc0f94ee70d21981e0f30b0310d2afbd"

/-- What has to be evaluated to see that a sample read is found to meet the policy. -/
theorem sample_validated {ledgerDigest : String} {maxItems : Int}
    (outcome : (sampleCall maxItems).outcome (sampleReader ledgerDigest) =
      .ok (sampleRead ledgerDigest maxItems,
        some ((sampleCall maxItems).returned (.arr [.int 1, .int 2])).1))
    (printable : Printable (sampleRead ledgerDigest maxItems))
    (apart : fragmentName ((sampleReader ledgerDigest).sha256 []) ≠ fragmentName ledgerDigest)
    (small : byteCount (line (sampleRead ledgerDigest maxItems).json) ≤ hydrateLimitBytes)
    (found : readMatches (sampleRead ledgerDigest maxItems).json sampleRequirement = some true) :
    ∃ descriptor, validateRequiredReads (sampleReader ledgerDigest)
      (run (perform (sampleReader ledgerDigest)) SealedReads.initial
        [.read (sampleCall maxItems), .sealing "attempt-1"]) samplePolicy descriptor =
          some [] := by
  have attempt : (sampleRead ledgerDigest maxItems).attemptId = "attempt-1" :=
    Json.text_str "attempt-1"
  have nonempty : line (sampleRead ledgerDigest maxItems).json ≠ [] := by
    simp [line]
  have digest : (sampleReader ledgerDigest).sha256 (line (sampleRead ledgerDigest maxItems).json) =
      ledgerDigest := by
    unfold sampleReader
    dsimp only
    rw [if_neg nonempty]
  have valid := @validated_single (sampleReader ledgerDigest) (sampleCall maxItems)
    (sampleRead ledgerDigest maxItems) _ samplePolicy sampleRequirement outcome printable rfl
    (by rw [digest]; exact apart) (by rw [attempt]; decide +kernel) small
    (by rw [attempt]; decide) rfl rfl
    found
  rwa [attempt] at valid

theorem whole_read_validated :
    ∃ descriptor, validateRequiredReads (sampleReader wholeDigest)
      (run (perform (sampleReader wholeDigest)) SealedReads.initial
        [.read (sampleCall 0), .sealing "attempt-1"]) samplePolicy descriptor = some [] :=
  sample_validated (by decide +kernel) (by decide +kernel) (by decide +kernel)
    (by decide +kernel) (by decide +kernel)

theorem whole_read_is_evidence :
    ∃ before call after source raw value content,
      [Step.read (sampleCall 0), .sealing "attempt-1"] = before ++ .read call :: after ∧
      readAttemptArtifact (sampleReader wholeDigest) call
        (run (perform (sampleReader wholeDigest)) SealedReads.initial before) = .ok content ∧
      call.sourceId = sampleRequirement.textAt "source_id" ∧
      call.artifactId = sampleRequirement.textAt "artifact_id" ∧
      findSource call.manifest call.sourceId call.artifactId = some source ∧
      call.artifact (sampleReader wholeDigest) source = .ok raw ∧
      (requiredDigest sampleRequirement = "" ∨
        (sampleReader wholeDigest).digest raw = requiredDigest sampleRequirement) ∧
      valueAt (sampleReader wholeDigest) raw (requiredPath sampleRequirement) = .ok value ∧
      content = encodeSelected value := by
  obtain ⟨descriptor, valid⟩ := whole_read_validated
  refine controlled_reads_complete (sampleReader wholeDigest)
    [.read (sampleCall 0), .sealing "attempt-1"] ?_ samplePolicy descriptor valid
    sampleRequirement List.mem_cons_self rfl
  rintro call member ⟨_, _, _, _, _, _, positive, _⟩
  have same : call = sampleCall 0 := by
    rcases List.mem_cons.mp member with here | later
    · exact Step.read.inj here
    · rcases List.mem_cons.mp later with impossible | nothing
      · cases impossible
      · exact absurd nothing List.not_mem_nil
  rw [same] at positive
  exact absurd positive (by decide)

/-- The policy is found met although the only read of the run returned one item of two. -/
theorem clipped_read_is_evidence :
    (∃ descriptor, validateRequiredReads (sampleReader clippedDigest)
      (run (perform (sampleReader clippedDigest)) SealedReads.initial
        [.read (sampleCall 1), .sealing "attempt-1"]) samplePolicy descriptor = some []) ∧
    (sampleRequirement.get "allow_truncated").truthy = false ∧
    (sampleRequirement.get "max_items").intOrZero? = some 0 ∧
    (sampleRequirement.get "max_chars").intOrZero? = some 0 ∧
    (readAttemptArtifact (sampleReader clippedDigest) (sampleCall 1)
      SealedReads.initial).toOption ≠
        ((valueAt (sampleReader clippedDigest) [91, 49, 44, 50, 93]
          (requiredPath sampleRequirement)).map encodeSelected).toOption := by
  refine ⟨sample_validated (by decide +kernel) (by decide +kernel) (by decide +kernel)
    (by decide +kernel) (by decide +kernel), rfl, rfl, rfl, by decide +kernel⟩

end ZaofuFormal.Artifacts.ReadEvidence
