import ZaofuFormal.Foundation.Json
import ZaofuFormal.Foundation.PosixPath
import ZaofuFormal.Foundation.Runs

/-!
# Attestations of artifacts

The attestation of an artifact lies in one file of the state directory, whose
name is derived from the path of the artifact.  A file is modelled by the JSON
document that its text encodes; the digest of a content is a parameter.  The
records that have been written are kept beside the directory, so that what is
read back can be compared with what was written last for a path.
-/

namespace ZaofuFormal.Security.Attestations

open Foundation

inductive AttestationKind where
  | taskContract
  | statePacket
  | contextManifest
  | roleBriefing
  | skillsManifest
  | researchIndex
  deriving DecidableEq

def AttestationKind.text : AttestationKind → String
  | taskContract => "task_contract"
  | statePacket => "state_packet"
  | contextManifest => "context_manifest"
  | roleBriefing => "role_briefing"
  | skillsManifest => "skills_manifest"
  | researchIndex => "research_index"

def knownAttestationKinds : List AttestationKind :=
  [.taskContract, .statePacket, .contextManifest, .roleBriefing, .skillsManifest, .researchIndex]

def AttestationKind.ofText? (text : String) : Option AttestationKind :=
  knownAttestationKinds.find? fun kind => kind.text = text

theorem AttestationKind.ofText?_text (kind : AttestationKind) : ofText? kind.text = some kind := by
  cases kind <;> decide

/-- `re.fullmatch(r"[0-9a-f]{64}", text)`. -/
def IsSha256 (text : String) : Prop :=
  text.toList.length = 64 ∧ text.toList.all "0123456789abcdef".toList.contains = true

instance (text : String) : Decidable (IsSha256 text) := inferInstanceAs (Decidable (_ ∧ _))

abbrev Sha256 := { text : String // IsSha256 text }

def attestationSchemaVersion : String := "1.0"

structure Attestation where
  artifactPath : String
  kind : AttestationKind
  sha256 : Sha256
  schemaVersion : String := attestationSchemaVersion
  sourceEvents : List String := []
  taskId : String := ""
  dispatchId : String := ""
  attestedAt : String := ""
  deriving DecidableEq

/-- Leading dots and then leading slashes are dropped, other slashes doubled underscores. -/
def safePathPart (pathLike : String) : String :=
  String.ofList ((((pathLike.toList.dropWhile (· = '.')).dropWhile (· = '/')).flatMap
    fun char => if char = '/' then ['_', '_'] else [char]))

/-- The name of the attestation file of an artifact. -/
def attestationPathFor (artifactPath : String) : String :=
  safePathPart artifactPath ++ ".attest.json"

theorem attestationPathFor_inj {first second : String} :
    attestationPathFor first = attestationPathFor second ↔
      safePathPart first = safePathPart second := by
  unfold attestationPathFor
  rw [← String.toList_inj, String.toList_append, String.toList_append, List.append_left_inj,
    String.toList_inj]

def Attestation.asdict (attestation : Attestation) : Json :=
  .obj [("artifact_path", .str attestation.artifactPath), ("kind", .str attestation.kind.text),
    ("sha256", .str attestation.sha256.val), ("schema_version", .str attestation.schemaVersion),
    ("source_events", .arr (attestation.sourceEvents.map .str)),
    ("task_id", .str attestation.taskId), ("dispatch_id", .str attestation.dispatchId),
    ("attested_at", .str attestation.attestedAt)]

/-- `tuple(str(e) for e in (value or []))`, unless the value is not iterable. -/
def eventTexts? (value : Json) : Option (List String) :=
  if !value.truthy then some []
  else
    match value with
    | .arr items => some (items.map Json.pyStr)
    | .obj fields => some (fields.map Prod.fst)
    | .str text => some (text.toList.map fun char => String.ofList [char])
    | _ => none

/-- `str(data.get("schema_version", default) or default)`. -/
def schemaVersionOf (data : Json) : String :=
  if (data.get "schema_version").truthy then data.textAt "schema_version"
  else attestationSchemaVersion

def Attestation.ofDocument? (data : Json) : Option Attestation :=
  match AttestationKind.ofText? (data.textAt "kind"), eventTexts? (data.get "source_events") with
  | some kind, some sourceEvents =>
      if isSha : IsSha256 (data.textAt "sha256") then
        some
          { artifactPath := data.textAt "artifact_path"
            kind
            sha256 := ⟨data.textAt "sha256", isSha⟩
            schemaVersion := schemaVersionOf data
            sourceEvents
            taskId := data.textAt "task_id"
            dispatchId := data.textAt "dispatch_id"
            attestedAt := data.textAt "attested_at" }
      else none
  | _, _ => none

/-- What is read back of a record: an empty schema version becomes the current one. -/
def Attestation.readBack (attestation : Attestation) : Attestation :=
  { attestation with
    schemaVersion := if attestation.schemaVersion = "" then attestationSchemaVersion
      else attestation.schemaVersion }

theorem eventTexts?_strings (texts : List String) :
    eventTexts? (.arr (texts.map .str)) = some texts := by
  unfold eventTexts?
  cases texts with
  | nil => rfl
  | cons text rest =>
      rw [if_neg (by simp [Json.truthy])]
      simp [Json.pyStr, Function.comp_def]

theorem ofDocument?_asdict (attestation : Attestation) :
    Attestation.ofDocument? attestation.asdict = some attestation.readBack := by
  have texts (key : String) (value : String)
      (found : attestation.asdict.get key = .str value) :
      attestation.asdict.textAt key = value := by
    rw [Json.textAt, found, Json.text_str]
  have kind := texts "kind" attestation.kind.text rfl
  have sha := texts "sha256" attestation.sha256.val rfl
  have version : schemaVersionOf attestation.asdict = attestation.readBack.schemaVersion := by
    unfold schemaVersionOf Attestation.readBack
    rw [texts "schema_version" attestation.schemaVersion rfl]
    by_cases empty : attestation.schemaVersion = ""
    · simp [Attestation.asdict, Json.get, Json.fields, Dict.find, Json.truthy, empty]
    · simp [Attestation.asdict, Json.get, Json.fields, Dict.find, Json.truthy, empty]
  have events : eventTexts? (attestation.asdict.get "source_events") =
      some attestation.sourceEvents := eventTexts?_strings attestation.sourceEvents
  unfold Attestation.ofDocument?
  rw [kind, AttestationKind.ofText?_text, events]
  dsimp only
  rw [dif_pos (sha ▸ attestation.sha256.property), version,
    texts "artifact_path" attestation.artifactPath rfl, texts "task_id" attestation.taskId rfl,
    texts "dispatch_id" attestation.dispatchId rfl, texts "attested_at" attestation.attestedAt rfl]
  unfold Attestation.readBack
  congr 2
  exact Subtype.ext sha

variable {α ν : Type}

/-- The artifacts that exist, by path, and the attestation files, by name. -/
structure StateDir (α : Type) where
  artifacts : String → Option α
  attestations : Dict String Json

def writeAttestation (dir : StateDir α) (attestation : Attestation) : StateDir α :=
  { dir with
    attestations :=
      dir.attestations.insert (attestationPathFor attestation.artifactPath) attestation.asdict }

def readAttestation (dir : StateDir α) (artifactPath : String) : Option Attestation :=
  (dir.attestations.get? (attestationPathFor artifactPath)).bind Attestation.ofDocument?

inductive VerificationReason where
  | none
  | noAttestation
  | missingArtifact
  | hashMismatch
  deriving DecidableEq

structure VerificationResult where
  matched : Bool
  expectedSha256 : String
  actualSha256 : String
  reason : VerificationReason
  deriving DecidableEq

def verifyFileArtifact (sha256File : α → Sha256) (dir : StateDir α) (artifactPath : String) :
    VerificationResult :=
  match readAttestation dir artifactPath with
  | none => ⟨false, "", "", .noAttestation⟩
  | some attestation =>
      match dir.artifacts artifactPath with
      | none => ⟨false, attestation.sha256.val, "", .missingArtifact⟩
      | some content =>
          if sha256File content = attestation.sha256 then
            ⟨true, attestation.sha256.val, (sha256File content).val, .none⟩
          else ⟨false, attestation.sha256.val, (sha256File content).val, .hashMismatch⟩

/-- The arguments of `attest_file_artifact`, with the time that it reads. -/
structure FileArguments where
  artifactPath : String
  kind : AttestationKind
  sourceEvents : List String := []
  taskId : String := ""
  dispatchId : String := ""
  attestedAt : String := ""

/-- What happens to the state directory; the artifacts are changed by others. -/
inductive Call (α : Type) where
  | changeArtifacts (artifacts : String → Option α)
  | writeAttestation (attestation : Attestation)
  | attestFileArtifact (arguments : FileArguments)

/-- A record that has been written, with the content that was hashed for it. -/
structure Attested (α : Type) where
  record : Attestation
  content : Option α

/-- What a call writes; hashing an artifact that does not exist raises. -/
def Call.attests (sha256File : α → Sha256) (dir : StateDir α) : Call α → Option (Attested α)
  | .changeArtifacts _ => none
  | .writeAttestation attestation => some ⟨attestation, none⟩
  | .attestFileArtifact arguments =>
      (dir.artifacts arguments.artifactPath).map fun content =>
        { record :=
            { artifactPath := arguments.artifactPath
              kind := arguments.kind
              sha256 := sha256File content
              sourceEvents := arguments.sourceEvents
              taskId := arguments.taskId
              dispatchId := arguments.dispatchId
              attestedAt := arguments.attestedAt }
          content := some content }

/-- The state directory, and the records written so far, the latest one first. -/
structure World (α : Type) where
  dir : StateDir α
  written : List (Attested α)

def World.start (artifacts : String → Option α) : World α := ⟨⟨artifacts, Dict.empty⟩, []⟩

def World.write (world : World α) : Option (Attested α) → World α
  | none => world
  | some attested =>
      ⟨writeAttestation world.dir attested.record, attested :: world.written⟩

def World.step (sha256File : α → Sha256) (world : World α) (call : Call α) : World α :=
  match call with
  | .changeArtifacts artifacts => { world with dir := { world.dir with artifacts } }
  | call => world.write (call.attests sha256File world.dir)

section Lawful

variable [DecidableEq ν] (sha256File : α → Sha256) (normalise : String → ν) (path : String)

/-- The last record for a path; paths of one normal form are the same. -/
def lastFor (written : List (Attested α)) : Option (Attested α) :=
  written.find? fun attested => normalise attested.record.artifactPath = normalise path

/-- The content is the one that was attested, or has the digest of a record that
was written for no content. -/
def Attested.Of (attested : Attested α) (current : α) : Prop :=
  match attested.content with
  | some content => current = content
  | none => sha256File current = attested.record.sha256

structure Lawful (world : World α) : Prop where
  read : readAttestation world.dir path =
    (lastFor normalise path world.written).map Attested.record
  verified : (verifyFileArtifact sha256File world.dir path).matched = true ↔
    ∃ current attested, world.dir.artifacts path = some current ∧
      lastFor normalise path world.written = some attested ∧ attested.Of sha256File current

/-- The state behind a call is lawful, and attesting another path has changed no answer. -/
structure LawfulStep (world : World α) (call : Call α) : Prop where
  lawful : Lawful sha256File normalise path (world.step sha256File call)
  apart : ∀ attested, call.attests sha256File world.dir = some attested →
    normalise attested.record.artifactPath ≠ normalise path →
      readAttestation (world.step sha256File call).dir path = readAttestation world.dir path ∧
      verifyFileArtifact sha256File (world.step sha256File call).dir path =
        verifyFileArtifact sha256File world.dir path

/-- The file name tells the path that a call attests from the given one, or
takes both for one, as normalisation does, and the record has a schema version. -/
def Separated (world : World α) (call : Call α) : Prop :=
  ∀ attested, call.attests sha256File world.dir = some attested →
    (safePathPart attested.record.artifactPath = safePathPart path ↔
      normalise attested.record.artifactPath = normalise path) ∧
    (normalise attested.record.artifactPath = normalise path →
      attested.record.schemaVersion ≠ "")

end Lawful

section Steps

variable [DecidableEq ν] {sha256File : α → Sha256} {normalise : String → ν} {path : String}
  {world : World α} {call : Call α} {attested : Attested α}

theorem readAttestation_write (dir : StateDir α) (attestation : Attestation) (path : String) :
    readAttestation (writeAttestation dir attestation) path =
      if safePathPart attestation.artifactPath = safePathPart path then some attestation.readBack
      else readAttestation dir path := by
  unfold readAttestation writeAttestation
  rw [Dict.get?_insert]
  by_cases same : safePathPart attestation.artifactPath = safePathPart path
  · rw [if_pos same, if_pos (attestationPathFor_inj.mpr same.symm), Option.bind_some,
      ofDocument?_asdict]
  · rw [if_neg same, if_neg fun equal => same (attestationPathFor_inj.mp equal).symm]

theorem lastFor_cons (attested : Attested α) (written : List (Attested α)) :
    lastFor normalise path (attested :: written) =
      if normalise attested.record.artifactPath = normalise path then some attested
      else lastFor normalise path written := by
  unfold lastFor
  rw [List.find?_cons]
  split
  · rename_i same
    rw [if_pos (of_decide_eq_true same)]
  · rename_i other
    rw [if_neg (of_decide_eq_false other)]

theorem lastFor_path {written : List (Attested α)}
    (found : lastFor normalise path written = some attested) :
    normalise attested.record.artifactPath = normalise path := by
  have chosen := List.find?_some found
  exact of_decide_eq_true chosen

theorem readBack_eq_iff (attestation : Attestation) :
    attestation.readBack = attestation ↔ attestation.schemaVersion ≠ "" := by
  unfold Attestation.readBack
  constructor
  · intro same empty
    have version : attestationSchemaVersion = "" := by
      have kept := congrArg Attestation.schemaVersion same
      rw [if_pos empty, empty] at kept
      exact kept
    exact absurd version (by decide)
  · intro filled
    rw [if_neg filled]

/-- Every file was written by a record of its name. -/
def Filed (dir : StateDir α) : Prop :=
  ∀ name document, dir.attestations.get? name = some document →
    ∃ attestation : Attestation, document = attestation.asdict ∧
      attestationPathFor attestation.artifactPath = name

/-- A record that is read has the name under which it is found. -/
theorem Filed.read (filed : Filed world.dir) {attestation : Attestation}
    (found : readAttestation world.dir path = some attestation) :
    safePathPart attestation.artifactPath = safePathPart path := by
  obtain ⟨document, stored, decoded⟩ := Option.bind_eq_some_iff.mp found
  obtain ⟨original, rfl, name⟩ := filed _ _ stored
  rw [ofDocument?_asdict] at decoded
  cases decoded
  exact attestationPathFor_inj.mp name

/-- The digest of a record is that of the content that was hashed for it. -/
def Honest (sha256File : α → Sha256) (written : List (Attested α)) : Prop :=
  ∀ attested ∈ written, ∀ content, attested.content = some content →
    attested.record.sha256 = sha256File content

theorem honest_attests (attests : call.attests sha256File world.dir = some attested)
    {content : α} (hashed : attested.content = some content) :
    attested.record.sha256 = sha256File content := by
  cases call with
  | changeArtifacts artifacts => cases attests
  | writeAttestation attestation =>
      cases attests
      cases hashed
  | attestFileArtifact arguments =>
      obtain ⟨found, _, rfl⟩ := Option.map_eq_some_iff.mp attests
      cases hashed
      rfl

theorem Attested.of_iff (injective : Function.Injective sha256File)
    (honest : Honest sha256File world.written) (member : attested ∈ world.written) (current : α) :
    attested.Of sha256File current ↔ sha256File current = attested.record.sha256 := by
  unfold Attested.Of
  cases hashed : attested.content with
  | none => exact Iff.rfl
  | some content =>
      rw [honest attested member content hashed]
      exact injective.eq_iff.symm

theorem matched_iff (dir : StateDir α) :
    (verifyFileArtifact sha256File dir path).matched = true ↔
      ∃ current attestation, dir.artifacts path = some current ∧
        readAttestation dir path = some attestation ∧
        sha256File current = attestation.sha256 := by
  unfold verifyFileArtifact
  cases readAttestation dir path with
  | none => simp
  | some attestation =>
      cases dir.artifacts path with
      | none => simp
      | some content =>
          dsimp only
          split
          · rename_i same
            exact iff_of_true rfl ⟨content, attestation, rfl, rfl, same⟩
          · rename_i other
            refine iff_of_false Bool.false_ne_true ?_
            rintro ⟨_, _, ⟨⟩, ⟨⟩, same⟩
            exact other same

/-- Verification is right where the right record is read. -/
theorem lawful_of_read (injective : Function.Injective sha256File)
    (honest : Honest sha256File world.written)
    (read : readAttestation world.dir path =
      (lastFor normalise path world.written).map Attested.record) :
    Lawful sha256File normalise path world := by
  refine ⟨read, ?_⟩
  rw [matched_iff, read]
  constructor
  · rintro ⟨current, attestation, exists_, found, same⟩
    obtain ⟨attested, last, rfl⟩ := Option.map_eq_some_iff.mp found
    refine ⟨current, attested, exists_, last, ?_⟩
    exact (Attested.of_iff injective honest (List.mem_of_find?_eq_some last) current).mpr same
  · rintro ⟨current, attested, exists_, last, same⟩
    refine ⟨current, attested.record, exists_, by rw [last, Option.map_some], ?_⟩
    exact (Attested.of_iff injective honest (List.mem_of_find?_eq_some last) current).mp same

/-- A call writes its record, or leaves files and records as they are. -/
theorem step_cases (sha256File : α → Sha256) (world : World α) (call : Call α) :
    (∃ attested, call.attests sha256File world.dir = some attested ∧
      world.step sha256File call =
        ⟨writeAttestation world.dir attested.record, attested :: world.written⟩) ∨
    (call.attests sha256File world.dir = none ∧
      (world.step sha256File call).dir.attestations = world.dir.attestations ∧
      (world.step sha256File call).written = world.written) := by
  cases call with
  | changeArtifacts artifacts => exact Or.inr ⟨rfl, rfl, rfl⟩
  | writeAttestation attestation => exact Or.inl ⟨_, rfl, rfl⟩
  | attestFileArtifact arguments =>
      unfold World.step
      dsimp only
      cases attests : (Call.attestFileArtifact arguments).attests sha256File world.dir with
      | none => exact Or.inr ⟨rfl, rfl, rfl⟩
      | some attested => exact Or.inl ⟨attested, rfl, rfl⟩

/-- What every reached state has, whatever the paths are. -/
structure Sound (sha256File : α → Sha256) (world : World α) : Prop where
  filed : Filed world.dir
  honest : Honest sha256File world.written

theorem Sound.step (sound : Sound sha256File world) :
    Sound sha256File (world.step sha256File call) := by
  rcases step_cases sha256File world call with ⟨attested, attests, wrote⟩ | ⟨_, files, written⟩
  · rw [wrote]
    refine ⟨fun name document found => ?_, fun other member content hashed => ?_⟩
    · rw [writeAttestation, Dict.get?_insert] at found
      split at found
      · rename_i same
        cases found
        exact ⟨attested.record, rfl, same.symm⟩
      · exact sound.filed name document found
    · rcases List.mem_cons.mp member with rfl | earlier
      · exact honest_attests attests hashed
      · exact sound.honest other earlier content hashed
  · refine ⟨fun name document found => ?_, ?_⟩
    · rw [files] at found
      exact sound.filed name document found
    · rw [written]
      exact sound.honest

/-- A lawful state stays lawful exactly when the call is separated from the path. -/
theorem lawfulStep_iff (injective : Function.Injective sha256File)
    (sound : Sound sha256File world) (lawful : Lawful sha256File normalise path world) :
    LawfulStep sha256File normalise path world call ↔
      Separated sha256File normalise path world call := by
  have honest : Honest sha256File (world.step sha256File call).written := sound.step.honest
  rcases step_cases sha256File world call with ⟨attested, attests, wrote⟩ | ⟨none, files, written⟩
  · have reads : readAttestation (world.step sha256File call).dir path =
        if safePathPart attested.record.artifactPath = safePathPart path then
          some attested.record.readBack
        else readAttestation world.dir path := by
      rw [wrote]
      exact readAttestation_write world.dir attested.record path
    have lasts : lastFor normalise path (world.step sha256File call).written =
        if normalise attested.record.artifactPath = normalise path then some attested
        else lastFor normalise path world.written := by
      rw [wrote]
      exact lastFor_cons attested world.written
    constructor
    · rintro ⟨⟨read, _⟩, _⟩ other same
      rw [attests] at same
      cases same
      rw [reads, lasts] at read
      by_cases named : safePathPart attested.record.artifactPath = safePathPart path
      · rw [if_pos named] at read
        by_cases own : normalise attested.record.artifactPath = normalise path
        · rw [if_pos own] at read
          exact ⟨iff_of_true named own, fun _ =>
            (readBack_eq_iff attested.record).mp (Option.some.inj read)⟩
        · -- the record of another path is read, which is not the last one for this path
          rw [if_neg own] at read
          obtain ⟨last, found, same⟩ := Option.map_eq_some_iff.mp read.symm
          have ofPath := lastFor_path found
          rw [same] at ofPath
          exact absurd ofPath own
      · rw [if_neg named] at read
        by_cases own : normalise attested.record.artifactPath = normalise path
        · -- the record is not read, since its file has another name
          rw [if_pos own, Option.map_some] at read
          exact absurd (sound.filed.read read) named
        · exact ⟨iff_of_false named own, fun same => absurd same own⟩
    · intro separated
      obtain ⟨agrees, filled⟩ := separated attested attests
      have read : readAttestation (world.step sha256File call).dir path =
          (lastFor normalise path (world.step sha256File call).written).map
            Attested.record := by
        rw [reads, lasts]
        by_cases own : normalise attested.record.artifactPath = normalise path
        · rw [if_pos (agrees.mpr own), if_pos own, Option.map_some,
            (readBack_eq_iff attested.record).mpr (filled own)]
        · rw [if_neg (fun named => own (agrees.mp named)), if_neg own]
          exact lawful.read
      refine ⟨lawful_of_read injective honest read, fun other same apart => ?_⟩
      rw [attests] at same
      cases same
      have unread : readAttestation (world.step sha256File call).dir path =
          readAttestation world.dir path := by
        rw [reads, if_neg fun named => apart (agrees.mp named)]
      refine ⟨unread, ?_⟩
      have artifacts : (world.step sha256File call).dir.artifacts = world.dir.artifacts := by
        rw [wrote]
        rfl
      unfold verifyFileArtifact
      rw [unread, artifacts]
  · have read : readAttestation (world.step sha256File call).dir path =
        (lastFor normalise path (world.step sha256File call).written).map Attested.record := by
      rw [readAttestation, files, written]
      exact lawful.read
    refine iff_of_true ⟨lawful_of_read injective honest read, fun attested attests => ?_⟩
      fun attested attests => ?_
    · rw [none] at attests
      cases attests
    · rw [none] at attests
      cases attests

theorem sound_start (artifacts : String → Option α) :
    Sound sha256File (World.start artifacts) where
  filed name document found := by cases found
  honest attested member := by cases member

theorem lawful_start (artifacts : String → Option α) :
    Lawful sha256File normalise path (World.start artifacts) where
  read := rfl
  verified := by
    refine iff_of_false Bool.false_ne_true ?_
    rintro ⟨_, _, _, ⟨⟩, _⟩

/-- In every state of every run the record written last for a path is read, and
verification compares the artifact with it, if and only if no call attests a
path that its file name confuses with the given one, or separates from it
although both are the same, or writes a record without a schema version for it. -/
theorem attestations_lawful_iff (injective : Function.Injective sha256File)
    (artifacts : String → Option α) (calls : List (Call α)) :
    Runs.Along (World.step sha256File) (LawfulStep sha256File normalise path)
        (World.start artifacts) calls ↔
      Runs.Along (World.step sha256File) (Separated sha256File normalise path)
        (World.start artifacts) calls :=
  Runs.along_congr
    (fun world => Sound sha256File world ∧ Lawful sha256File normalise path world)
    (fun _ _ reached lawful => ⟨reached.1.step, lawful.lawful⟩)
    (fun _ _ reached => lawfulStep_iff injective reached.1 reached.2)
    ⟨sound_start artifacts, lawful_start artifacts⟩ calls

end Steps

/-- Whether a path is absolute, and its components. -/
def lexical (path : String) : Bool × List (List Char) :=
  (PosixPath.isAbsolute path.toList, PosixPath.parts path.toList)

/-- The digests of the files that hold one digit, zero or one. -/
def digitSha256 (one : Bool) : Sha256 :=
  if one then
    ⟨"6b86b273ff34fce19d6b804eff5a3f5747ada4eaa22f1d49c01e52ddb7875b4b", by decide +kernel⟩
  else ⟨"5feceb66ffc86f38d952786c6d696c79c2dbc239dd4e91b46729d73a27fb57e9", by decide +kernel⟩

def attestBriefing (path : String) : Call Bool :=
  .attestFileArtifact { artifactPath := path, kind := .roleBriefing }

theorem digitSha256_injective : Function.Injective digitSha256 := by
  intro first second same
  cases first <;> cases second
  · rfl
  · exact absurd (congrArg Subtype.val same) (by decide)
  · exact absurd (congrArg Subtype.val same) (by decide)
  · rfl

/-- A briefing is attested, another one is attested, and the first one is changed. -/
theorem briefings_lawful :
    Runs.Along (World.step digitSha256) (LawfulStep digitSha256 lexical "briefs/dev.md")
      (World.start fun _ => some true)
      [attestBriefing "briefs/dev.md", attestBriefing "briefs/qa.md",
        .changeArtifacts fun _ => some false] := by
  refine (attestations_lawful_iff digitSha256_injective _ _).mpr ⟨?_, ?_, nofun, True.intro⟩
  · rintro attested ⟨⟩
    exact ⟨by decide +kernel, by decide +kernel⟩
  · rintro attested ⟨⟩
    exact ⟨by decide +kernel, by decide +kernel⟩

/-- Another path with the same file name takes the place of the record, and the
unchanged artifact counts as tampered with. -/
theorem underscored_path_replaces_record :
    let artifacts : String → Option Bool := fun path => some (path = "briefs/dev.md")
    let calls := [attestBriefing "briefs/dev.md", attestBriefing "briefs__dev.md"]
    let reached := Runs.run (World.step digitSha256) (World.start artifacts) calls
    lexical "briefs/dev.md" ≠ lexical "briefs__dev.md" ∧
      (readAttestation reached.dir "briefs/dev.md").map Attestation.artifactPath =
        some "briefs__dev.md" ∧
      (verifyFileArtifact digitSha256 reached.dir "briefs/dev.md").matched = false ∧
      ¬Runs.Along (World.step digitSha256) (LawfulStep digitSha256 lexical "briefs/dev.md")
        (World.start artifacts) calls := by
  intro artifacts calls reached
  refine ⟨by decide +kernel, by decide +kernel, by decide +kernel, ?_⟩
  rintro ⟨_, ⟨⟨read, _⟩, _⟩, _⟩
  exact absurd (congrArg (Option.map Attestation.artifactPath) read) (by decide +kernel)

end ZaofuFormal.Security.Attestations
