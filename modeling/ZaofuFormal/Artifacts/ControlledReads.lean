import ZaofuFormal.Artifacts.SealedReads

/-!
# Controlled reads

A worker reads the artifacts of its manifest through a checked call that
selects a part of the artifact, may shorten it by a number of items or of
characters, and records what it did as a row of the attempt's ledger.  The
input-consumption policy of the attempt is later held against the sealed
ledger.
-/

namespace ZaofuFormal.Artifacts.ControlledReads

open Foundation Foundation.JsonText Foundation.Runs ReadLedger

abbrev Bytes := List UInt8

/-- The host, the two readings of bytes as text, and the decimal digits of Unicode. -/
structure Reader extends Host where
  digest : Bytes → String
  decode : Bytes → Option String
  decodeReplace : Bytes → String
  decimal : Char → Option Nat

/-- `str(value or default)`. -/
def textOr (value : Json) (default : String) : String :=
  if value.truthy then value.pyStr else default

def values : Json → List String
  | .arr items => (items.map fun item => PyString.strip item.pyStr).filter (· ≠ "")
  | _ => []

/-- The names under the plural field and the one under the older singular field. -/
def inScope (scope : Json) (plural singular : String) : List String :=
  let legacy := PyString.strip (scope.textAt singular)
  values (scope.get plural) ++ if legacy ≠ "" then [legacy] else []

def artifactAccessAllowed (scopeValue : Json) (actor role purpose : String) : Bool :=
  let scope := scopeValue.objectOrEmpty
  let visibility := PyString.strip (textOr (scope.get "visibility") "project")
  let actors := inScope scope "actors" "actor"
  let roles := inScope scope "roles" "role"
  let purposes := inScope scope "purposes" "purpose"
  if visibility ≠ "project" ∧ visibility ≠ "public" then false
  else if actors ≠ [] ∧ ¬(PyString.strip actor ∈ actors ∨ PyString.strip role ∈ actors) then false
  else if roles ≠ [] ∧ PyString.strip role ∉ roles then false
  else if purposes ≠ [] ∧ PyString.strip purpose ∉ purposes then false
  else true

def isKeyChar (char : Char) : Bool := char.isAlphanum || char == '_' || char == '-'

inductive Token where
  | key (text : List Char)
  | index (digits : List Char)

def Token.text : Token → List Char
  | .key text => text
  | .index digits => '[' :: (digits ++ [']'])

variable (reader : Reader)

/-- The field names and indices of a path from left to right; other characters are
passed over.  One unit of fuel for every character is enough. -/
def tokens : Nat → List Char → List Token
  | 0, _ => []
  | _ + 1, [] => []
  | fuel + 1, char :: rest =>
      if isKeyChar char then
        .key (char :: rest.takeWhile isKeyChar) :: tokens fuel (rest.dropWhile isKeyChar)
      else if char = '[' then
        let digits := rest.takeWhile fun digit => (reader.decimal digit).isSome
        match rest.dropWhile fun digit => (reader.decimal digit).isSome with
        | close :: after =>
            if digits ≠ [] ∧ close = ']' then .index digits :: tokens fuel after
            else tokens fuel rest
        | [] => tokens fuel rest
      else tokens fuel rest

/-- Drop every dot that a field name follows. -/
def dropDots : List Char → List Char
  | [] => []
  | [char] => [char]
  | char :: next :: rest =>
      if char = '.' ∧ isKeyChar next then dropDots (next :: rest)
      else char :: dropDots (next :: rest)

def position (digits : List Char) : Nat :=
  digits.foldl (fun value digit => 10 * value + (reader.decimal digit).getD 0) 0

def follow (consumed : String) : Json → List Token → Except String Json
  | current, [] => .ok current
  | current, .key text :: rest =>
      let key := String.ofList text
      match Dict.find key current.fields with
      | none => .error ("json_path missing at " ++ consumed ++ "." ++ key)
      | some next => follow (consumed ++ "." ++ key) next rest
  | current, .index digits :: rest =>
      let place := consumed ++ s!"[{position reader digits}]"
      match current with
      | .arr items =>
          match items[position reader digits]? with
          | none => .error ("json_path index missing at " ++ place)
          | some next => follow place next rest
      | _ => .error ("json_path index missing at " ++ place)

/-- `_select_json_path`. -/
def selectJsonPath (value : Json) (path : String) : Except String Json :=
  if path = "$" then .ok value
  else if PyString.startsWith path "$." = false then
    .error "json_path must use the supported $.field[index] form"
  else do
    let chars := path.toList.drop 2
    let found := tokens reader chars.length chars
    let current ← follow reader "$" value found
    if dropDots chars ≠ found.flatMap Token.text then
      .error "json_path contains unsupported syntax"
    else .ok current

/-- The value of an artifact at a path; a text that is no JSON is itself the whole value. -/
def valueAt (raw : Bytes) (path : String) : Except String Json :=
  let decoded := (reader.decode raw).bind fun text => loads reader.float text.toList
  if path ≠ "$" then
    match decoded with
    | none => .error "json_path requires a JSON artifact"
    | some value => selectJsonPath reader value path
  else .ok (decoded.getD (.str (reader.decodeReplace raw)))

/-- `_limit_items`. -/
def limitItems (value : Json) (maxItems : Int) : Json :=
  if maxItems ≤ 0 then value
  else
    match value with
    | .arr items => .arr (items.take maxItems.toNat)
    | .obj fields => .obj (fields.take maxItems.toNat)
    | other => other

def lineStart (indent : Nat) : List Char := newline :: List.replicate indent ' '

def bracketed (indent : Nat) (opening closing : Char) (parts : List (List Char)) : List Char :=
  if parts = [] then [opening, closing]
  else
    opening :: (lineStart (indent + 2) ++ (',' :: lineStart (indent + 2)).intercalate parts ++
      lineStart indent ++ [closing])

mutual

/-- `json.dumps(value, ensure_ascii=False, indent=2)`. -/
def dumpsIndented (indent : Nat) : Json → List Char
  | .arr items => bracketed indent '[' ']' (dumpsIndentedItems (indent + 2) items)
  | .obj fields => bracketed indent openBrace closeBrace (dumpsIndentedFields (indent + 2) fields)
  | scalar => dumps scalar

def dumpsIndentedItems (indent : Nat) : List Json → List (List Char)
  | [] => []
  | item :: rest => dumpsIndented indent item :: dumpsIndentedItems indent rest

def dumpsIndentedFields (indent : Nat) : List (String × Json) → List (List Char)
  | [] => []
  | (key, value) :: rest =>
      (quoted key ++ ':' :: ' ' :: dumpsIndented indent value) :: dumpsIndentedFields indent rest

end

/-- `_encode_selected`. -/
def encodeSelected : Json → List Char
  | .str text => text.toList
  | value => dumpsIndented 0 value

/-- The arguments of a call with the clock and the artifact files it meets: a reference
resolves to the bytes of a file, to nothing, or is refused. -/
structure Call where
  manifest : Json
  sourceId : String
  artifactId : String
  jsonPath : String
  maxItems : Int
  maxChars : Int
  actor : String
  role : String
  provider : String
  purpose : String
  readAt : String
  files : String → Except String (Option Bytes)

def findSource (manifest : Json) (sourceId artifactId : String) : Option Json :=
  let items := match manifest.get "sources" with
    | .arr items => items
    | _ => []
  items.find? fun item =>
    item.isObject && item.textAt "source_id" == sourceId && item.textAt "artifact_id" == artifactId

/-- `_strings`. -/
def strings : Json → List String
  | .arr items => (items.map fun item => PyString.strip item.pyStr).filter (· ≠ "")
  | value => if value.truthy then [PyString.strip value.pyStr].filter (· ≠ "") else []

def clip (length : Nat) (text : String) : String := String.ofList (text.toList.take length)

namespace Call

def readPurpose (call : Call) : String :=
  PyString.strip (if call.purpose ≠ "" then call.purpose else call.manifest.textAt "read_purpose")

def deniedRow (call : Call) (source : Json) : Row where
  entries := [
    ("schema_version", .str artifactReadSchema),
    ("status", .str "denied"),
    ("workflow_run_id", .str (clip 160 (call.manifest.textAt "workflow_run_id"))),
    ("task_id", .str (clip 160 (call.manifest.textAt "task_id"))),
    ("attempt_id", .str (clip 160 (call.manifest.textAt "attempt_id"))),
    ("dispatch_id", .str (clip 160 (call.manifest.textAt "dispatch_id"))),
    ("source_id", .str (clip 160 call.sourceId)),
    ("artifact_id", .str (clip 160 call.artifactId)),
    ("json_path", .str (clip 256 (if call.jsonPath ≠ "" then call.jsonPath else "$"))),
    ("returned_bytes", .int 0),
    ("truncated", .bool false),
    ("consumer_actor", .str (clip 160 call.actor)),
    ("consumer_role", .str (clip 160 call.role)),
    ("consumer_provider", .str (clip 160 call.provider)),
    ("consumer_purpose", .str (clip 160 call.readPurpose)),
    ("occurrence_id", .str (clip 256 (source.textAt "occurrence_id"))),
    ("denial_code", .str "artifact_access_denied"),
    ("read_at", .str call.readAt)]
  nodupKeys := by simp

def readRow (call : Call) (source : Json) (raw : Bytes) (returned : List Char)
    (truncated : Bool) : Row where
  entries := [
    ("schema_version", .str artifactReadSchema),
    ("status", .str "read"),
    ("workflow_run_id", .str (call.manifest.textAt "workflow_run_id")),
    ("task_id", .str (call.manifest.textAt "task_id")),
    ("attempt_id", .str (call.manifest.textAt "attempt_id")),
    ("dispatch_id", .str (call.manifest.textAt "dispatch_id")),
    ("source_id", .str call.sourceId),
    ("artifact_id", .str call.artifactId),
    ("artifact_ref", .str (source.textAt "ref")),
    ("artifact_sha256", .str (reader.digest raw)),
    ("json_path", .str call.jsonPath),
    ("bytes", .int raw.length),
    ("returned_bytes", .int (byteCount returned)),
    ("truncated", .bool truncated),
    ("max_items", .int call.maxItems),
    ("max_chars", .int call.maxChars),
    ("consumer_actor", .str call.actor),
    ("consumer_role", .str call.role),
    ("consumer_provider", .str call.provider),
    ("consumer_purpose", .str call.readPurpose),
    ("occurrence_id", .str (source.textAt "occurrence_id")),
    ("read_at", .str call.readAt)]
  nodupKeys := by simp

/-- The bytes that an authorised call reads, with the checks before it reads them. -/
def artifact (call : Call) (source : Json) : Except String Bytes := do
  let allowed := strings (source.get "allowed_paths")
  let allowed := if allowed = [] then ["$"] else allowed
  if "$" ∉ allowed ∧ call.jsonPath ∉ allowed then
    .error ("json_path " ++ Json.reprString call.jsonPath ++ " is not allowed for " ++
      call.sourceId ++ "/" ++ call.artifactId)
  else
    let ref := source.textAt "ref"
    match ← call.files ref with
    | none => .error ("artifact ref missing: " ++ ref)
    | some raw =>
        let expected := source.textAt "sha256"
        if expected ≠ "" ∧ reader.digest raw ≠ expected then
          .error ("artifact hash mismatch for " ++ ref ++ ": expected " ++ expected ++ ", got " ++
            reader.digest raw)
        else .ok raw

/-- What is returned of a value: its encoding after the item limit, and whether the
character limit cut it. -/
def returned (call : Call) (value : Json) : List Char × Bool :=
  let encoded := encodeSelected (limitItems value call.maxItems)
  if 0 < call.maxChars ∧ call.maxChars < encoded.length then
    (encoded.take call.maxChars.toNat, true)
  else (encoded, false)

/-- `read_attempt_artifact` up to the append: the row to record with what is returned, or
the row of a denial, or an error that leaves no trace. -/
def outcome (call : Call) : Except String (Row × Option (List Char)) :=
  match findSource call.manifest call.sourceId call.artifactId with
  | none => .error ("source not found: " ++ call.sourceId ++ "/" ++ call.artifactId)
  | some source =>
      if artifactAccessAllowed (source.get "access_scope") call.actor call.role
          call.readPurpose = false then
        .ok (call.deniedRow source, none)
      else do
        let raw ← call.artifact reader source
        let value ← valueAt reader raw call.jsonPath
        let result := call.returned value
        .ok (call.readRow reader source raw result.1 result.2, some result.1)

end Call

/-- `read_attempt_artifact`: the content that a call returns. -/
def readAttemptArtifact (call : Call) (files : Files) : Except String (List Char) := do
  let found ← call.outcome reader
  let _ ← appendArtifactRead found.1 files
  match found.2 with
  | none => .error "artifact read is not authorized"
  | some content => .ok content

end ZaofuFormal.Artifacts.ControlledReads
