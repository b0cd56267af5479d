import ZaofuFormal.Events.SignedLines
import ZaofuFormal.Foundation.Fallible
import ZaofuFormal.Foundation.JsonOutcomes

/-!
# Lines that break a read

A line that is no event is skipped or stands as an `event.malformed` event.  The
branch of the envelopes builds its events before any check of their shape: an event
that is no object, a signature that is no text, and a first event without a type
leave the decoder as exceptions, and one such line ends the read of the whole file.
So do an integer with too many digits, too deep a nesting, and a surrogate in what
is to be signed.

The decoder is modelled with all of these outcomes: the values of a line are those
of `json.loads`, and the limits of the interpreter are parameters.
-/

namespace ZaofuFormal.Events.UnreadableLines

open Foundation JsonOutcomes
open SignedLines (Stamp Draws lineText allLines linesFrom)

structure ZfEvent where
  type : Value
  id : Value
  ts : Value
  actor : Value := .null
  taskId : Value := .null
  payload : Value := .obj []
  causationId : Value := .null
  correlationId : Value := .null
  origin : Value := .ofText ""

def ZfEvent.asdict (event : ZfEvent) : List (Points × Value) :=
  [("type", event.type), ("id", event.id), ("ts", event.ts), ("actor", event.actor),
    ("task_id", event.taskId), ("payload", event.payload), ("causation_id", event.causationId),
    ("correlation_id", event.correlationId), ("origin", event.origin)].map fun member =>
      (points member.1.toList, member.2)

/-- The exceptions that leave a read; `missingType` is the `TypeError` of the constructor. -/
inductive Raised where
  | attributeError
  | missingType
  | typeError
  | valueError
  | recursionError
  | unicodeEncodeError
  deriving DecidableEq

/-- What the interpreter can carry where the decoder calls it: the digits of an integer, and
the nesting of lists and objects in `json.loads`, in the `json.loads` of `from_json`, in
`json.dumps` and in `to_json`. -/
structure Limits where
  digits : Nat
  loads : Nat
  reloads : Nat
  dumps : Nat
  toJson : Nat

structure EventLog where
  signer : Option (List Char → String)
  allowUnsigned : Bool
  float : List Char → List Char
  limits : Limits

def find (name : String) (fields : List (Points × Value)) : Option Value :=
  Dict.find (points name.toList) fields

/-- Members that are no field are left out; absent fields get their defaults. -/
def construct (stamp : Stamp) (type : Value) (data : List (Points × Value)) : ZfEvent where
  type
  id := (find "id" data).getD (.ofText stamp.id)
  ts := (find "ts" data).getD (.ofText stamp.ts)
  actor := (find "actor" data).getD .null
  taskId := (find "task_id" data).getD .null
  payload := (find "payload" data).getD (.obj [])
  causationId := (find "causation_id" data).getD .null
  correlationId := (find "correlation_id" data).getD .null
  origin := (find "origin" data).getD (.ofText "")

def fromDict (stamp : Stamp) : Value → Except Raised ZfEvent
  | .obj data =>
      match find "type" data with
      | none => .error .missingType
      | some type => .ok (construct stamp type data)
  | _ => .error .attributeError

def ZfEvent.toJson (limits : Limits) (event : ZfEvent) : Except Raised Points :=
  if (Value.obj event.asdict).depth ≤ limits.toJson then .ok (compact (.obj event.asdict))
  else .error .recursionError

/-- `hmac.compare_digest` of a hexadecimal digest and a decoded value. -/
def compareDigest (expected : String) : Value → Except Raised Bool
  | .str signature =>
      if signature.all fun point => decide (point < 128) then
        .ok (points expected.toList == signature)
      else .error .typeError
  | _ => .error .typeError

/-- `EventSigner.sign`, where `sign` is the keyed digest of a text. -/
def signText (sign : List Char → String) (eventJson : Points) : Except Raised String :=
  match encode? eventJson with
  | some text => .ok (sign text)
  | none => .error .unicodeEncodeError

/-- `EventSigner.verify`. -/
def verify (sign : List Char → String) (eventJson : Points) (signature : Value) :
    Except Raised Bool :=
  (signText sign eventJson).bind fun expected => compareDigest expected signature

/-- The event that stands for a line that does not decode. -/
def malformed (stamp : Stamp) (line error : String) : ZfEvent where
  type := .ofText "event.malformed"
  id := .ofText stamp.id
  ts := .ofText stamp.ts
  actor := .ofText "zf-cli"
  payload := .obj [(points "line".toList, .str (points (line.toList.take 200))),
    (points "error".toList, .ofText error)]

/-- Does the signature hold for one of the two texts of the event? -/
def accepted (log : EventLog) (sign : List Char → String) (stamp : Stamp)
    (event signature : Value) : Except Raised Bool :=
  (verify sign (spaced event) signature).bind fun raw =>
    if raw then .ok true
    else (fromDict stamp event).bind fun fresh =>
      (fresh.toJson log.limits).bind fun text => verify sign text signature

/-- The event of an envelope whose signature holds. -/
def openEnvelope (draws : Draws) (line : String) (event : Value) :
    Except Raised (Option ZfEvent) :=
  match fromDict draws.returned event with
  | .error .missingType => .ok (some (malformed draws.returned line SignedLines.missingType))
  | made => made.map some

def decodeEnvelope (log : EventLog) (draws : Draws) (line : String) (event signature : Value) :
    Except Raised (Option ZfEvent) :=
  if log.limits.dumps < event.depth then .error .recursionError
  else match log.signer with
    | none => openEnvelope draws line event
    | some sign =>
        (accepted log sign draws.fresh event signature).bind fun holds =>
          if holds then openEnvelope draws line event else .ok none

/-- `json.loads` at one place: a text that is no JSON gives nothing. -/
def load (log : EventLog) (nesting : Nat) (line : String) : Except Raised (Option Value) :=
  match loads log.float log.limits.digits nesting line.toList with
  | .ok value => .ok (some value)
  | .error .decodeError => .ok none
  | .error .valueError => .error .valueError
  | .error .recursionError => .error .recursionError

/-- What is wrong with a line without an envelope, where such lines are read. -/
def shapeError? : Value → Option String
  | .obj fields =>
      match find "type" fields with
      | some (.str _) =>
          match find "payload" fields with
          | none | some .null | some (.obj _) => none
          | some _ => some "`payload` must be a dict"
      | _ => some "missing or non-string `type`"
  | _ => some "top-level must be object"

/-- `from_json`, which reads the text a second time. -/
def decodePlain (log : EventLog) (draws : Draws) (line : String) (value : Value) :
    Except Raised (Option ZfEvent) :=
  match shapeError? value with
  | some error => .ok (some (malformed draws.returned line error))
  | none => (load log log.limits.reloads line).bind fun _ => openEnvelope draws line value

/-- The event and the signature of an envelope. -/
def envelope? : Value → Option (Value × Value)
  | .obj fields =>
      (find "event" fields).bind fun event =>
        (find "sig" fields).map fun signature => (event, signature)
  | _ => none

def decodeValue (log : EventLog) (draws : Draws) (line : String) (value : Value) :
    Except Raised (Option ZfEvent) :=
  match envelope? value with
  | some (event, signature) => decodeEnvelope log draws line event signature
  | none =>
      if log.signer.isSome ∧ log.allowUnsigned = false then
        .ok (some (malformed draws.returned line
          "unsigned event line rejected: event signing is enabled"))
      else decodePlain log draws line value

def decode (log : EventLog) (draws : Draws) (line : String) : Except Raised (Option ZfEvent) :=
  (load log log.limits.loads line).bind fun value =>
    match value with
    | none => .ok none
    | some value => decodeValue log draws line value

/-- The lines in their order, each with its own draws; an exception ends the read. -/
def readLines (log : EventLog) (draws : Nat → Draws) : List Bytes → Nat →
    Except Raised (List ZfEvent)
  | [], _ => .ok []
  | raw :: rest, index =>
      if lineText raw = "" then readLines log draws rest (index + 1)
      else (decode log (draws index) (lineText raw)).bind fun event =>
        (readLines log draws rest (index + 1)).map fun events => event.toList ++ events

def readAll (log : EventLog) (draws : Nat → Draws) (files : LogFiles) :
    Except Raised (List ZfEvent) :=
  readLines log draws (allLines files) 0

def readFromOffset (log : EventLog) (draws : Nat → Draws) (offset : Nat) (files : LogFiles) :
    Except Raised (List ZfEvent) :=
  readLines log draws (linesFrom offset files) 0

/-- Does the computation return? -/
def Returns {α : Type} (computed : Except Raised α) : Prop := ∃ result, computed = .ok result

theorem returns_ok {α : Type} (result : α) : Returns (.ok result) := ⟨result, rfl⟩

theorem not_returns_error {α : Type} (raised : Raised) :
    ¬ Returns (.error raised : Except Raised α) := by
  rintro ⟨_, same⟩
  cases same

theorem returns_bind_iff {α β : Type} {first : Except Raised α} {next : α → Except Raised β} :
    Returns (first.bind next) ↔ ∃ value, first = .ok value ∧ Returns (next value) := by
  cases first with
  | error raised =>
      refine iff_of_false (not_returns_error raised) ?_
      rintro ⟨_, same, _⟩
      cases same
  | ok value =>
      refine ⟨fun returns => ⟨value, rfl, returns⟩, ?_⟩
      rintro ⟨_, same, returns⟩
      cases same
      exact returns

/-- A signature that can be compared with a digest. -/
def Comparable (signature : Value) : Prop :=
  ∃ text, signature = .str text ∧ ∀ point ∈ text, point < 128

/-- The signature of a text. -/
def signatureOf (sign : List Char → String) (text : Points) : Value :=
  .ofText (sign (text.map Char.ofNat))

/-- There is an event to make the second text of, and it does not nest too deep. -/
def Remade (limits : Limits) (event : Value) : Prop :=
  ∃ fields type, event = .obj fields ∧ find "type" fields = some type ∧
    (Value.obj (construct ⟨"", ""⟩ type fields).asdict).depth ≤ limits.toJson

/-- An envelope that is opened or refused without an exception. -/
structure Guarded (log : EventLog) (event signature : Value) : Prop where
  nesting : event.depth ≤ log.limits.dumps
  object : ∃ fields, event = .obj fields
  signed : ∀ sign, log.signer = some sign → event.Clean ∧ Comparable signature ∧
    (signature = signatureOf sign (spaced event) ∨ Remade log.limits event)

variable {sign : List Char → String} {signature event : Value} {log : EventLog} {draws : Draws}
  {line : String}

theorem verify_ok (sign : List Char → String) {text : Points} (encodable : Encodable text)
    (comparable : Comparable signature) : ∃ holds, verify sign text signature = .ok holds ∧
      (holds = true ↔ signature = signatureOf sign text) := by
  obtain ⟨other, rfl, ascii⟩ := comparable
  have every : (other.all fun point => decide (point < 128)) = true :=
    List.all_eq_true.mpr fun point member => decide_eq_true (ascii point member)
  refine ⟨points (sign (text.map Char.ofNat)).toList == other, ?_, ?_⟩
  · rw [verify, signText, encode?_of_encodable encodable]
    exact if_pos every
  · rw [beq_iff_eq, signatureOf, Value.ofText, Value.str.injEq]
    exact eq_comm

theorem of_verify_returns {text : Points} (returns : Returns (verify sign text signature)) :
    Encodable text ∧ Comparable signature := by
  obtain ⟨digest, signed, compared⟩ := returns_bind_iff.mp returns
  constructor
  · unfold signText at signed
    cases encoded : encode? text with
    | some chars => exact encodable_of_encode? encoded
    | none =>
        rw [encoded] at signed
        cases signed
  · cases signature with
    | str other =>
        by_cases ascii : (other.all fun point => decide (point < 128)) = true
        · refine ⟨other, rfl, fun point member => ?_⟩
          exact of_decide_eq_true (List.all_eq_true.mp ascii point member)
        · rw [compareDigest, if_neg ascii] at compared
          exact absurd compared (not_returns_error _)
    | _ => exact absurd compared (not_returns_error _)

/-- What is drawn changes neither the depth of an event nor its strings' surrogates. -/
theorem depth_construct (stamp : Stamp) (type : Value) (fields : List (Points × Value)) :
    (Value.obj (construct stamp type fields).asdict).depth =
      (Value.obj (construct ⟨"", ""⟩ type fields).asdict).depth := by
  have drawn (found : Option Value) (text : String) :
      (found.getD (.ofText text)).depth = (found.getD (.ofText "")).depth := by
    cases found <;> rfl
  have id := drawn (find "id" fields) stamp.id
  have ts := drawn (find "ts" fields) stamp.ts
  simp only [construct, ZfEvent.asdict, List.map_cons, List.map_nil, Value.depth, fieldsDepth, id,
    ts]

theorem clean_construct (stamp : Stamp) {type : Value} {fields : List (Points × Value)}
    (clean : (Value.obj fields).Clean) (typed : find "type" fields = some type) :
    (Value.obj (construct stamp type fields).asdict).Clean := by
  have text (text : String) : (Value.ofText text).Clean := encodable_points text.toList
  have member (name : String) (default : Value) (fallback : default.Clean) :
      ((find name fields).getD default).Clean := by
    cases found : find name fields with
    | none => exact fallback
    | some value => exact clean_of_find clean found
  have named (name : String) : Encodable (points name.toList) := encodable_points _
  exact ⟨⟨named "type", clean_of_find clean typed⟩, ⟨named "id", member "id" _ (text _)⟩,
    ⟨named "ts", member "ts" _ (text _)⟩, ⟨named "actor", member "actor" _ trivial⟩,
    ⟨named "task_id", member "task_id" _ trivial⟩, ⟨named "payload", member "payload" _ trivial⟩,
    ⟨named "causation_id", member "causation_id" _ trivial⟩,
    ⟨named "correlation_id", member "correlation_id" _ trivial⟩,
    ⟨named "origin", member "origin" _ (text _)⟩, trivial⟩

/-- The second text of an event is made and compared just where there is one. -/
theorem fresh_returns_iff {stamp : Stamp} (clean : event.Clean)
    (comparable : Comparable signature) :
    Returns ((fromDict stamp event).bind fun fresh =>
      (fresh.toJson log.limits).bind fun text => verify sign text signature) ↔
        Remade log.limits event := by
  rw [returns_bind_iff]
  constructor
  · rintro ⟨fresh, made, returns⟩
    obtain ⟨text, written, _⟩ := returns_bind_iff.mp returns
    cases event with
    | obj fields =>
        unfold fromDict at made
        cases typed : find "type" fields with
        | none =>
            simp only [typed] at made
            cases made
        | some type =>
            simp only [typed] at made
            cases made
            refine ⟨fields, type, rfl, typed, ?_⟩
            unfold ZfEvent.toJson at written
            split at written
            · rename_i within
              rwa [depth_construct] at within
            · cases written
    | _ => cases made
  · rintro ⟨fields, type, rfl, typed, within⟩
    refine ⟨construct stamp type fields, by rw [fromDict, typed], returns_bind_iff.mpr ?_⟩
    refine ⟨_, if_pos (by rwa [depth_construct]), ?_⟩
    obtain ⟨holds, verified, _⟩ := verify_ok sign
      ((encodable_compact_iff _).mpr (clean_construct stamp clean typed)) comparable
    exact ⟨holds, verified⟩

/-- The check of a signature ends with a verdict where the event can be signed and the
signature compared, and the signature holds for the first text or there is a second one. -/
theorem accepted_returns_iff {stamp : Stamp} : Returns (accepted log sign stamp event signature) ↔
      event.Clean ∧ Comparable signature ∧
        (signature = signatureOf sign (spaced event) ∨ Remade log.limits event) := by
  by_cases checked : Encodable (spaced event) ∧ Comparable signature
  · obtain ⟨encodable, comparable⟩ := checked
    have clean := (encodable_spaced_iff event).mp encodable
    obtain ⟨raw, verified, holds⟩ := verify_ok sign encodable comparable
    rw [accepted, verified, Except.bind, and_iff_right clean, and_iff_right comparable, ← holds]
    cases raw with
    | true => exact iff_of_true (returns_ok _) (Or.inl rfl)
    | false =>
        rw [if_neg Bool.false_ne_true, fresh_returns_iff clean comparable]
        exact ⟨Or.inr, fun either => either.resolve_left Bool.false_ne_true⟩
  · refine iff_of_false (fun returns => ?_) fun all => ?_
    · obtain ⟨raw, verified, _⟩ := returns_bind_iff.mp returns
      exact checked (of_verify_returns ⟨raw, verified⟩)
    · exact checked ⟨(encodable_spaced_iff event).mpr all.1, all.2.1⟩

theorem openEnvelope_returns_iff :
    Returns (openEnvelope draws line event) ↔ ∃ fields, event = .obj fields := by
  cases event with
  | obj fields =>
      refine iff_of_true ?_ ⟨fields, rfl⟩
      rw [openEnvelope, fromDict]
      cases find "type" fields with
      | none => exact returns_ok _
      | some type => exact returns_ok _
  | _ =>
      refine iff_of_false (not_returns_error _) ?_
      rintro ⟨_, ⟨⟩⟩

theorem decodeEnvelope_returns_iff :
    Returns (decodeEnvelope log draws line event signature) ↔ Guarded log event signature := by
  unfold decodeEnvelope
  by_cases deep : log.limits.dumps < event.depth
  · rw [if_pos deep]
    exact iff_of_false (not_returns_error _) fun guarded => not_lt.mpr guarded.nesting deep
  rw [if_neg deep]
  cases signed : log.signer with
  | none =>
      refine openEnvelope_returns_iff.trans ⟨fun object => ⟨not_lt.mp deep, object, ?_⟩,
        Guarded.object⟩
      intro sign same
      rw [signed] at same
      cases same
  | some sign =>
      have guarded : Guarded log event signature ↔
          Returns (accepted log sign draws.fresh event signature) ∧ ∃ fields, event = .obj fields := by
        rw [accepted_returns_iff]
        refine ⟨fun guarded => ⟨guarded.signed sign signed, guarded.object⟩, fun both => ?_⟩
        refine ⟨not_lt.mp deep, both.2, fun other same => ?_⟩
        obtain rfl := Option.some.inj (signed.symm.trans same)
        exact both.1
      rw [guarded, returns_bind_iff]
      constructor
      · rintro ⟨holds, verdict, opened⟩
        refine ⟨⟨holds, verdict⟩, ?_⟩
        cases holds with
        | true => exact openEnvelope_returns_iff.mp opened
        | false =>
            -- only for the second text is a signature found not to hold
            obtain ⟨raw, verified, rest⟩ := returns_bind_iff.mp ⟨false, verdict⟩
            rw [accepted, verified] at verdict
            cases raw with
            | true => cases verdict
            | false =>
                obtain ⟨fresh, made, _⟩ := returns_bind_iff.mp rest
                cases event with
                | obj fields => exact ⟨fields, rfl⟩
                | _ => cases made
      · rintro ⟨⟨holds, verdict⟩, object⟩
        refine ⟨holds, verdict, ?_⟩
        cases holds with
        | true => exact openEnvelope_returns_iff.mpr object
        | false => exact returns_ok _

/-- The line is a value or no JSON at all: the decoder ends in no other exception. -/
def Loads (log : EventLog) (nesting : Nat) (line : String) : Prop :=
  ∀ failure, loads log.float log.limits.digits nesting line.toList = .error failure →
    failure = .decodeError

/-- A line that is loaded, whose envelope, where it has one, is guarded, and which is loaded
again, where it is read as an event without an envelope. -/
structure Readable (log : EventLog) (line : String) : Prop where
  loaded : Loads log log.limits.loads line
  envelope : ∀ value event signature,
    loads log.float log.limits.digits log.limits.loads line.toList = .ok value →
    envelope? value = some (event, signature) → Guarded log event signature
  plain : ∀ value, loads log.float log.limits.digits log.limits.loads line.toList = .ok value →
    envelope? value = none → (log.signer = none ∨ log.allowUnsigned = true) →
    shapeError? value = none → Loads log log.limits.reloads line

theorem load_returns_iff {nesting : Nat} :
    Returns (load log nesting line) ↔ Loads log nesting line := by
  unfold load Loads
  cases loads log.float log.limits.digits nesting line.toList with
  | ok value => exact iff_of_true (returns_ok _) nofun
  | error failure =>
      cases failure with
      | decodeError => exact iff_of_true (returns_ok _) fun _ same => (Except.error.inj same).symm
      | valueError => exact iff_of_false (not_returns_error _) fun all => by cases all _ rfl
      | recursionError => exact iff_of_false (not_returns_error _) fun all => by cases all _ rfl

theorem decodePlain_returns_iff {value : Value} : Returns (decodePlain log draws line value) ↔
      (shapeError? value = none → Loads log log.limits.reloads line) := by
  unfold decodePlain
  cases shape : shapeError? value with
  | some error => exact iff_of_true (returns_ok _) nofun
  | none =>
      have object : ∃ fields, value = .obj fields := by
        cases value with
        | obj fields => exact ⟨fields, rfl⟩
        | _ => cases shape
      rw [forall_prop_of_true rfl, ← load_returns_iff, returns_bind_iff]
      refine exists_congr fun again => and_iff_left ?_
      exact openEnvelope_returns_iff.mpr object

theorem decodeValue_returns_iff {value : Value} : Returns (decodeValue log draws line value) ↔
      (∀ event signature, envelope? value = some (event, signature) →
        Guarded log event signature) ∧
      (envelope? value = none → (log.signer = none ∨ log.allowUnsigned = true) →
        shapeError? value = none → Loads log log.limits.reloads line) := by
  unfold decodeValue
  cases found : envelope? value with
  | some envelope =>
      obtain ⟨event, signature⟩ := envelope
      refine decodeEnvelope_returns_iff.trans ⟨fun guarded => ⟨?_, nofun⟩, fun both => ?_⟩
      · intro other signature' same
        cases same
        exact guarded
      · exact both.1 event signature rfl
  | none =>
      dsimp only
      have every : ∀ event signature, (none : Option (Value × Value)) = some (event, signature) →
          Guarded log event signature := nofun
      rw [and_iff_right every, forall_prop_of_true rfl]
      have refused : log.signer.isSome ∧ log.allowUnsigned = false ↔
          ¬ (log.signer = none ∨ log.allowUnsigned = true) := by
        rw [not_or, Option.isSome_iff_ne_none, Bool.not_eq_true]
      by_cases rejected : log.signer.isSome ∧ log.allowUnsigned = false
      · rw [if_pos rejected]
        exact iff_of_true (returns_ok _) fun read => absurd read (refused.mp rejected)
      · rw [if_neg rejected, decodePlain_returns_iff,
          forall_prop_of_true (not_not.mp (refused.not.mp rejected))]

/-- The decoder raises exactly at a line that is not readable. -/
theorem decode_returns_iff : Returns (decode log draws line) ↔ Readable log line := by
  have split : Readable log line ↔ Loads log log.limits.loads line ∧
      ∀ value, loads log.float log.limits.digits log.limits.loads line.toList = .ok value →
        Returns (decodeValue log draws line value) := by
    constructor
    · intro readable
      refine ⟨readable.loaded, fun value same => decodeValue_returns_iff.mpr ⟨?_, ?_⟩⟩
      · exact fun event signature => readable.envelope value event signature same
      · exact readable.plain value same
    · rintro ⟨loaded, decoded⟩
      refine ⟨loaded, fun value event signature same => ?_, fun value same => ?_⟩
      · exact (decodeValue_returns_iff.mp (decoded value same)).1 event signature
      · exact (decodeValue_returns_iff.mp (decoded value same)).2
  rw [split, ← load_returns_iff, decode, returns_bind_iff]
  unfold load
  cases loads log.float log.limits.digits log.limits.loads line.toList with
  | ok value =>
      constructor
      · rintro ⟨_, same, returns⟩
        cases same
        refine ⟨returns_ok _, fun other same => ?_⟩
        rw [← Except.ok.inj same]
        exact returns
      · exact fun both => ⟨some value, rfl, both.2 value rfl⟩
  | error failure =>
      cases failure with
      | decodeError => exact iff_of_true ⟨none, rfl, returns_ok _⟩ ⟨returns_ok _, nofun⟩
      | valueError =>
          exact iff_of_false (fun ⟨_, same, _⟩ => by cases same) fun both =>
            not_returns_error _ both.1
      | recursionError =>
          exact iff_of_false (fun ⟨_, same, _⟩ => by cases same) fun both =>
            not_returns_error _ both.1

/-- The lines that are decoded: those that are not blank. -/
def Decoded (log : EventLog) (lines : List Bytes) : Prop :=
  ∀ raw ∈ lines, lineText raw ≠ "" → Readable log (lineText raw)

theorem readLines_returns_iff {draws : Nat → Draws} {lines : List Bytes}
    {index : Nat} : Returns (readLines log draws lines index) ↔ Decoded log lines := by
  induction lines generalizing index with
  | nil => exact iff_of_true (returns_ok _) fun raw member => absurd member List.not_mem_nil
  | cons raw rest ih =>
      have split : Decoded log (raw :: rest) ↔
          (lineText raw ≠ "" → Readable log (lineText raw)) ∧ Decoded log rest :=
        List.forall_mem_cons
      rw [split, readLines]
      by_cases blank : lineText raw = ""
      · rw [if_pos blank, @ih (index + 1)]
        exact (and_iff_right fun filled => absurd blank filled).symm
      · rw [if_neg blank, forall_prop_of_true blank, ← @decode_returns_iff log (draws index),
          ← @ih (index + 1), returns_bind_iff]
        have rests (event : Option ZfEvent) : Returns ((readLines log draws rest (index + 1)).map
            fun events => event.toList ++ events) ↔
              Returns (readLines log draws rest (index + 1)) := by
          cases readLines log draws rest (index + 1) with
          | error raised => exact iff_of_false (not_returns_error _) (not_returns_error _)
          | ok events => exact iff_of_true (returns_ok _) (returns_ok _)
        simp only [rests]
        exact exists_and_right

/-- The decoder returns exactly at the readable lines, and both reads of the files return
exactly where every line that they decode is readable. -/
theorem reads_return_iff (log : EventLog) (draws : Nat → Draws) :
    (∀ drawn line, (∃ decoded, decode log drawn line = .ok decoded) ↔ Readable log line) ∧
      (∀ files, (∃ events, readAll log draws files = .ok events) ↔
        Decoded log (allLines files)) ∧
      ∀ offset files, (∃ events, readFromOffset log draws offset files = .ok events) ↔
        Decoded log (linesFrom offset files) :=
  ⟨fun _ _ => decode_returns_iff, fun _ => readLines_returns_iff, fun _ _ => readLines_returns_iff⟩

/-- The limits of an interpreter as it starts. -/
def usualLimits : Limits := ⟨4300, 980, 979, 980, 490⟩

def unsignedLog : EventLog := ⟨none, false, id, usualLimits⟩

/-- An envelope around a number. -/
def numberLine : List Char := "\x7b\"event\": 1, \"sig\": \"\"\x7d".toList

/-- One line with an envelope around a number ends both reads of a file. -/
theorem numberLine_raises :
    ¬ (∀ draws line, ∃ decoded, decode unsignedLog draws line = .ok decoded) ∧
      ¬ (∀ files, ∃ events, readAll unsignedLog SignedLines.drawn files = .ok events) ∧
      ¬ (∀ files, ∃ events,
        readFromOffset unsignedLog SignedLines.drawn 0 files = .ok events) := by
  have raises {α : Type} {computed : Except Raised α} (error : computed.isOk = false) :
      ¬ Returns computed := by
    rintro ⟨_, rfl⟩
    cases error
  refine ⟨fun every => ?_, fun every => ?_, fun every => ?_⟩
  · exact raises (by decide +kernel) (every (SignedLines.drawn 0) (String.ofList numberLine))
  · exact raises (by decide +kernel) (every (SignedLines.asciiFile numberLine))
  · exact raises (by decide +kernel) (every (SignedLines.asciiFile numberLine))

end ZaofuFormal.Events.UnreadableLines
