import ZaofuFormal.Events.ReadAll
import ZaofuFormal.Foundation.Digest
import ZaofuFormal.Foundation.JsonCompact
import ZaofuFormal.Foundation.Utf8

/-!
# Signed lines

A log with a signer writes every event in an envelope with the signature of its
JSON text.  A reader verifies a signature against two texts made from the event
of the envelope: its own members written with the separators of the serializer,
and the text of the event that `from_dict` makes of it.  What it returns is an
event that `from_dict` makes, with unknown members left out and missing ones
filled in.

The keyed digest of a text, and the identifiers and times that are drawn for
events without them, are parameters.  Lines that no decoder of the code gets
through (integers of too many digits, deep nesting, lone surrogates) return no
event; `UnreadableLines` is about them.
-/

namespace ZaofuFormal.Events.SignedLines

open Foundation
open JsonText (compact spaced loads Plain FloatLaw)

/-- An event, with whatever values the members of its line had. -/
structure ZfEvent where
  type : Json
  id : Json
  ts : Json
  actor : Json := .null
  taskId : Json := .null
  payload : Json := .obj []
  causationId : Json := .null
  correlationId : Json := .null
  origin : Json := .str ""
  deriving DecidableEq

/-- What `_new_id` and `_now_iso` return. -/
structure Stamp where
  id : String
  ts : String

def ZfEvent.asdict (event : ZfEvent) : List (String × Json) :=
  [("type", event.type), ("id", event.id), ("ts", event.ts), ("actor", event.actor),
    ("task_id", event.taskId), ("payload", event.payload), ("causation_id", event.causationId),
    ("correlation_id", event.correlationId), ("origin", event.origin)]

def ZfEvent.toJson (event : ZfEvent) : List Char := compact (.obj event.asdict)

/-- The exceptions that leave a read. -/
inductive Raised where
  | attributeError
  | typeError (message : String)
  deriving DecidableEq

def missingType : String :=
  "ZfEvent.__init__() missing 1 required positional argument: 'type'"

/-- Members that are no field are left out; absent fields get their defaults. -/
def fromFields (stamp : Stamp) (data : List (String × Json)) : Option ZfEvent :=
  (Dict.find "type" data).map fun type => {
    type := type
    id := (Dict.find "id" data).getD (.str stamp.id)
    ts := (Dict.find "ts" data).getD (.str stamp.ts)
    actor := (Dict.find "actor" data).getD .null
    taskId := (Dict.find "task_id" data).getD .null
    payload := (Dict.find "payload" data).getD (.obj [])
    causationId := (Dict.find "causation_id" data).getD .null
    correlationId := (Dict.find "correlation_id" data).getD .null
    origin := (Dict.find "origin" data).getD (.str "") }

def fromDict (stamp : Stamp) : Json → Except Raised ZfEvent
  | .obj data =>
      match fromFields stamp data with
      | some event => .ok event
      | none => .error (.typeError missingType)
  | _ => .error .attributeError

def typeName : Json → String
  | .null => "NoneType"
  | .bool _ => "bool"
  | .int _ => "int"
  | .float _ _ => "float"
  | .str _ => "str"
  | .arr _ => "list"
  | .obj _ => "dict"

/-- `hmac.compare_digest` of a hexadecimal digest and a decoded value. -/
def compareDigest (expected : String) : Json → Except Raised Bool
  | .str signature =>
      if signature.toList.all fun char => decide (char.toNat < 128) then
        .ok (expected == signature)
      else .error (.typeError "comparing strings with non-ASCII characters is not supported")
  | other => .error (.typeError
      ("unsupported operand types(s) or combination of types: 'str' and '" ++ typeName other ++
        "'"))

/-- `EventSigner.verify`, where `sign` is the keyed digest of a text. -/
def verify (sign : List Char → String) (eventJson : List Char) (signature : Json) :
    Except Raised Bool :=
  compareDigest (sign eventJson) signature

structure EventLog where
  signer : Option (List Char → String)
  allowUnsigned : Bool
  /-- The value of a number with a fraction or an exponent. -/
  float : String → Json

/-- What is drawn for one line: for the event that is encoded again, and for the
event that is returned. -/
structure Draws where
  fresh : Stamp
  returned : Stamp

/-- The event that stands for a line that does not decode. -/
def malformed (stamp : Stamp) (line error : String) : ZfEvent where
  type := .str "event.malformed"
  id := .str stamp.id
  ts := .str stamp.ts
  actor := .str "zf-cli"
  payload := .obj [("line", .str (String.ofList (line.toList.take 200))), ("error", .str error)]

/-- Does the signature hold for one of the two texts of the event? -/
def accepted (sign : List Char → String) (stamp : Stamp) (event signature : Json) :
    Except Raised Bool :=
  (verify sign (spaced event) signature).bind fun raw =>
    if raw then .ok true
    else (fromDict stamp event).bind fun fresh => verify sign fresh.toJson signature

/-- The event of an envelope whose signature holds. -/
def openEnvelope (draws : Draws) (line : String) (event : Json) :
    Except Raised (Option ZfEvent) :=
  match fromDict draws.returned event with
  | .ok event => .ok (some event)
  | .error (.typeError message) => .ok (some (malformed draws.returned line message))
  | .error .attributeError => .error .attributeError

/-- A line without an envelope, where such lines are read. -/
def decodePlain (draws : Draws) (line : String) : Json → ZfEvent
  | .obj fields =>
      match Dict.find "type" fields with
      | some (.str _) =>
          match Dict.find "payload" fields with
          | none | some .null | some (.obj _) =>
              (fromFields draws.returned fields).getD (malformed draws.returned line missingType)
          | some _ => malformed draws.returned line "`payload` must be a dict"
      | _ => malformed draws.returned line "missing or non-string `type`"
  | _ => malformed draws.returned line "top-level must be object"

/-- The event and the signature of an envelope. -/
def envelope? : Json → Option (Json × Json)
  | .obj fields =>
      (Dict.find "event" fields).bind fun event =>
        (Dict.find "sig" fields).map fun signature => (event, signature)
  | _ => none

def decode (log : EventLog) (draws : Draws) (line : String) : Except Raised (Option ZfEvent) :=
  match loads log.float line.toList with
  | none => .ok none
  | some value =>
      match envelope? value, log.signer with
      | some (event, _), none => openEnvelope draws line event
      | some (event, signature), some sign =>
          (accepted sign draws.fresh event signature).bind fun holds =>
            if holds then openEnvelope draws line event else .ok none
      | none, some _ =>
          if log.allowUnsigned then .ok (some (decodePlain draws line value))
          else .ok (some (malformed draws.returned line
            "unsigned event line rejected: event signing is enabled"))
      | none, none => .ok (some (decodePlain draws line value))

def lineText (raw : Bytes) : String := PyString.strip (Utf8.decode raw)

/-- The lines in their order, each with its own draws; an exception ends the read. -/
def readLines (log : EventLog) (draws : Nat → Draws) : List Bytes → Nat →
    Except Raised (List ZfEvent)
  | [], _ => .ok []
  | raw :: rest, index =>
      if lineText raw = "" then readLines log draws rest (index + 1)
      else (decode log (draws index) (lineText raw)).bind fun event =>
        (readLines log draws rest (index + 1)).map fun events => event.toList ++ events

def completeLines (data : Bytes) : List Bytes :=
  if newline ∉ data then [] else (Lines.complete newline data).splitOn newline

/-- The lines that `read_all` decodes. -/
def allLines (files : LogFiles) : List Bytes :=
  (listArchives files).flatMap (fun archive => completeLines archive.2) ++
    completeLines files.content

/-- The lines that `read_from_offset` decodes. -/
def linesFrom (offset : Nat) (files : LogFiles) : List Bytes :=
  completeLines (files.content.drop (effectiveOffset offset files))

def readAll (log : EventLog) (draws : Nat → Draws) (files : LogFiles) :
    Except Raised (List ZfEvent) :=
  readLines log draws (allLines files) 0

def readFromOffset (log : EventLog) (draws : Nat → Draws) (offset : Nat) (files : LogFiles) :
    Except Raised (List ZfEvent) :=
  readLines log draws (linesFrom offset files) 0

/-- The line of an event: its text, or an envelope with its signature. -/
def encode (log : EventLog) (event : ZfEvent) : Option (List Char) :=
  match log.signer with
  | none => some event.toJson
  | some sign => (loads log.float event.toJson).map fun value =>
      spaced (.obj [("event", value), ("sig", .str (sign event.toJson))])

variable {sign : List Char → String} {draws : Draws} {returned event : ZfEvent} {lines : List Bytes}
  {data : List (String × Json)} {float : String → Json}

theorem verify_true {text : List Char} {signature : Json}
    (holds : verify sign text signature = .ok true) : signature = .str (sign text) := by
  cases signature with
  | str signature =>
      rw [verify, compareDigest] at holds
      split at holds
      · have same := Except.ok.inj holds
        rw [beq_iff_eq] at same
        rw [same]
      · cases holds
  | _ => cases holds

theorem accepted_true {stamp : Stamp} {event signature : Json}
    (holds : accepted sign stamp event signature = .ok true) :
    signature = .str (sign (spaced event)) ∨
      ∃ fresh, fromDict stamp event = .ok fresh ∧ signature = .str (sign fresh.toJson) := by
  unfold accepted at holds
  cases raw : verify sign (spaced event) signature with
  | error raised =>
      rw [raw] at holds
      cases holds
  | ok same =>
      rw [raw] at holds
      cases same with
      | true => exact Or.inl (verify_true raw)
      | false =>
          change (fromDict stamp event).bind _ = _ at holds
          cases made : fromDict stamp event with
          | error raised =>
              rw [made] at holds
              cases holds
          | ok fresh =>
              rw [made] at holds
              exact Or.inr ⟨fresh, rfl, verify_true holds⟩

/-- An event that stands for a line. -/
def Synthetic (event : ZfEvent) : Prop :=
  ∃ stamp line error, event = malformed stamp line error

theorem openEnvelope_some {line : String} {event : Json}
    (opened : openEnvelope draws line event = .ok (some returned)) :
    Synthetic returned ∨ fromDict draws.returned event = .ok returned := by
  unfold openEnvelope at opened
  split at opened
  · rename_i made
    rw [← Option.some.inj (Except.ok.inj opened)]
    exact Or.inr made
  · exact Or.inl ⟨_, _, _, (Option.some.inj (Except.ok.inj opened)).symm⟩
  · cases opened

/-- With a signer, what is returned for a line is made of the event of its envelope, and
the signature holds for one of the two texts. -/
theorem decode_signed {log : EventLog}
    (signed : log.signer = some sign) (strict : log.allowUnsigned = false)
    {line : String} (decoded : decode log draws line = .ok (some returned)) :
    Synthetic returned ∨
      ∃ value event signature, loads log.float line.toList = some value ∧
        envelope? value = some (event, signature) ∧
        accepted sign draws.fresh event signature = .ok true ∧
        fromDict draws.returned event = .ok returned := by
  unfold decode at decoded
  rw [signed, strict] at decoded
  cases read : loads log.float line.toList with
  | none =>
      rw [read] at decoded
      cases decoded
  | some value =>
      simp only [read] at decoded
      cases envelope : envelope? value with
      | none =>
          simp only [envelope, Bool.false_eq_true, if_false] at decoded
          exact Or.inl ⟨_, _, _, (Option.some.inj (Except.ok.inj decoded)).symm⟩
      | some found =>
          obtain ⟨event, signature⟩ := found
          simp only [envelope] at decoded
          cases holds : accepted sign draws.fresh event signature with
          | error raised =>
              rw [holds] at decoded
              cases decoded
          | ok verdict =>
              rw [holds] at decoded
              cases verdict with
              | false => cases decoded
              | true =>
                  refine (openEnvelope_some decoded).imp id fun made => ?_
                  exact ⟨value, event, signature, rfl, envelope, holds, made⟩

theorem readLines_mem {log : EventLog} {draws : Nat → Draws} {index : Nat}
    {events : List ZfEvent} (read : readLines log draws lines index = .ok events)
    (member : event ∈ events) :
    ∃ raw ∈ lines, ∃ position, decode log (draws position) (lineText raw) = .ok (some event) := by
  induction lines generalizing index events with
  | nil =>
      cases Except.ok.inj read
      cases member
  | cons raw rest ih =>
      rw [readLines] at read
      have later : ∀ {events}, readLines log draws rest (index + 1) = .ok events →
          event ∈ events → ∃ raw' ∈ raw :: rest, ∃ position,
            decode log (draws position) (lineText raw') = .ok (some event) := by
        intro events read member
        obtain ⟨found, inside, position, decoded⟩ := ih read member
        exact ⟨found, List.mem_cons_of_mem raw inside, position, decoded⟩
      split at read
      · exact later read member
      · cases decoded : decode log (draws index) (lineText raw) with
        | error raised =>
            rw [decoded] at read
            cases read
        | ok first =>
            rw [decoded] at read
            change (readLines log draws rest (index + 1)).map _ = _ at read
            cases others : readLines log draws rest (index + 1) with
            | error raised =>
                rw [others] at read
                cases read
            | ok events' =>
                rw [others] at read
                rw [← Except.ok.inj read, List.mem_append] at member
                rcases member with first' | inside
                · cases first with
                  | none => cases first'
                  | some first =>
                      rw [Option.toList_some, List.mem_singleton] at first'
                      exact ⟨raw, List.mem_cons_self, index, first' ▸ decoded⟩
                · exact later others inside

theorem spaced_ne_toJson (plain : Plain float event.type) (nonempty : data ≠ []) :
    spaced (.obj data) ≠ event.toJson := by
  intro same
  obtain ⟨⟨key, value⟩, rest, rfl⟩ := List.exists_cons_of_ne_nil nonempty
  obtain ⟨more, shape⟩ := JsonText.intercalate_cons [',', ' ']
    (JsonText.quoted key ++ ([':', ' '] ++ JsonText.write [',', ' '] [':', ' '] value))
    (JsonText.writeFields [',', ' '] [':', ' '] rest)
  obtain ⟨others, compactShape⟩ := JsonText.intercalate_cons [',']
    (JsonText.quoted "type" ++ ([':'] ++ JsonText.write [','] [':'] event.type))
    (JsonText.writeFields [','] [':'] event.asdict.tail)
  obtain ⟨head, tail, text, solid, _⟩ := JsonText.gapped_head float [] plain
  change JsonText.openBrace :: ([',', ' '].intercalate (_ :: _) ++ _) =
    JsonText.openBrace :: ([','].intercalate (_ :: _) ++ _) at same
  rw [shape] at same
  have body := (List.cons.inj same).2.trans
    (congrArg (· ++ [JsonText.closeBrace]) compactShape)
  simp only [List.append_assoc, List.cons_append] at body
  have read := congrArg JsonText.readKey body
  rw [JsonText.readKey_quoted, JsonText.readKey_quoted] at read
  have after := (Prod.mk.inj (Option.some.inj read)).2
  change ' ' :: _ = JsonText.gapped [] event.type ++ _ at after
  rw [text, List.cons_append] at after
  rw [← (List.cons.inj after).1] at solid
  exact absurd solid (by decide)

theorem find_plain (plain : Plain float (.obj data)) {key : String} {default : Json}
    (plainDefault : Plain float default) :
    Plain float ((Dict.find key data).getD default) := by
  cases found : Dict.find key data with
  | none => exact plainDefault
  | some value =>
      exact (JsonText.plainFields_iff float _).mp plain.2 (key, value)
        ((Dict.find_eq_some_iff plain.1 _ _).mp found)

theorem fromDict_ok {stamp : Stamp} {data : Json} (made : fromDict stamp data = .ok event) :
    ∃ fields, data = .obj fields ∧ fromFields stamp fields = some event := by
  cases data with
  | obj fields =>
      rw [fromDict] at made
      cases found : fromFields stamp fields with
      | none =>
          rw [found] at made
          cases made
      | some other =>
          rw [found] at made
          exact ⟨fields, rfl, by rw [found, Except.ok.inj made]⟩
  | _ => cases made

theorem asdict_plain {stamp : Stamp} (plain : Plain float (.obj data))
    (made : fromFields stamp data = some event) : Plain float (.obj event.asdict) := by
  obtain ⟨type, found, rfl⟩ := Option.map_eq_some_iff.mp made
  have typePlain : Plain float type :=
    (JsonText.plainFields_iff float _).mp plain.2 ("type", type)
      ((Dict.find_eq_some_iff plain.1 _ _).mp found)
  have empty : Plain float (.obj []) := ⟨List.nodup_nil, trivial⟩
  refine ⟨(by decide : ["type", "id", "ts", "actor", "task_id", "payload", "causation_id",
    "correlation_id", "origin"].Nodup), ?_⟩
  exact ⟨typePlain, find_plain plain trivial, find_plain plain trivial, find_plain plain trivial,
    find_plain plain trivial, find_plain plain empty, find_plain plain trivial,
    find_plain plain trivial, find_plain plain trivial, trivial⟩

/-- Events with one text are equal. -/
theorem toJson_injective {first second : ZfEvent}
    (plain : Plain float (.obj first.asdict)) (plainSecond : Plain float (.obj second.asdict))
    (same : first.toJson = second.toJson) : first = second := by
  have members := JsonText.gapped_injective float JsonText.gap_nil plain plainSecond same
  cases first
  cases second
  simpa [ZfEvent.asdict] using members

/-- What two draws make of one object differs where the object has no member. -/
theorem fromFields_drawn {fresh returned : Stamp}
    {first second : ZfEvent} (made : fromFields fresh data = some first)
    (madeSecond : fromFields returned data = some second) :
    second = { first with id := second.id, ts := second.ts } ∧
      (second.id = first.id ∨ Dict.find "id" data = none ∧ first.id = .str fresh.id) ∧
      (second.ts = first.ts ∨ Dict.find "ts" data = none ∧ first.ts = .str fresh.ts) := by
  obtain ⟨type, found, rfl⟩ := Option.map_eq_some_iff.mp made
  rw [fromFields, found] at madeSecond
  cases Option.some.inj madeSecond
  refine ⟨rfl, ?_, ?_⟩
  · cases id : Dict.find "id" data with
    | none => exact Or.inr ⟨rfl, rfl⟩
    | some value => exact Or.inl rfl
  · cases ts : Dict.find "ts" data with
    | none => exact Or.inr ⟨rfl, rfl⟩
    | some value => exact Or.inl rfl

/-- No signature in the lines is the digest of a text other than that of an appended event. -/
def Unforged (float : String → Json) (sign : List Char → String) (appended : List ZfEvent)
    (lines : List Bytes) : Prop :=
  ∀ raw ∈ lines, ∀ value event signature, loads float (lineText raw).toList = some value →
    envelope? value = some (event, signature) →
      ∀ text, signature = .str (sign text) → ∃ original ∈ appended, text = original.toJson

/-- Equal, but for an identifier or a time that the object of the envelope lacks and
that was drawn equal to the original's when the signature was verified. -/
def Restores (fresh : Stamp) (data : List (String × Json)) (original returned : ZfEvent) : Prop :=
  returned = { original with id := returned.id, ts := returned.ts } ∧
    (returned.id = original.id ∨ Dict.find "id" data = none ∧ original.id = .str fresh.id) ∧
    (returned.ts = original.ts ∨ Dict.find "ts" data = none ∧ original.ts = .str fresh.ts)

/-- The line of an envelope from whose object an event is made, the signature being
that of one of the two texts of the object. -/
structure Envelope (float : String → Json) (sign : List Char → String) (lines : List Bytes)
    (draws : Draws) (data : List (String × Json)) (returned : ZfEvent) : Prop where
  line : ∃ raw ∈ lines, ∃ value signature, loads float (lineText raw).toList = some value ∧
    envelope? value = some (.obj data, signature) ∧
    (signature = .str (sign (spaced (.obj data))) ∨
      ∃ fresh, fromFields draws.fresh data = some fresh ∧
        signature = .str (sign fresh.toJson))
  returned : fromFields draws.returned data = some returned

theorem readLines_signed {draws : Nat → Draws} {index : Nat} {events : List ZfEvent}
    (read : readLines ⟨some sign, false, float⟩ draws lines index = .ok events)
    (member : returned ∈ events) :
    Synthetic returned ∨
      ∃ position data, Envelope float sign lines (draws position) data returned := by
  obtain ⟨raw, inside, position, decoded⟩ := readLines_mem read member
  refine (decode_signed rfl rfl decoded).imp id ?_
  rintro ⟨value, event, signature, loaded, envelope, holds, made⟩
  obtain ⟨data, rfl, fields⟩ := fromDict_ok made
  refine ⟨position, data, ⟨raw, inside, value, signature, loaded, envelope, ?_⟩, fields⟩
  refine (accepted_true holds).imp id ?_
  rintro ⟨fresh, madeFresh, same⟩
  obtain ⟨others, shape, freshFields⟩ := fromDict_ok madeFresh
  cases shape
  exact ⟨fresh, freshFields, same⟩

theorem Envelope.restores (law : FloatLaw float) {appended : List ZfEvent}
    (plain : ∀ event ∈ appended, Plain float (.obj event.asdict))
    (unforged : Unforged float sign appended lines)
    (found : Envelope float sign lines draws data returned) :
    ∃ original ∈ appended, Restores draws.fresh data original returned := by
  obtain ⟨raw, inside, value, signature, loaded, envelope, holds⟩ := found.line
  have origin := unforged raw inside value _ signature loaded envelope
  have dataPlain : Plain float (.obj data) := by
    have whole := JsonText.loads_plain law loaded
    cases value with
    | obj fields =>
        obtain ⟨event, eventFound, rest⟩ := Option.bind_eq_some_iff.mp envelope
        obtain ⟨other, _, same⟩ := Option.map_eq_some_iff.mp rest
        cases same
        exact (JsonText.plainFields_iff float _).mp whole.2 ("event", .obj data)
          ((Dict.find_eq_some_iff whole.1 _ _).mp eventFound)
    | _ => cases envelope
  rcases holds with same | ⟨fresh, made, same⟩
  · -- no event has the text of the object written with the separators of the serializer
    obtain ⟨original, member, text⟩ := origin _ same
    have nonempty : data ≠ [] := by
      rintro rfl
      cases found.returned
    exact absurd text (spaced_ne_toJson (plain original member).2.1 nonempty)
  · obtain ⟨original, member, text⟩ := origin _ same
    have equal := toJson_injective (asdict_plain dataPlain made) (plain original member) text
    subst equal
    exact ⟨fresh, member, fromFields_drawn made found.returned⟩

/-- Every event that a log with a signer returns is synthetic, or it is made of the object
of an envelope whose signature holds for one of the two texts of that object; and if no
signature was forged, it restores an appended event. -/
theorem read_authentic {float : String → Json} (law : FloatLaw float)
    (sign : List Char → String) {appended : List ZfEvent}
    (plain : ∀ event ∈ appended, Plain float (.obj event.asdict)) (draws : Nat → Draws)
    (files : LogFiles) {lines : List Bytes} {events : List ZfEvent}
    (read : lines = allLines files ∧ readAll ⟨some sign, false, float⟩ draws files = .ok events ∨
      ∃ offset, lines = linesFrom offset files ∧
        readFromOffset ⟨some sign, false, float⟩ draws offset files = .ok events) :
    ∀ returned ∈ events, Synthetic returned ∨
      ∃ position data, Envelope float sign lines (draws position) data returned ∧
        (Unforged float sign appended lines →
          ∃ original ∈ appended, Restores (draws position).fresh data original returned) := by
  intro returned member
  have signed : Synthetic returned ∨
      ∃ position data, Envelope float sign lines (draws position) data returned := by
    rcases read with ⟨rfl, read⟩ | ⟨offset, rfl, read⟩
    · exact readLines_signed read member
    · exact readLines_signed read member
  refine signed.imp id ?_
  rintro ⟨position, data, found⟩
  exact ⟨position, data, found, fun unforged => found.restores law plain unforged⟩

theorem fromFields_asdict (stamp : Stamp) (event : ZfEvent) :
    fromFields stamp event.asdict = some event := by
  simp [fromFields, ZfEvent.asdict, Dict.find]

/-- The envelope of an object with a signature. -/
def envelope (event : List (String × Json)) (digest : String) : List (String × Json) :=
  [("event", .obj event), ("sig", .str digest)]

theorem envelope_found (event : List (String × Json)) (digest : String) :
    envelope? (.obj (envelope event digest)) = some (.obj event, .str digest) := by
  simp [envelope?, envelope, Dict.find]

theorem loads_envelope (float : String → Json) {event : List (String × Json)}
    (plain : Plain float (.obj event)) (digest : String) :
    loads float (spaced (.obj (envelope event digest))) = some (.obj (envelope event digest)) :=
  JsonText.loads_gapped float JsonText.gap_space
    ⟨(by decide : ["event", "sig"].Nodup), plain, trivial, trivial⟩

theorem encode_signed
    (plain : Plain float (.obj event.asdict)) (sign : List Char → String) (allow : Bool) :
    encode ⟨some sign, allow, float⟩ event =
      some (spaced (.obj (envelope event.asdict (sign event.toJson)))) := by
  have read : loads float event.toJson = some (.obj event.asdict) :=
    JsonText.loads_gapped float JsonText.gap_nil plain
  rw [encode]
  simp only [read, Option.map_some]
  rfl

theorem verify_own {text : List Char} (ascii : ∀ char ∈ (sign text).toList, char.toNat < 128) :
    verify sign text (.str (sign text)) = .ok true := by
  have all : ((sign text).toList.all fun char => decide (char.toNat < 128)) = true := by
    rw [List.all_eq_true]
    exact fun char member => decide_eq_true (ascii char member)
  rw [verify, compareDigest, if_pos all, beq_self_eq_true]

theorem accepted_own
    (ascii : ∀ char ∈ (sign event.toJson).toList, char.toNat < 128) (stamp : Stamp) :
    accepted sign stamp (.obj event.asdict) (.str (sign event.toJson)) = .ok true := by
  have all : ((sign event.toJson).toList.all fun char => decide (char.toNat < 128)) = true := by
    rw [List.all_eq_true]
    exact fun char member => decide_eq_true (ascii char member)
  rw [accepted, verify, compareDigest, if_pos all]
  change (if (sign (spaced (.obj event.asdict)) == sign event.toJson) = true then _ else _) = _
  split
  · rfl
  · rw [fromDict, fromFields_asdict]
    exact verify_own ascii

theorem accepted_raw (sign : List Char → String) (event : Json)
    (ascii : ∀ char ∈ (sign (spaced event)).toList, char.toNat < 128) (stamp : Stamp) :
    accepted sign stamp event (.str (sign (spaced event))) = .ok true := by
  rw [accepted, verify_own ascii]
  rfl

/-- An envelope whose signature holds is read as the event of its object. -/
theorem decode_envelope (plain : Plain float (.obj data)) (allow : Bool)
    {digest : String} (holds : accepted sign draws.fresh (.obj data) (.str digest) = .ok true)
    (made : fromFields draws.returned data = some event) :
    decode ⟨some sign, allow, float⟩ draws (String.ofList (spaced (.obj (envelope data digest)))) =
      .ok (some event) := by
  unfold decode
  rw [String.toList_ofList, loads_envelope float plain]
  simp only [envelope_found, holds, Except.bind, if_true, openEnvelope, fromDict, made]

/-- The line of an appended event is read as this event. -/
theorem decode_encode (plain : Plain float (.obj event.asdict))
    (ascii : ∀ char ∈ (sign event.toJson).toList, char.toNat < 128) (allow : Bool)
    (draws : Draws) :
    ∃ line, encode ⟨some sign, allow, float⟩ event = some line ∧
      decode ⟨some sign, allow, float⟩ draws (String.ofList line) = .ok (some event) :=
  ⟨_, encode_signed plain sign allow, decode_envelope plain allow (accepted_own ascii draws.fresh)
    (fromFields_asdict draws.returned event)⟩

theorem lineText_ascii {line : List Char} (ascii : ∀ char ∈ line, char.toNat < 128)
    (first : line.head?.any PyString.isSpace = false)
    (last : line.getLast?.any PyString.isSpace = false) :
    lineText (line.map fun char => UInt8.ofNat char.toNat) = String.ofList line := by
  have back : ∀ char ∈ line, (UInt8.ofNat char.toNat).toNat = char.toNat := by
    intro char member
    rw [UInt8.toNat_ofNat']
    exact Nat.mod_eq_of_lt (Nat.lt_trans (ascii char member) (by decide))
  have bytes : ∀ byte ∈ line.map (fun char => UInt8.ofNat char.toNat), byte.toNat < 0x80 := by
    intro byte member
    obtain ⟨char, inside, rfl⟩ := List.mem_map.mp member
    rw [back char inside]
    exact ascii char inside
  have text : (line.map fun char => UInt8.ofNat char.toNat).map
      (fun byte => Char.ofNat byte.toNat) = line := by
    rw [List.map_map]
    refine (List.map_congr_left fun char member => ?_).trans (List.map_id line)
    rw [Function.comp_apply, back char member, Char.ofNat_toNat]
    rfl
  rw [lineText, Utf8.decode_ascii bytes, text, PyString.strip, String.toList_ofList,
    PyString.stripChars_eq_self first last]

/-- A file with one line of ASCII. -/
def asciiFile (line : List Char) : LogFiles :=
  ⟨some ⟨Lines.unlines newline [line.map fun char => UInt8.ofNat char.toNat], "2026-07-03"⟩,
    Dict.empty⟩

/-- Printable ASCII between two braces. -/
structure Printed (line : List Char) : Prop where
  ascii : ∀ char ∈ line, char.toNat < 128 ∧ char.toNat ≠ 10
  first : line.head?.any PyString.isSpace = false
  last : line.getLast?.any PyString.isSpace = false

theorem printed_object {fields : List (String × Json)}
    (ascii : ∀ char ∈ spaced (.obj fields), char.toNat < 128 ∧ char.toNat ≠ 10) :
    Printed (spaced (.obj fields)) := by
  have braces : PyString.isSpace JsonText.openBrace = false ∧
      PyString.isSpace JsonText.closeBrace = false := by decide
  refine ⟨ascii, braces.1, ?_⟩
  change (JsonText.openBrace :: (_ ++ [JsonText.closeBrace])).getLast?.any _ = false
  rw [← List.cons_append, List.getLast?_concat]
  exact braces.2

theorem allLines_asciiFile {line : List Char} (printed : Printed line) :
    allLines (asciiFile line) = [line.map fun char => UInt8.ofNat char.toNat, []] := by
  have clean : ∀ raw ∈ [line.map fun char => UInt8.ofNat char.toNat], newline ∉ raw := by
    intro raw member inside
    rw [List.mem_singleton.mp member] at inside
    obtain ⟨char, present, same⟩ := List.mem_map.mp inside
    have code := congrArg UInt8.toNat same
    rw [UInt8.toNat_ofNat', Nat.mod_eq_of_lt
      (Nat.lt_trans (printed.ascii char present).1 (by decide))] at code
    exact (printed.ascii char present).2 code
  have ends : newline ∈ Lines.unlines newline [line.map fun char => UInt8.ofNat char.toNat] := by
    simp [Lines.unlines]
  change [] ++ completeLines (Lines.unlines newline _) = _
  rw [List.nil_append, completeLines, if_neg (not_not_intro ends), Lines.complete_unlines,
    Lines.splitOn_unlines clean]
  rfl

theorem readAll_asciiFile {log : EventLog} {draws : Nat → Draws} {line : List Char}
    (printed : Printed line) (nonempty : line ≠ [])
    (decoded : decode log (draws 0) (String.ofList line) = .ok (some event)) :
    readAll log draws (asciiFile line) = .ok [event] := by
  have text := lineText_ascii (fun char member => (printed.ascii char member).1) printed.first
    printed.last
  have filled : String.ofList line ≠ "" := by
    intro empty
    exact nonempty (by rw [← String.toList_ofList (l := line), empty]; rfl)
  have blank : lineText [] = "" := by decide +kernel
  rw [readAll, allLines_asciiFile printed]
  simp only [readLines, text, filled, if_false, decoded, blank, if_true, Except.bind, Except.map,
    Option.toList_some, List.append_nil]

/-- The digest of one text, and distinct values elsewhere. -/
def signText (signed : List Char) (digest : String) (text : List Char) : String :=
  Digest.tableDigest [(String.ofList signed, digest)] (String.ofList text)

/-- No colon and no mark, as in hexadecimal digits. -/
def Hexadecimal (digest : String) : Prop :=
  digest.toList.head? ≠ some '~' ∧ ':' ∉ digest.toList

theorem signText_injective {signed : List Char} {digest : String}
    (hexadecimal : Hexadecimal digest) :
    Function.Injective (signText signed digest) := by
  intro first second same
  have lawful : Digest.Table [(String.ofList signed, digest)] := by
    refine ⟨List.nodup_singleton _, ?_, ?_⟩
    · intro entry member
      rw [List.mem_singleton.mp member]
      exact hexadecimal.1
    · intro entry member
      rw [List.mem_singleton.mp member]
      exact hexadecimal.2
  exact String.ofList_injective (Digest.tableDigest_injective lawful same)

theorem signText_signed (signed : List Char) (digest : String) :
    signText signed digest signed = digest := by
  simp [signText, Digest.tableDigest]

def noFloat (_ : String) : Json := .null

def signedLog (signed : List Char) (digest : String) : EventLog :=
  ⟨some (signText signed digest), false, noFloat⟩

def envelopeFile (event : List (String × Json)) (digest : String) : LogFiles :=
  asciiFile (spaced (.obj (envelope event digest)))

/-- The only signature in the file is that of its line. -/
theorem signature_of_envelopeFile {event : List (String × Json)} {digest : String}
    (plain : Plain noFloat (.obj event))
    (printed : Printed (spaced (.obj (envelope event digest)))) {raw : Bytes}
    (member : raw ∈ allLines (envelopeFile event digest)) {value object signature : Json}
    (loaded : loads noFloat (lineText raw).toList = some value)
    (found : envelope? value = some (object, signature)) : signature = .str digest := by
  rw [envelopeFile, allLines_asciiFile printed, List.mem_cons, List.mem_singleton] at member
  rcases member with rfl | rfl
  · rw [lineText_ascii (fun char member => (printed.ascii char member).1) printed.first
      printed.last, String.toList_ofList, loads_envelope noFloat plain] at loaded
    cases loaded
    rw [envelope_found] at found
    exact (Prod.mk.inj (Option.some.inj found)).2.symm
  · have nothing : loads noFloat (lineText []).toList = none := by decide +kernel
    rw [nothing] at loaded
    cases loaded

def judged : ZfEvent where
  type := .str "judge.passed"
  id := .str "evt-1"
  ts := .str "2026-07-03T10:00:00+00:00"
  actor := .str "zf-cli"
  taskId := .str "T1"
  payload := .obj [("score", .int 3)]
  origin := .str "kernel"

def judgedDigest : String := "4a300c5ce910791551fd4490a6f2586f6276836d675752e537eac3f95f7669fe"

def drawn (position : Nat) : Draws :=
  ⟨⟨"evt-fresh-" ++ toString position, "2026-07-04T10:00:00+00:00"⟩,
    ⟨"evt-returned-" ++ toString position, "2026-07-04T10:00:00+00:00"⟩⟩

theorem judgedDigest_hexadecimal : Hexadecimal judgedDigest := by
  constructor <;> decide

theorem judged_plain : Plain noFloat (.obj judged.asdict) :=
  ⟨by decide, trivial, trivial, trivial, trivial, trivial, ⟨List.nodup_singleton _, trivial, trivial⟩,
    trivial, trivial, trivial, trivial⟩

theorem judged_printed : Printed (spaced (.obj (envelope judged.asdict judgedDigest))) :=
  printed_object (Lists.forall_mem_of_all (by decide +kernel))

theorem judged_ascii :
    ∀ char ∈ (signText judged.toJson judgedDigest judged.toJson).toList, char.toNat < 128 := by
  rw [signText_signed]
  exact Lists.forall_mem_of_all (by decide)

theorem judged_read :
    readAll (signedLog judged.toJson judgedDigest) drawn
      (envelopeFile judged.asdict judgedDigest) = .ok [judged] := by
  obtain ⟨line, written, decoded⟩ := decode_encode judged_plain judged_ascii false (drawn 0)
  rw [encode_signed judged_plain, signText_signed] at written
  cases written
  exact readAll_asciiFile judged_printed (List.cons_ne_nil _ _) decoded

theorem judged_unforged :
    Unforged noFloat (signText judged.toJson judgedDigest) [judged]
      (allLines (envelopeFile judged.asdict judgedDigest)) := by
  intro raw member value event signature loaded found text same
  have carried := signature_of_envelopeFile judged_plain judged_printed member loaded found
  have digest := Json.str.inj (same.symm.trans carried)
  exact ⟨judged, List.mem_singleton_self judged,
    signText_injective judgedDigest_hexadecimal (digest.trans (signText_signed _ _).symm)⟩

/-- The line of an appended event is read, and the event is the appended one. -/
theorem judged_authentic :
    readAll (signedLog judged.toJson judgedDigest) drawn
        (envelopeFile judged.asdict judgedDigest) = .ok [judged] ∧
      Unforged noFloat (signText judged.toJson judgedDigest) [judged]
        (allLines (envelopeFile judged.asdict judgedDigest)) ∧
      ∀ returned ∈ [judged], Synthetic returned ∨
        ∃ position data, Envelope noFloat (signText judged.toJson judgedDigest)
            (allLines (envelopeFile judged.asdict judgedDigest)) (drawn position) data returned ∧
          (Unforged noFloat (signText judged.toJson judgedDigest) [judged]
              (allLines (envelopeFile judged.asdict judgedDigest)) →
            ∃ original ∈ [judged], Restores (drawn position).fresh data original returned) := by
  refine ⟨judged_read, judged_unforged, ?_⟩
  have plain : ∀ event ∈ [judged], Plain noFloat (.obj event.asdict) := by
    intro event member
    rw [List.mem_singleton.mp member]
    exact judged_plain
  have law : FloatLaw noFloat := fun _ => trivial
  exact read_authentic law _ plain drawn _ (Or.inl ⟨rfl, judged_read⟩)

/-- A text that has the members of an event and no others. -/
def Encodes (float : String → Json) (text : List Char) (event : ZfEvent) : Prop :=
  ∃ fields, loads float text = some (.obj fields) ∧ fields.Perm event.asdict

/-- An object with three of the members, signed as it is written with separators. -/
def bare : List (String × Json) :=
  [("type", .str "judge.passed"), ("id", .str "evt-1"), ("ts", .str "2026-07-03T10:00:00+00:00")]

def bareDigest : String := "27e031ea7625f363663ef6969f9ac404ef82e1f0649eee687b91ab25e50b8420"

def bareReturned : ZfEvent where
  type := .str "judge.passed"
  id := .str "evt-1"
  ts := .str "2026-07-03T10:00:00+00:00"

theorem bareDigest_hexadecimal : Hexadecimal bareDigest := by
  constructor <;> decide

theorem bare_plain : Plain noFloat (.obj bare) := ⟨by decide, trivial, trivial, trivial, trivial⟩

theorem bare_printed : Printed (spaced (.obj (envelope bare bareDigest))) :=
  printed_object (Lists.forall_mem_of_all (by decide +kernel))

theorem bare_decoded :
    decode (signedLog (spaced (.obj bare)) bareDigest) (drawn 0)
      (String.ofList (spaced (.obj (envelope bare bareDigest)))) = .ok (some bareReturned) := by
  have holds := accepted_raw (signText (spaced (.obj bare)) bareDigest) (.obj bare)
    (by rw [signText_signed]; exact Lists.forall_mem_of_all (by decide)) (drawn 0).fresh
  rw [signText_signed] at holds
  have made : fromFields (drawn 0).returned bare = some bareReturned := by
    simp [fromFields, bare, bareReturned, Dict.find]
  exact decode_envelope bare_plain false holds made

/-- What is returned for it has members that no signed text has. -/
theorem bare_returned :
    readAll (signedLog (spaced (.obj bare)) bareDigest) drawn (envelopeFile bare bareDigest) =
        .ok [bareReturned] ∧
      ¬ Synthetic bareReturned ∧
      ∀ raw ∈ allLines (envelopeFile bare bareDigest), ∀ value event signature,
        loads noFloat (lineText raw).toList = some value →
          envelope? value = some (event, signature) →
            ∀ text, Encodes noFloat text bareReturned →
              verify (signText (spaced (.obj bare)) bareDigest) text signature ≠ .ok true := by
  refine ⟨readAll_asciiFile bare_printed (List.cons_ne_nil _ _) bare_decoded, ?_, ?_⟩
  · rintro ⟨stamp, line, error, same⟩
    exact absurd (Json.str.inj (congrArg ZfEvent.type same)) (by decide)
  · rintro raw member value event signature loaded found text ⟨fields, read, members⟩ holds
    have carried := signature_of_envelopeFile bare_plain bare_printed member loaded found
    have digest := Json.str.inj ((verify_true holds).symm.trans carried)
    have same := signText_injective bareDigest_hexadecimal
      (digest.trans (signText_signed _ _).symm)
    rw [same] at read
    have three : loads noFloat (spaced (.obj bare)) = some (.obj bare) :=
      JsonText.loads_gapped noFloat JsonText.gap_space bare_plain
    rw [three] at read
    cases read
    exact absurd members.length_eq (by decide)

end ZaofuFormal.Events.SignedLines
