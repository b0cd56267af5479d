import ZaofuFormal.Foundation.JsonText

/-!
# What the JSON decoder can end in

`json.loads` returns a value, refuses a text that is no JSON with a `JSONDecodeError`, and
leaves an integer with too many digits and too deep a nesting to other exceptions.  It
reads from left to right, and the first obstacle decides.

A string is the list of its code points: an escaped surrogate without a partner stays in
it, and no UTF-8 text can be made of such a string.
-/

namespace ZaofuFormal.Foundation.JsonOutcomes

open Json (backslash doubleQuote)
open JsonText (openBrace closeBrace)

abbrev Points := List Nat

inductive Value where
  | null
  | bool (value : Bool)
  /-- A number, by the text that `json.dumps` gives it. -/
  | number (text : List Char)
  | str (text : Points)
  | arr (items : List Value)
  | obj (fields : List (Points × Value))

def points (text : List Char) : Points := text.map Char.toNat

def Value.ofText (text : String) : Value := .str (points text.toList)

mutual

/-- How deep lists and objects are nested. -/
def Value.depth : Value → Nat
  | .arr items => itemsDepth items + 1
  | .obj fields => fieldsDepth fields + 1
  | _ => 0

def itemsDepth : List Value → Nat
  | [] => 0
  | item :: rest => max item.depth (itemsDepth rest)

def fieldsDepth : List (Points × Value) → Nat
  | [] => 0
  | (_, value) :: rest => max value.depth (fieldsDepth rest)

end

def isSurrogate (point : Nat) : Bool := decide (0xD800 ≤ point ∧ point ≤ 0xDFFF)

def escape (point : Nat) : Points :=
  if isSurrogate point then [point] else points (JsonText.escape (Char.ofNat point))

def quoted (text : Points) : Points :=
  doubleQuote.toNat :: (text.flatMap escape ++ [doubleQuote.toNat])

mutual

/-- `json.dumps(value, ensure_ascii=False, separators=(comma, colon))`. -/
def dumps (comma colon : Points) : Value → Points
  | .null => points "null".toList
  | .bool value => points (toString value).toList
  | .number text => points text
  | .str text => quoted text
  | .arr items => points ['['] ++ (comma.intercalate (dumpsItems comma colon items) ++ points [']'])
  | .obj fields => points [openBrace] ++
      (comma.intercalate (dumpsFields comma colon fields) ++ points [closeBrace])

def dumpsItems (comma colon : Points) : List Value → List Points
  | [] => []
  | item :: rest => dumps comma colon item :: dumpsItems comma colon rest

def dumpsFields (comma colon : Points) : List (Points × Value) → List Points
  | [] => []
  | (key, value) :: rest =>
      (quoted key ++ colon ++ dumps comma colon value) :: dumpsFields comma colon rest

end

def spaced (value : Value) : Points := dumps (points [',', ' ']) (points [':', ' ']) value

def compact (value : Value) : Points := dumps (points [',']) (points [':']) value

/-- A text that has an encoding. -/
def Encodable (text : Points) : Prop := ∀ point ∈ text, isSurrogate point = false

/-- `str.encode`, of which the text is kept; a surrogate has no encoding. -/
def encode? (text : Points) : Option (List Char) :=
  if text.any isSurrogate then none else some (text.map Char.ofNat)

mutual

/-- Every string of the value has an encoding. -/
def Value.Clean : Value → Prop
  | .str text => Encodable text
  | .arr items => CleanItems items
  | .obj fields => CleanFields fields
  | _ => True

def CleanItems : List Value → Prop
  | [] => True
  | item :: rest => item.Clean ∧ CleanItems rest

def CleanFields : List (Points × Value) → Prop
  | [] => True
  | (key, value) :: rest => (Encodable key ∧ value.Clean) ∧ CleanFields rest

end

theorem encode?_of_encodable {text : Points} (encodable : Encodable text) :
    encode? text = some (text.map Char.ofNat) := by
  refine if_neg fun found => ?_
  obtain ⟨point, member, surrogate⟩ := List.any_eq_true.mp found
  rw [encodable point member] at surrogate
  cases surrogate

theorem encodable_of_encode? {text : Points} {chars : List Char}
    (encoded : encode? text = some chars) : Encodable text := by
  intro point member
  by_contra surrogate
  rw [encode?, if_pos (List.any_eq_true.mpr ⟨point, member, by simpa using surrogate⟩)] at encoded
  cases encoded

theorem encodable_points (text : List Char) : Encodable (points text) := by
  intro point member
  obtain ⟨char, _, rfl⟩ := List.mem_map.mp member
  rw [isSurrogate, decide_eq_false_iff_not]
  have valid : char.toNat < 0xD800 ∨ 0xDFFF < char.toNat ∧ char.toNat < 0x110000 := char.valid
  omega

theorem encodable_append {first second : Points} :
    Encodable (first ++ second) ↔ Encodable first ∧ Encodable second :=
  List.forall_mem_append

theorem encodable_intercalate {separator : Points} (between : Encodable separator)
    {parts : List Points} :
    Encodable (separator.intercalate parts) ↔ ∀ part ∈ parts, Encodable part :=
  ⟨fun whole _ listed point member => whole point (Lists.mem_intercalate_of_mem listed member),
    Lists.forall_mem_intercalate between⟩

theorem encodable_quoted (text : Points) : Encodable (quoted text) ↔ Encodable text := by
  have escaped (point : Nat) : Encodable (escape point) ↔ isSurrogate point = false := by
    unfold escape
    cases surrogate : isSurrogate point with
    | true =>
        refine iff_of_false (fun clean => ?_) nofun
        rw [clean point List.mem_cons_self] at surrogate
        cases surrogate
    | false => exact iff_of_true (encodable_points _) rfl
  have quote : Encodable [doubleQuote.toNat] := encodable_points [doubleQuote]
  have body : Encodable (text.flatMap escape) ↔ Encodable text := by
    refine ⟨fun clean point member => (escaped point).mp fun other inside => ?_, ?_⟩
    · exact clean other (List.mem_flatMap.mpr ⟨point, member, inside⟩)
    · intro clean other inside
      obtain ⟨point, member, inside⟩ := List.mem_flatMap.mp inside
      exact (escaped point).mpr (clean point member) other inside
  rw [quoted, ← List.singleton_append, encodable_append, encodable_append, body]
  exact ⟨fun all => all.2.1, fun clean => ⟨quote, clean, quote⟩⟩

mutual

/-- A value has a text with an encoding just when each of its strings has one. -/
theorem encodable_dumps_iff {comma colon : Points} (betweenItems : Encodable comma)
    (afterKey : Encodable colon) : ∀ value : Value,
    Encodable (dumps comma colon value) ↔ value.Clean
  | .null => iff_of_true (encodable_points _) trivial
  | .bool _ => iff_of_true (encodable_points _) trivial
  | .number _ => iff_of_true (encodable_points _) trivial
  | .str text => encodable_quoted text
  | .arr items => by
      rw [dumps, encodable_append, encodable_append, encodable_intercalate betweenItems,
        encodable_dumpsItems_iff betweenItems afterKey items]
      exact ⟨fun all => all.2.1, fun clean => ⟨encodable_points _, clean, encodable_points _⟩⟩
  | .obj fields => by
      rw [dumps, encodable_append, encodable_append, encodable_intercalate betweenItems,
        encodable_dumpsFields_iff betweenItems afterKey fields]
      exact ⟨fun all => all.2.1, fun clean => ⟨encodable_points _, clean, encodable_points _⟩⟩

theorem encodable_dumpsItems_iff {comma colon : Points} (betweenItems : Encodable comma)
    (afterKey : Encodable colon) : ∀ items : List Value,
    (∀ part ∈ dumpsItems comma colon items, Encodable part) ↔ CleanItems items
  | [] => iff_of_true (fun _ member => absurd member List.not_mem_nil) trivial
  | item :: rest => by
      rw [dumpsItems, List.forall_mem_cons, encodable_dumps_iff betweenItems afterKey item,
        encodable_dumpsItems_iff betweenItems afterKey rest]
      rfl

theorem encodable_dumpsFields_iff {comma colon : Points} (betweenItems : Encodable comma)
    (afterKey : Encodable colon) : ∀ fields : List (Points × Value),
    (∀ part ∈ dumpsFields comma colon fields, Encodable part) ↔ CleanFields fields
  | [] => iff_of_true (fun _ member => absurd member List.not_mem_nil) trivial
  | (key, value) :: rest => by
      rw [dumpsFields, List.forall_mem_cons, encodable_append, encodable_append, encodable_quoted,
        encodable_dumps_iff betweenItems afterKey value,
        encodable_dumpsFields_iff betweenItems afterKey rest]
      exact and_congr_left' ⟨fun all => ⟨all.1.1, all.2⟩,
        fun clean => ⟨⟨clean.1, afterKey⟩, clean.2⟩⟩

end

theorem encodable_spaced_iff (value : Value) : Encodable (spaced value) ↔ value.Clean :=
  encodable_dumps_iff (encodable_points _) (encodable_points _) value

theorem encodable_compact_iff (value : Value) : Encodable (compact value) ↔ value.Clean :=
  encodable_dumps_iff (encodable_points _) (encodable_points _) value

theorem clean_of_find {fields : List (Points × Value)} (clean : CleanFields fields) {key : Points}
    {value : Value} (found : Dict.find key fields = some value) : value.Clean := by
  induction fields with
  | nil => cases found
  | cons field rest ih =>
      rw [Dict.find] at found
      split at found
      · rw [← Option.some.inj found]
        exact clean.1.2
      · exact ih clean.2 found

inductive Failure where
  | decodeError
  | valueError
  | recursionError
  deriving DecidableEq

abbrev Read (α : Type) := Except Failure (α × List Char)

def required {α : Type} : Option α → Except Failure α
  | some found => .ok found
  | none => .error .decodeError

/-- What follows the backslash of an escape; a surrogate without a partner stands for itself. -/
def readEscape : List Char → Option (Nat × List Char)
  | [] => none
  | letter :: rest =>
      if letter = 'u' then
        (JsonText.readHex rest).map fun first =>
          if 0xD800 ≤ first.1 ∧ first.1 ≤ 0xDBFF then
            match JsonText.readLowSurrogate first.1 first.2 with
            | some (joined, after) => (joined.toNat, after)
            | none => first
          else first
      else (JsonText.unescape? letter).map fun char => (char.toNat, rest)

/-- A string literal after its opening quote. -/
def readString : Nat → List Char → Option (Points × List Char)
  | 0, _ => none
  | _ + 1, [] => none
  | fuel + 1, char :: rest =>
      if char = doubleQuote then some ([], rest)
      else if char = backslash then
        (readEscape rest).bind fun read =>
          (readString fuel read.2).map fun found => (read.1 :: found.1, found.2)
      else if char.toNat < 32 then none
      else (readString fuel rest).map fun found => (char.toNat :: found.1, found.2)

section Decoder

-- The text that `json.dumps` gives a number with a fraction or an exponent, and the limit
-- of `int` for the digits of a text.
variable (float : List Char → List Char) (digitLimit : Nat)

def constants : List (List Char × Value) :=
  [("null".toList, .null), ("true".toList, .bool true), ("false".toList, .bool false)] ++
    ["NaN", "Infinity", "-Infinity"].map fun text => (text.toList, .number text.toList)

def readNumber (chars : List Char) : Except Failure (Value × List Char) := do
  let (sign, unsigned) := JsonText.readMinus chars
  let (digits, rest) ← required (JsonText.readInteger unsigned)
  let (fraction, afterFraction) := JsonText.readFraction rest
  let (exponent, afterExponent) := JsonText.readExponent afterFraction
  if fraction = [] ∧ exponent = [] then
    if digitLimit < digits.length then throw .valueError
    let text := if digits = ['0'] then digits else sign ++ digits
    return (.number text, rest)
  else return (.number (float (sign ++ digits ++ fraction ++ exponent)), afterExponent)

def readAtom (chars : List Char) : Read Value :=
  match constants.find? fun constant => constant.1.isPrefixOf chars with
  | some (text, value) => .ok (value, chars.drop text.length)
  | none => readNumber float digitLimit chars

/-- A member's name and the colon after it. -/
def readKey : List Char → Option (Points × List Char)
  | [] => none
  | quote :: rest =>
      if quote = doubleQuote then
        (readString (rest.length + 1) rest).bind fun found =>
          (JsonText.expect ':' found.2).map fun after => (found.1, after)
      else none

mutual

/-- A value in which lists and objects may nest `room` deep. -/
def readValue : Nat → Nat → List Char → Read Value
  | 0, _, _ => .error .decodeError
  | _ + 1, _, [] => .error .decodeError
  | fuel + 1, room, char :: rest =>
      if char = doubleQuote then
        (required (readString (rest.length + 1) rest)).map fun found => (.str found.1, found.2)
      else if char = openBrace then
        if room = 0 then .error .recursionError
        else match JsonText.expect closeBrace rest with
          | some after => .ok (.obj [], after)
          | none => readFields fuel (room - 1) [] (JsonText.skip rest)
      else if char = '[' then
        if room = 0 then .error .recursionError
        else match JsonText.expect ']' rest with
          | some after => .ok (.arr [], after)
          | none => readItems fuel (room - 1) [] (JsonText.skip rest)
      else readAtom float digitLimit (char :: rest)

/-- The members of an object; a repeated name keeps its place and the last value. -/
def readFields : Nat → Nat → List (Points × Value) → List Char → Read Value
  | 0, _, _, _ => .error .decodeError
  | fuel + 1, room, fields, chars =>
      (required (readKey chars)).bind fun key =>
        (readValue fuel room (JsonText.skip key.2)).bind fun value =>
          match JsonText.expect closeBrace value.2 with
          | some after => .ok (.obj (Dict.put key.1 value.1 fields), after)
          | none =>
              (required (JsonText.expect ',' value.2)).bind fun after =>
                readFields fuel room (Dict.put key.1 value.1 fields) (JsonText.skip after)

def readItems : Nat → Nat → List Value → List Char → Read Value
  | 0, _, _, _ => .error .decodeError
  | fuel + 1, room, items, chars =>
      (readValue fuel room chars).bind fun value =>
        match JsonText.expect ']' value.2 with
        | some after => .ok (.arr (items ++ [value.1]), after)
        | none =>
            (required (JsonText.expect ',' value.2)).bind fun after =>
              readItems fuel room (items ++ [value.1]) (JsonText.skip after)

end

/-- `json.loads`. -/
def loads (nesting : Nat) (chars : List Char) : Except Failure Value :=
  (readValue float digitLimit (chars.length + 1) nesting (JsonText.skip chars)).bind fun found =>
    if JsonText.skip found.2 = [] then .ok found.1 else .error .decodeError

end Decoder

end ZaofuFormal.Foundation.JsonOutcomes
