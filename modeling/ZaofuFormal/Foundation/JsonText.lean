import Mathlib.Data.List.TakeDrop
import ZaofuFormal.Foundation.Json
import ZaofuFormal.Foundation.Sorting

/-!
# JSON texts

The compact serializer with sorted keys that leaves code points outside ASCII
as they are, and the decoder.  The text of an object is self-delimiting: the
decoder reads back an object of scalars whatever follows it, and no proper
initial part of such a text decodes.

The value of a number with a fraction or an exponent, and of the three
non-finite constants, is a parameter of the decoder.  An escaped surrogate
without its partner is refused, as no string of Lean holds it.
-/

namespace ZaofuFormal.Foundation.JsonText

open Json (backslash doubleQuote hexDigit)

def openBrace : Char := Char.ofNat 123

def closeBrace : Char := Char.ofNat 125

/-! ## Writing -/

/-- The letter after the backslash, for the code points that have a short escape. -/
def shortEscape? (char : Char) : Option Char :=
  if char = doubleQuote ∨ char = backslash then some char
  else if char.toNat = 10 then some 'n'
  else if char.toNat = 13 then some 'r'
  else if char.toNat = 9 then some 't'
  else if char.toNat = 12 then some 'f'
  else if char.toNat = 8 then some 'b'
  else none

def escape (char : Char) : List Char :=
  match shortEscape? char with
  | some letter => [backslash, letter]
  | none =>
      if char.toNat < 32 then
        [backslash, 'u', '0', '0', hexDigit (char.toNat / 16), hexDigit (char.toNat % 16)]
      else [char]

def quoted (text : String) : List Char :=
  doubleQuote :: (text.toList.flatMap escape ++ [doubleQuote])

def intText : Int → List Char
  | .ofNat value => Nat.toDigits 10 value
  | .negSucc value => '-' :: Nat.toDigits 10 (value + 1)

/-- The members of an object in key order, between braces. -/
def braced (members : List (String × List Char)) : List Char :=
  openBrace :: ([','].intercalate
    (members.map fun entry => quoted entry.1 ++ ':' :: entry.2) ++ [closeBrace])

mutual

/-- `json.dumps(value, ensure_ascii=False, sort_keys=True, separators=(",", ":"))`. -/
def dumps : Json → List Char
  | .null => "null".toList
  | .bool true => "true".toList
  | .bool false => "false".toList
  | .int value => intText value
  | .float _ repr => repr.toList
  | .str value => quoted value
  | .arr items => '[' :: ([','].intercalate (dumpsItems items) ++ [']'])
  | .obj fields => braced (Sorting.sortedBy Prod.fst (dumpsFields fields))

def dumpsItems : List Json → List (List Char)
  | [] => []
  | item :: rest => dumps item :: dumpsItems rest

def dumpsFields : List (String × Json) → List (String × List Char)
  | [] => []
  | (key, value) :: rest => (key, dumps value) :: dumpsFields rest

end

/-! ## Reading -/

def isBlank (char : Char) : Bool :=
  char == ' ' || char.toNat == 9 || char.toNat == 10 || char.toNat == 13

def skip (chars : List Char) : List Char := chars.dropWhile isBlank

/-- The rest of the text after blanks and one given character. -/
def expect (char : Char) (chars : List Char) : Option (List Char) :=
  match skip chars with
  | [] => none
  | head :: rest => if head = char then some rest else none

def unescape? (letter : Char) : Option Char :=
  if letter = doubleQuote ∨ letter = backslash ∨ letter = '/' then some letter
  else if letter = 'n' then some (Char.ofNat 10)
  else if letter = 'r' then some (Char.ofNat 13)
  else if letter = 't' then some (Char.ofNat 9)
  else if letter = 'f' then some (Char.ofNat 12)
  else if letter = 'b' then some (Char.ofNat 8)
  else none

def hexValue? (char : Char) : Option Nat :=
  if char.isDigit then some (char.toNat - 48)
  else if 97 ≤ char.toNat ∧ char.toNat ≤ 102 then some (char.toNat - 87)
  else if 65 ≤ char.toNat ∧ char.toNat ≤ 70 then some (char.toNat - 55)
  else none

/-- Four hexadecimal digits. -/
def readHex : List Char → Option (Nat × List Char)
  | first :: second :: third :: fourth :: rest =>
      (hexValue? first).bind fun a => (hexValue? second).bind fun b =>
        (hexValue? third).bind fun c => (hexValue? fourth).bind fun d =>
          some (4096 * a + 256 * b + 16 * c + d, rest)
  | _ => none

def readLowSurrogate (high : Nat) : List Char → Option (Char × List Char)
  | slash :: letter :: rest =>
      if slash = backslash ∧ letter = 'u' then
        (readHex rest).bind fun low =>
          if 0xDC00 ≤ low.1 ∧ low.1 ≤ 0xDFFF then
            some (Char.ofNat (0x10000 + 1024 * (high - 0xD800) + (low.1 - 0xDC00)), low.2)
          else none
      else none
  | _ => none

/-- What follows the backslash of an escape. -/
def readEscape : List Char → Option (Char × List Char)
  | [] => none
  | letter :: rest =>
      if letter = 'u' then
        (readHex rest).bind fun high =>
          if 0xD800 ≤ high.1 ∧ high.1 ≤ 0xDBFF then readLowSurrogate high.1 high.2
          else if 0xDC00 ≤ high.1 ∧ high.1 ≤ 0xDFFF then none
          else some (Char.ofNat high.1, high.2)
      else (unescape? letter).map fun char => (char, rest)

/-- A string literal after its opening quote. -/
def readString : Nat → List Char → Option (List Char × List Char)
  | 0, _ => none
  | _ + 1, [] => none
  | fuel + 1, char :: rest =>
      if char = doubleQuote then some ([], rest)
      else if char = backslash then
        (readEscape rest).bind fun read =>
          (readString fuel read.2).map fun found => (read.1 :: found.1, found.2)
      else if char.toNat < 32 then none
      else (readString fuel rest).map fun found => (char :: found.1, found.2)

def readInteger : List Char → Option (List Char × List Char)
  | [] => none
  | char :: rest =>
      if char = '0' then some (['0'], rest)
      else if char.isDigit then
        some (char :: rest.takeWhile Char.isDigit, rest.dropWhile Char.isDigit)
      else none

def readFraction : List Char → List Char × List Char
  | [] => ([], [])
  | char :: rest =>
      if char = '.' ∧ rest.takeWhile Char.isDigit ≠ [] then
        ('.' :: rest.takeWhile Char.isDigit, rest.dropWhile Char.isDigit)
      else ([], char :: rest)

def readSign : List Char → List Char × List Char
  | [] => ([], [])
  | char :: rest => if char = '+' ∨ char = '-' then ([char], rest) else ([], char :: rest)

def readExponent : List Char → List Char × List Char
  | [] => ([], [])
  | letter :: rest =>
      if (letter = 'e' ∨ letter = 'E') ∧ (readSign rest).2.takeWhile Char.isDigit ≠ [] then
        (letter :: ((readSign rest).1 ++ (readSign rest).2.takeWhile Char.isDigit),
          (readSign rest).2.dropWhile Char.isDigit)
      else ([], letter :: rest)

def readMinus : List Char → List Char × List Char
  | [] => ([], [])
  | char :: rest => if char = '-' then (['-'], rest) else ([], char :: rest)

section Decoder

variable (float : String → Json)

/-- A number after its sign. -/
def readUnsigned (sign chars : List Char) : Option (Json × List Char) :=
  match readInteger chars with
  | none =>
      if "Infinity".toList.isPrefixOf chars then
        some (float (String.ofList (sign ++ "Infinity".toList)), chars.drop 8)
      else none
  | some (digits, rest) =>
      let fraction := readFraction rest
      let exponent := readExponent fraction.2
      if fraction.1 = [] ∧ exponent.1 = [] then
        let value : Int := Nat.ofDigitChars 10 digits 0
        some (.int (if sign = [] then value else -value), rest)
      else
        some (float (String.ofList (sign ++ digits ++ fraction.1 ++ exponent.1)), exponent.2)

def readNumber (chars : List Char) : Option (Json × List Char) :=
  readUnsigned float (readMinus chars).1 (readMinus chars).2

/-- The constant that starts with a letter. -/
def literal? (char : Char) : Option (String × Json) :=
  if char = 'n' then some ("null", .null)
  else if char = 't' then some ("true", .bool true)
  else if char = 'f' then some ("false", .bool false)
  else if char = 'N' then some ("NaN", float "NaN")
  else none

def readAtom (char : Char) (rest : List Char) : Option (Json × List Char) :=
  match literal? float char with
  | some (text, value) =>
      if text.toList.isPrefixOf (char :: rest) then
        some (value, (char :: rest).drop text.toList.length)
      else none
  | none => readNumber float (char :: rest)

/-- A member's name and the colon after it. -/
def readKey : List Char → Option (List Char × List Char)
  | [] => none
  | quote :: rest =>
      if quote = doubleQuote then
        (readString (rest.length + 1) rest).bind fun found =>
          (expect ':' found.2).map fun after => (found.1, after)
      else none

mutual

def readValue : Nat → List Char → Option (Json × List Char)
  | 0, _ => none
  | _ + 1, [] => none
  | fuel + 1, char :: rest =>
      if char = doubleQuote then
        (readString (rest.length + 1) rest).map fun found =>
          (.str (String.ofList found.1), found.2)
      else if char = openBrace then
        match expect closeBrace rest with
        | some after => some (.obj [], after)
        | none => readFields fuel [] (skip rest)
      else if char = '[' then
        match expect ']' rest with
        | some after => some (.arr [], after)
        | none => readItems fuel [] (skip rest)
      else readAtom float char rest

/-- The members of an object; a repeated name keeps its place and the last value. -/
def readFields : Nat → List (String × Json) → List Char → Option (Json × List Char)
  | 0, _, _ => none
  | fuel + 1, fields, chars =>
      (readKey chars).bind fun key =>
        (readValue fuel (skip key.2)).bind fun value =>
          match expect closeBrace value.2 with
          | some after => some (.obj (Dict.put (String.ofList key.1) value.1 fields), after)
          | none =>
              (expect ',' value.2).bind fun after =>
                readFields fuel (Dict.put (String.ofList key.1) value.1 fields) (skip after)

def readItems : Nat → List Json → List Char → Option (Json × List Char)
  | 0, _, _ => none
  | fuel + 1, items, chars =>
      (readValue fuel chars).bind fun value =>
        match expect ']' value.2 with
        | some after => some (.arr (items ++ [value.1]), after)
        | none =>
            (expect ',' value.2).bind fun after =>
              readItems fuel (items ++ [value.1]) (skip after)

end

/-- `json.loads`, when it does not raise. -/
def loads (chars : List Char) : Option Json :=
  (readValue float (chars.length + 1) (skip chars)).bind fun found =>
    if skip found.2 = [] then some found.1 else none

end Decoder

/-! ## Reading back what was written -/

variable {char stop head : Char} {fuel enough : Nat} {chars left digits : List Char} {value : Json}

theorem ofNat_of_toNat {code : Nat} (same : char.toNat = code) : Char.ofNat code = char := by
  rw [← same, Char.ofNat_toNat]

theorem unescape_of_shortEscape {letter : Char} (short : shortEscape? char = some letter) :
    unescape? letter = some char ∧ letter ≠ 'u' := by
  have special : doubleQuote ≠ 'u' ∧ backslash ≠ 'u' := by decide
  unfold shortEscape? at short
  split at short
  · rename_i itself
    obtain rfl := Option.some.inj short
    rcases itself with rfl | rfl
    · exact ⟨by simp [unescape?], special.1⟩
    · exact ⟨by simp [unescape?], special.2⟩
  · repeat' split at short
    all_goals first
      | (rename_i code
         obtain rfl := Option.some.inj short
         refine ⟨?_, by decide⟩
         rw [← ofNat_of_toNat code]
         decide)
      | cases short

theorem hexValue_hexDigit : ∀ digit < 16, hexValue? (hexDigit digit) = some digit := by
  decide

theorem readEscape_control (control : char.toNat < 32) (rest : List Char) :
    readEscape ('u' :: '0' :: '0' :: hexDigit (char.toNat / 16) ::
      hexDigit (char.toNat % 16) :: rest) = some (char, rest) := by
  have zero : hexValue? '0' = some 0 := by decide
  have code : 16 * (char.toNat / 16) + char.toNat % 16 = char.toNat := Nat.div_add_mod _ _
  simp only [readEscape, readHex, if_true, zero, hexValue_hexDigit (char.toNat / 16) (by omega),
    hexValue_hexDigit (char.toNat % 16) (by omega), Option.bind_some, Nat.mul_zero, Nat.zero_add,
    code]
  rw [if_neg (by omega), if_neg (by omega), Char.ofNat_toNat]

/-- Reading one escaped code point. -/
theorem readString_escape (fuel : Nat) (char : Char) (rest : List Char) :
    readString (fuel + 1) (escape char ++ rest) =
      (readString fuel rest).map fun found => (char :: found.1, found.2) := by
  have distinct : backslash ≠ doubleQuote := by decide
  unfold escape
  cases short : shortEscape? char with
  | some letter =>
      obtain ⟨back, notHex⟩ := unescape_of_shortEscape short
      simp [readString, readEscape, distinct, notHex, back]
  | none =>
      by_cases control : char.toNat < 32
      · simp only [control, if_true, List.cons_append, List.nil_append, readString, distinct,
          if_false, readEscape_control control, Option.bind_some]
      · have plain : ¬(char = doubleQuote ∨ char = backslash) := by
          intro itself
          simp [shortEscape?, itself] at short
        rw [not_or] at plain
        simp [readString, control, plain.1, plain.2]

theorem readString_escaped (text : List Char) (enough : text.length < fuel) (rest : List Char) :
    readString fuel (text.flatMap escape ++ doubleQuote :: rest) = some (text, rest) := by
  induction text generalizing fuel with
  | nil =>
      obtain ⟨fuel, rfl⟩ := Nat.exists_eq_succ_of_ne_zero (Nat.ne_of_gt enough)
      simp [readString]
  | cons char text ih =>
      obtain ⟨fuel, rfl⟩ := Nat.exists_eq_succ_of_ne_zero (Nat.ne_of_gt (Nat.zero_lt_of_lt enough))
      rw [List.flatMap_cons, List.append_assoc, readString_escape,
        ih (Nat.lt_of_succ_lt_succ enough)]
      rfl

theorem length_le_escaped (text : List Char) : text.length ≤ (text.flatMap escape).length := by
  induction text with
  | nil => exact Nat.le_refl _
  | cons char text ih =>
      have some : 1 ≤ (escape char).length := by
        unfold escape
        split
        · exact Nat.le_add_left _ _
        · split
          · exact Nat.le_add_left _ _
          · exact Nat.le_refl _
      rw [List.flatMap_cons, List.length_append, List.length_cons]
      omega

/-- The characters that may continue a number. -/
def numeric (char : Char) : Bool := char.isDigit || char == '.' || char == 'e' || char == 'E'

theorem head_toDigits {value : Nat} (positive : 0 < value) :
    ∃ head rest, Nat.toDigits 10 value = head :: rest ∧ head ≠ '0' := by
  induction value using Nat.strongRecOn with
  | ind value ih =>
      by_cases small : value < 10
      · refine ⟨value.digitChar, [], Nat.toDigits_of_lt_base small, ?_⟩
        have digits : ∀ digit < 10, 0 < digit → Nat.digitChar digit ≠ '0' := by decide
        exact digits value small positive
      · obtain ⟨head, rest, shape, nonzero⟩ := ih (value / 10) (by omega) (by omega)
        refine ⟨head, rest ++ [Nat.digitChar (value % 10)], ?_, nonzero⟩
        rw [Nat.toDigits_of_base_le (by decide) (by omega), shape, List.cons_append]

theorem takeWhile_append_stop {α : Type} {accepts : α → Bool} {items : List α} {stop : α}
    (all : ∀ item ∈ items, accepts item = true) (stops : accepts stop = false)
    (rest : List α) :
    (items ++ stop :: rest).takeWhile accepts = items ∧
      (items ++ stop :: rest).dropWhile accepts = stop :: rest := by
  rw [List.takeWhile_append_of_pos all, List.dropWhile_append_of_pos all]
  simp [stops]

theorem readInteger_toDigits (value : Nat) (stops : stop.isDigit = false) (rest : List Char) :
    readInteger (Nat.toDigits 10 value ++ stop :: rest) =
      some (Nat.toDigits 10 value, stop :: rest) := by
  rcases Nat.eq_zero_or_pos value with rfl | positive
  · simp [Nat.toDigits_zero, readInteger]
  · obtain ⟨head, tail, shape, nonzero⟩ := head_toDigits positive
    have digits : ∀ char ∈ head :: tail, char.isDigit = true := by
      intro char member
      exact Nat.isDigit_of_mem_toDigits (by decide) (by decide) (shape ▸ member)
    obtain ⟨taken, left⟩ := takeWhile_append_stop
      (fun char member => digits char (List.mem_cons_of_mem head member)) stops rest
    rw [shape, List.cons_append, readInteger, if_neg nonzero,
      if_pos (digits head List.mem_cons_self), taken, left]

theorem readFraction_stop (stops : numeric stop = false) (rest : List Char) :
    readFraction (stop :: rest) = ([], stop :: rest) := by
  have notDot : stop ≠ '.' := by
    rintro rfl
    exact absurd stops (by decide)
  simp [readFraction, notDot]

theorem readExponent_stop (stops : numeric stop = false) (rest : List Char) :
    readExponent (stop :: rest) = ([], stop :: rest) := by
  have notLetter : ¬(stop = 'e' ∨ stop = 'E') := by
    rintro (rfl | rfl)
    · exact absurd stops (by decide)
    · exact absurd stops (by decide)
  simp [readExponent, notLetter]

theorem isDigit_of_numeric (stops : numeric stop = false) : stop.isDigit = false := by
  simp only [numeric, Bool.or_eq_false_iff] at stops
  exact stops.1.1.1

variable (float : String → Json)

theorem readUnsigned_toDigits (sign : List Char) (value : Nat)
    (stops : numeric stop = false) (rest : List Char) :
    readUnsigned float sign (Nat.toDigits 10 value ++ stop :: rest) =
      some (.int (if sign = [] then (value : Int) else -value), stop :: rest) := by
  simp only [readUnsigned, readInteger_toDigits value (isDigit_of_numeric stops),
    readFraction_stop stops, readExponent_stop stops, and_self, if_true,
    Nat.ofDigitChars_ten_toDigits]

theorem isDigit_head_toDigits {value : Nat} {tail : List Char}
    (shape : Nat.toDigits 10 value = head :: tail) : head.isDigit = true :=
  Nat.isDigit_of_mem_toDigits (by decide) (by decide) (shape ▸ List.mem_cons_self)

theorem readNumber_intText (value : Int) (stops : numeric stop = false) (rest : List Char) :
    readNumber float (intText value ++ stop :: rest) = some (.int value, stop :: rest) := by
  cases value with
  | ofNat value =>
      have unsigned : readMinus (Nat.toDigits 10 value ++ stop :: rest) =
          ([], Nat.toDigits 10 value ++ stop :: rest) := by
        obtain ⟨head, tail, shape⟩ := List.exists_cons_of_ne_nil (@Nat.toDigits_ne_nil value 10)
        have notMinus : head ≠ '-' := by
          rintro rfl
          exact absurd (isDigit_head_toDigits shape) (by decide)
        rw [shape, List.cons_append, readMinus, if_neg notMinus]
      rw [readNumber, intText, unsigned]
      exact readUnsigned_toDigits float [] value stops rest
  | negSucc value =>
      rw [readNumber, intText, List.cons_append, readMinus, if_pos rfl]
      exact readUnsigned_toDigits float ['-'] (value + 1) stops rest

/-! ## Objects of scalars -/

/-- The values without parts. -/
inductive Scalar where
  | null
  | bool (value : Bool)
  | int (value : Int)
  | str (value : String)
deriving DecidableEq

def Scalar.toJson : Scalar → Json
  | .null => .null
  | .bool value => .bool value
  | .int value => .int value
  | .str value => .str value

/-- The object with the given fields. -/
def record (fields : List (String × Scalar)) : Json :=
  .obj (fields.map fun entry => (entry.1, entry.2.toJson))

theorem intText_head (value : Int) :
    ∃ head rest, intText value = head :: rest ∧ (head.isDigit = true ∨ head = '-') := by
  cases value with
  | ofNat value =>
      obtain ⟨head, tail, shape⟩ := List.exists_cons_of_ne_nil (@Nat.toDigits_ne_nil value 10)
      exact ⟨head, tail, shape, Or.inl (isDigit_head_toDigits shape)⟩
  | negSucc value => exact ⟨'-', Nat.toDigits 10 (value + 1), rfl, Or.inr rfl⟩

/-- A character that starts a number starts nothing else. -/
theorem number_head (start : head.isDigit = true ∨ head = '-') :
    head ≠ doubleQuote ∧ head ≠ openBrace ∧ head ≠ '[' ∧ literal? float head = none := by
  have apart : ∀ other : Char, other.isDigit = false → other ≠ '-' → head ≠ other := by
    rintro other notDigit notMinus rfl
    rcases start with digit | minus
    · rw [digit] at notDigit
      cases notDigit
    · exact notMinus minus
  refine ⟨apart _ (by decide) (by decide), apart _ (by decide) (by decide),
    apart _ (by decide) (by decide), ?_⟩
  unfold literal?
  rw [if_neg (apart 'n' (by decide) (by decide)), if_neg (apart 't' (by decide) (by decide)),
    if_neg (apart 'f' (by decide) (by decide)), if_neg (apart 'N' (by decide) (by decide))]

theorem readValue_quoted (fuel : Nat) (text : String) (rest : List Char) :
    readValue float (fuel + 1) (quoted text ++ rest) = some (.str text, rest) := by
  have body : readString ((text.toList.flatMap escape ++ doubleQuote :: rest).length + 1)
      (text.toList.flatMap escape ++ doubleQuote :: rest) = some (text.toList, rest) := by
    apply readString_escaped
    have longer := length_le_escaped text.toList
    rw [List.length_append]
    omega
  simp only [quoted, List.cons_append, List.append_assoc, List.nil_append, readValue, if_true,
    body, Option.map_some, String.ofList_toList]

theorem readValue_scalar (fuel : Nat) (value : Scalar)
    (stops : numeric stop = false) (rest : List Char) :
    readValue float (fuel + 1) (dumps value.toJson ++ stop :: rest) =
      some (value.toJson, stop :: rest) := by
  cases value with
  | null => rfl
  | bool value => cases value <;> rfl
  | int value =>
      obtain ⟨head, tail, shape, start⟩ := intText_head value
      obtain ⟨notQuote, notBrace, notBracket, notLiteral⟩ := number_head float start
      have number := readNumber_intText float value stops rest
      change readValue float (fuel + 1) (intText value ++ stop :: rest) =
        some (.int value, stop :: rest)
      rw [shape, List.cons_append] at number ⊢
      rw [readValue, if_neg notQuote, if_neg notBrace, if_neg notBracket, readAtom, notLiteral]
      exact number
  | str value => exact readValue_quoted float fuel value (stop :: rest)

theorem expect_head (solid : isBlank char = false) (rest : List Char) :
    expect char (char :: rest) = some rest := by
  simp [expect, skip, solid]

theorem expect_other (solid : isBlank head = false) (other : head ≠ char)
    (rest : List Char) : expect char (head :: rest) = none := by
  simp [expect, skip, solid, other]

theorem skip_head (solid : isBlank char = false) (rest : List Char) :
    skip (char :: rest) = char :: rest := by
  simp [skip, solid]

def member (entry : String × Scalar) : List Char :=
  quoted entry.1 ++ ':' :: dumps entry.2.toJson

theorem readKey_quoted (key : String) (rest : List Char) :
    readKey (quoted key ++ ':' :: rest) = some (key.toList, rest) := by
  have body : readString ((key.toList.flatMap escape ++ doubleQuote :: ':' :: rest).length + 1)
      (key.toList.flatMap escape ++ doubleQuote :: ':' :: rest) =
        some (key.toList, ':' :: rest) := by
    apply readString_escaped
    have longer := length_le_escaped key.toList
    rw [List.length_append]
    omega
  have colon : expect ':' (':' :: rest) = some rest := expect_head (by decide) rest
  simp only [quoted, List.cons_append, List.append_assoc, List.nil_append, readKey, if_true,
    body, Option.bind_some, colon, Option.map_some]

theorem dumps_scalar_head (value : Scalar) :
    ∃ head rest, dumps value.toJson = head :: rest ∧ isBlank head = false := by
  cases value with
  | null => exact ⟨'n', _, rfl, by decide⟩
  | bool value =>
      cases value with
      | true => exact ⟨'t', _, rfl, by decide⟩
      | false => exact ⟨'f', _, rfl, by decide⟩
  | int value =>
      obtain ⟨head, tail, shape, start⟩ := intText_head value
      refine ⟨head, tail, shape, ?_⟩
      have blanks : ∀ char : Char, isBlank char = true → char.isDigit = false ∧ char ≠ '-' := by
        intro char blank
        simp only [isBlank, Bool.or_eq_true, beq_iff_eq] at blank
        rcases blank with ((rfl | code) | code) | code
        · decide
        all_goals
          rw [← ofNat_of_toNat code]
          decide
      by_contra solid
      obtain ⟨notDigit, notMinus⟩ := blanks head (by simpa using solid)
      rcases start with digit | minus
      · rw [notDigit] at digit
        cases digit
      · exact notMinus minus
  | str value => exact ⟨doubleQuote, _, rfl, by decide⟩

theorem skip_scalar (value : Scalar) (rest : List Char) :
    skip (dumps value.toJson ++ rest) = dumps value.toJson ++ rest := by
  obtain ⟨head, tail, shape, solid⟩ := dumps_scalar_head value
  rw [shape, List.cons_append, skip_head solid]

/-- Fields written one after the other into what was read before. -/
def putAll (fields : List (String × Scalar)) (before : List (String × Json)) :
    List (String × Json) :=
  fields.foldl (fun known entry => Dict.put entry.1 entry.2.toJson known) before

variable {fields : List (String × Scalar)}

theorem readFields_members (nonempty : fields ≠ []) (enough : fields.length < fuel)
    (before : List (String × Json))
    (rest : List Char) :
    readFields float fuel before ([','].intercalate (fields.map member) ++ closeBrace :: rest) =
      some (.obj (putAll fields before), rest) := by
  induction fields generalizing fuel before with
  | nil => exact absurd rfl nonempty
  | cons entry others ih =>
      obtain ⟨fuel, rfl⟩ :=
        Nat.exists_eq_succ_of_ne_zero (Nat.ne_of_gt (Nat.zero_lt_of_lt enough))
      have left : others.length < fuel := Nat.lt_of_succ_lt_succ enough
      obtain ⟨fuel, rfl⟩ := Nat.exists_eq_succ_of_ne_zero (Nat.ne_of_gt (Nat.zero_lt_of_lt left))
      cases others with
      | nil =>
          have close : expect closeBrace (closeBrace :: rest) = some rest :=
            expect_head (by decide) rest
          have value := readValue_scalar float fuel entry.2
            (show numeric closeBrace = false by decide) rest
          simp only [List.map_cons, List.map_nil, List.intercalate_singleton, member,
            List.append_assoc, List.cons_append, readFields, readKey_quoted, Option.bind_some,
            skip_scalar, value, close, String.ofList_toList]
          rfl
      | cons next others =>
          have separated : ∀ text, expect closeBrace (',' :: text) = none :=
            expect_other (by decide) (by decide)
          have comma : ∀ text, expect ',' (',' :: text) = some text := expect_head (by decide)
          have value := fun text => readValue_scalar float fuel entry.2
            (show numeric ',' = false by decide) text
          have start : ∀ text, skip ([','].intercalate ((next :: others).map member) ++ text) =
              [','].intercalate ((next :: others).map member) ++ text := by
            intro text
            have solid : ∀ tail, skip (quoted next.1 ++ tail) = quoted next.1 ++ tail :=
              fun tail => skip_head (by decide) _
            cases others with
            | nil => simp only [List.map_cons, List.map_nil, List.intercalate_singleton, member,
                List.append_assoc, solid]
            | cons _ _ => simp only [List.map_cons, List.intercalate_cons_cons, member,
                List.append_assoc, solid]
          have later := ih (List.cons_ne_nil next others) left
            (Dict.put entry.1 entry.2.toJson before)
          rw [List.map_cons, List.map_cons, List.intercalate_cons_cons, ← List.map_cons, readFields]
          simp only [List.append_assoc, List.cons_append, List.nil_append]
          rw [member, List.append_assoc, List.cons_append, readKey_quoted, Option.bind_some]
          simp only [skip_scalar, value, Option.bind_some, separated, comma, start,
            String.ofList_toList]
          exact later

theorem putAll_of_distinct {before : List (String × Json)} (distinct : (fields.map Prod.fst).Nodup)
    (fresh : ∀ key ∈ fields.map Prod.fst, key ∉ before.map Prod.fst) :
    putAll fields before = before ++ fields.map fun entry => (entry.1, entry.2.toJson) := by
  induction fields generalizing before with
  | nil => simp [putAll]
  | cons entry rest ih =>
      rw [List.map_cons, List.nodup_cons] at distinct
      have absent := fresh entry.1 (by simp)
      rw [putAll, List.foldl_cons, Dict.put_of_notMem absent]
      refine (ih distinct.2 fun key later => ?_).trans (by simp)
      rw [List.map_append, List.mem_append, not_or]
      refine ⟨fresh key (List.mem_cons_of_mem entry.1 later), ?_⟩
      rintro here
      rw [List.map_singleton, List.mem_singleton] at here
      exact distinct.1 (here ▸ later)

theorem dumpsFields_eq (fields : List (String × Json)) :
    dumpsFields fields = fields.map fun entry => (entry.1, dumps entry.2) := by
  induction fields with
  | nil => simp [dumpsFields]
  | cons entry rest ih => simp [dumpsFields, ih]

/-- The text of an object of scalars lists its members in key order. -/
theorem dumps_record (fields : List (String × Scalar)) :
    dumps (record fields) = openBrace :: ([','].intercalate
      ((Sorting.sortedBy Prod.fst fields).map member) ++ [closeBrace]) := by
  rw [record, dumps, dumpsFields_eq, List.map_map, Sorting.sortedBy_map, braced, List.map_map]
  rfl

/-- The decoder reads an object of scalars back, in key order, whatever follows it. -/
theorem readValue_record
    (distinct : (fields.map Prod.fst).Nodup) (enough : fields.length + 1 < fuel)
    (rest : List Char) :
    readValue float fuel (dumps (record fields) ++ rest) =
      some (record (Sorting.sortedBy Prod.fst fields), rest) := by
  have perm := Sorting.sortedBy_perm Prod.fst fields
  rw [← perm.length_eq] at enough
  rw [← (perm.map Prod.fst).nodup_iff] at distinct
  rw [dumps_record]
  generalize Sorting.sortedBy Prod.fst fields = fields at distinct enough
  obtain ⟨fuel, rfl⟩ := Nat.exists_eq_succ_of_ne_zero (Nat.ne_of_gt (Nat.zero_lt_of_lt enough))
  have notQuote : openBrace ≠ doubleQuote := by decide
  rw [List.cons_append, List.append_assoc, readValue, if_neg notQuote, if_pos rfl]
  cases fields with
  | nil => rfl
  | cons entry others =>
      have start : ∃ text, [','].intercalate ((entry :: others).map member) ++
          ([closeBrace] ++ rest) = doubleQuote :: text := by
        cases others <;> exact ⟨_, rfl⟩
      have fields := readFields_members float (List.cons_ne_nil entry others)
        (Nat.lt_of_succ_lt_succ enough) [] rest
      rw [putAll_of_distinct distinct (by simp)] at fields
      obtain ⟨text, shape⟩ := start
      have started : expect closeBrace (doubleQuote :: text) = none :=
        expect_other (by decide) (by decide) text
      rw [shape, started, skip_head (by decide), ← shape]
      exact fields

/-! ## What follows a value -/

theorem dropWhile_append_stop {α : Type} {accepts : α → Bool} {items left : List α} {stop : α}
    (found : items.dropWhile accepts = stop :: left) (more : List α) :
    (items ++ more).dropWhile accepts = stop :: (left ++ more) ∧
      (items ++ more).takeWhile accepts = items.takeWhile accepts := by
  induction items with
  | nil => cases found
  | cons item rest ih =>
      by_cases accepted : accepts item = true
      · rw [List.dropWhile_cons_of_pos accepted] at found
        simpa [accepted] using ih found
      · rw [List.dropWhile_cons_of_neg accepted] at found
        obtain ⟨rfl, rfl⟩ := List.cons.inj found
        simp [accepted]

theorem skip_append (found : skip chars = head :: left)
    (more : List Char) : skip (chars ++ more) = head :: (left ++ more) :=
  (dropWhile_append_stop found more).1

theorem skip_of_expect (found : expect char chars = some left) : skip chars = char :: left := by
  unfold expect at found
  split at found
  · cases found
  · rename_i head rest shape
    split at found
    · rename_i same
      rw [shape, same, Option.some.inj found]
    · cases found

theorem expect_append (found : expect char chars = some left) (more : List Char) :
    expect char (chars ++ more) = some (left ++ more) := by
  rw [expect, skip_append (skip_of_expect found)]
  exact if_pos rfl

/-- Where one character is found, no other is, and more text changes nothing. -/
theorem expect_append_none {other : Char}
    (found : expect char chars = some left) (different : char ≠ other) (more : List Char) :
    expect other (chars ++ more) = none := by
  rw [expect, skip_append (skip_of_expect found)]
  exact if_neg different

/-- After a value and blanks comes a character that is not part of a number. -/
theorem stop_of_expect (stops : numeric char = false) (found : expect char chars = some left) :
    ∃ head rest, chars = head :: rest ∧ numeric head = false := by
  have shape := skip_of_expect found
  cases chars with
  | nil => cases shape
  | cons head rest =>
      refine ⟨head, rest, rfl, ?_⟩
      by_cases blank : isBlank head = true
      · simp only [isBlank, Bool.or_eq_true, beq_iff_eq] at blank
        rcases blank with ((rfl | code) | code) | code
        · decide
        all_goals
          rw [← ofNat_of_toNat code]
          decide
      · rw [skip, List.dropWhile_cons_of_neg blank] at shape
        rw [(List.cons.inj shape).1]
        exact stops

theorem readHex_append {found : Nat × List Char}
    (read : readHex chars = some found) (more : List Char) :
    readHex (chars ++ more) = some (found.1, found.2 ++ more) := by
  match chars with
  | [] | [_] | [_, _] | [_, _, _] => cases read
  | first :: second :: third :: fourth :: rest =>
      simp only [List.cons_append, readHex, Option.bind_eq_some_iff] at read ⊢
      obtain ⟨a, ha, b, hb, c, hc, d, hd, same⟩ := read
      cases Option.some.inj same
      exact ⟨a, ha, b, hb, c, hc, d, hd, rfl⟩

theorem readLowSurrogate_append {high : Nat} {found : Char × List Char}
    (read : readLowSurrogate high chars = some found) (more : List Char) :
    readLowSurrogate high (chars ++ more) = some (found.1, found.2 ++ more) := by
  match chars with
  | [] | [_] => cases read
  | slash :: letter :: rest =>
      simp only [List.cons_append, readLowSurrogate] at read ⊢
      split at read
      · rename_i escaped
        rw [if_pos escaped]
        obtain ⟨low, hex, final⟩ := Option.bind_eq_some_iff.mp read
        rw [readHex_append hex, Option.bind_some]
        split at final
        · rename_i inRange
          cases Option.some.inj final
          rw [if_pos inRange]
        · cases final
      · cases read

theorem readEscape_append {found : Char × List Char}
    (read : readEscape chars = some found) (more : List Char) :
    readEscape (chars ++ more) = some (found.1, found.2 ++ more) := by
  cases chars with
  | nil => cases read
  | cons letter rest =>
      simp only [List.cons_append, readEscape] at read ⊢
      split at read
      · rename_i unicode
        rw [if_pos unicode]
        obtain ⟨high, hex, final⟩ := Option.bind_eq_some_iff.mp read
        rw [readHex_append hex, Option.bind_some]
        split at final
        · rename_i inRange
          rw [if_pos inRange]
          exact readLowSurrogate_append final more
        · rename_i outside
          rw [if_neg outside]
          split at final
          · cases final
          · rename_i single
            cases Option.some.inj final
            rw [if_neg single]
      · rename_i plain
        obtain ⟨char, letter, rfl⟩ := Option.map_eq_some_iff.mp read
        rw [if_neg plain, letter]
        rfl

theorem readString_append (le : fuel ≤ enough)
    {found : List Char × List Char} (read : readString fuel chars = some found)
    (more : List Char) :
    readString enough (chars ++ more) = some (found.1, found.2 ++ more) := by
  induction fuel generalizing enough chars found with
  | zero => cases read
  | succ fuel ih =>
      obtain ⟨enough, rfl⟩ := Nat.exists_eq_add_of_lt le
      cases chars with
      | nil => cases read
      | cons char rest =>
          have le : fuel ≤ fuel + enough := Nat.le_add_right _ _
          rw [List.cons_append, readString]
          rw [readString] at read
          split at read
          · rename_i closing
            cases Option.some.inj read
            rw [if_pos closing]
          · rename_i notClosing
            rw [if_neg notClosing]
            split at read
            · rename_i escaped
              rw [if_pos escaped]
              obtain ⟨first, one, final⟩ := Option.bind_eq_some_iff.mp read
              obtain ⟨others, later, rfl⟩ := Option.map_eq_some_iff.mp final
              rw [readEscape_append one, Option.bind_some, ih le later]
              rfl
            · rename_i notEscaped
              rw [if_neg notEscaped]
              split at read
              · cases read
              · rename_i printable
                obtain ⟨others, later, rfl⟩ := Option.map_eq_some_iff.mp read
                rw [if_neg printable, ih le later]
                rfl

theorem readInteger_append
    (read : readInteger chars = some (digits, stop :: left)) (more : List Char) :
    readInteger (chars ++ more) = some (digits, stop :: (left ++ more)) := by
  cases chars with
  | nil => cases read
  | cons char rest =>
      simp only [List.cons_append, readInteger] at read ⊢
      split at read
      · rename_i zero
        cases Option.some.inj read
        rw [if_pos zero, List.cons_append]
      · rename_i nonzero
        rw [if_neg nonzero]
        split at read
        · rename_i digit
          obtain ⟨taken, dropped⟩ := Prod.mk.inj (Option.some.inj read)
          obtain ⟨drop, take⟩ := dropWhile_append_stop dropped more
          rw [if_pos digit, drop, take, taken]
        · cases read

theorem readFraction_append
    (read : readFraction chars = (digits, stop :: left)) (notDot : stop ≠ '.')
    (more : List Char) :
    readFraction (chars ++ more) = (digits, stop :: (left ++ more)) := by
  cases chars with
  | nil => cases read
  | cons char rest =>
      simp only [List.cons_append, readFraction] at read ⊢
      split at read
      · rename_i fraction
        obtain ⟨taken, dropped⟩ := Prod.mk.inj read
        obtain ⟨drop, take⟩ := dropWhile_append_stop dropped more
        rw [take, drop, if_pos fraction, taken]
      · obtain ⟨taken, whole⟩ := Prod.mk.inj read
        obtain ⟨rfl, rfl⟩ := List.cons.inj whole
        rw [if_neg (fun fraction => notDot fraction.1), taken]

theorem readSign_append (nonempty : chars ≠ []) (more : List Char) :
    readSign (chars ++ more) = ((readSign chars).1, (readSign chars).2 ++ more) := by
  cases chars with
  | nil => exact absurd rfl nonempty
  | cons char rest =>
      simp only [List.cons_append, readSign]
      split
      · rfl
      · rfl

theorem readExponent_append
    (read : readExponent chars = (digits, stop :: left)) (stops : numeric stop = false)
    (more : List Char) :
    readExponent (chars ++ more) = (digits, stop :: (left ++ more)) := by
  cases chars with
  | nil => cases read
  | cons letter rest =>
      rw [readExponent] at read
      split at read
      · rename_i exponent
        have nonempty : rest ≠ [] := by
          rintro rfl
          exact exponent.2 rfl
        obtain ⟨taken, dropped⟩ := Prod.mk.inj read
        obtain ⟨drop, take⟩ := dropWhile_append_stop dropped more
        rw [List.cons_append, readExponent, readSign_append nonempty, take, drop,
          if_pos exponent, taken]
      · obtain ⟨taken, whole⟩ := Prod.mk.inj read
        rw [whole, List.cons_append, readExponent_stop stops, taken]

theorem readMinus_append (nonempty : chars ≠ []) (more : List Char) :
    readMinus (chars ++ more) = ((readMinus chars).1, (readMinus chars).2 ++ more) := by
  cases chars with
  | nil => exact absurd rfl nonempty
  | cons char rest =>
      simp only [List.cons_append, readMinus]
      split
      · rfl
      · rfl

/-- The exponent of a number that is followed by something else does not start at a dot. -/
theorem head_of_readExponent
    (read : readExponent chars = (digits, stop :: left)) (stops : numeric stop = false) :
    ∃ head rest, chars = head :: rest ∧ head ≠ '.' := by
  cases chars with
  | nil => cases read
  | cons head rest =>
      refine ⟨head, rest, rfl, ?_⟩
      rintro rfl
      have plain : readExponent ('.' :: rest) = ([], '.' :: rest) := by
        simp [readExponent]
      rw [plain] at read
      obtain ⟨rfl, _⟩ := List.cons.inj (Prod.mk.inj read).2
      exact absurd stops (by decide)

theorem readUnsigned_append {sign : List Char}
    (read : readUnsigned float sign chars = some (value, stop :: left))
    (stops : numeric stop = false) (more : List Char) :
    readUnsigned float sign (chars ++ more) = some (value, stop :: (left ++ more)) := by
  unfold readUnsigned at read
  split at read
  · rename_i notInteger
    split at read
    · rename_i infinite
      obtain ⟨rest, rfl⟩ := List.isPrefixOf_iff_prefix.mp infinite
      obtain ⟨rfl, dropped⟩ := Prod.mk.inj (Option.some.inj read)
      have rest : rest = stop :: left := dropped
      rw [rest]
      rfl
    · cases read
  · rename_i digits rest integer
    dsimp only at read
    split at read
    · rename_i whole
      obtain ⟨rfl, rfl⟩ := Prod.mk.inj (Option.some.inj read)
      rw [readUnsigned, readInteger_append integer]
      simp only [readFraction_stop stops, readExponent_stop stops, and_self, if_true]
    · rename_i fractional
      obtain ⟨rfl, exponent⟩ := Prod.mk.inj (Option.some.inj read)
      have scanned : readExponent (readFraction rest).2 =
          ((readExponent (readFraction rest).2).1, stop :: left) := Prod.ext rfl exponent
      obtain ⟨head, tail, shape, notDot⟩ := head_of_readExponent scanned stops
      have fraction : readFraction rest = ((readFraction rest).1, head :: tail) :=
        Prod.ext rfl shape
      have follows : ∃ next others, rest = next :: others := by
        cases rest with
        | nil => cases shape
        | cons next others => exact ⟨next, others, rfl⟩
      obtain ⟨next, others, rfl⟩ := follows
      have longer := readExponent_append scanned stops more
      rw [shape, List.cons_append] at longer
      rw [readUnsigned, readInteger_append integer]
      dsimp only
      rw [← List.cons_append, readFraction_append fraction notDot, longer, shape]
      rw [shape] at fractional
      rw [if_neg fractional]

theorem readNumber_append (read : readNumber float chars = some (value, stop :: left))
    (stops : numeric stop = false) (more : List Char) :
    readNumber float (chars ++ more) = some (value, stop :: (left ++ more)) := by
  have nonempty : chars ≠ [] := by
    rintro rfl
    cases read
  rw [readNumber, readMinus_append nonempty]
  exact readUnsigned_append float read stops more

theorem readAtom_append {rest : List Char}
    (read : readAtom float char rest = some (value, stop :: left))
    (stops : numeric stop = false) (more : List Char) :
    readAtom float char (rest ++ more) = some (value, stop :: (left ++ more)) := by
  unfold readAtom at read ⊢
  split at read
  · rename_i text constant literal
    split at read
    · rename_i spelled
      obtain ⟨tail, shape⟩ := List.isPrefixOf_iff_prefix.mp spelled
      obtain ⟨rfl, dropped⟩ := Prod.mk.inj (Option.some.inj read)
      rw [← shape, List.drop_left] at dropped
      rw [← List.cons_append, ← shape, List.append_assoc, dropped]
      simp
    · cases read
  · rw [← List.cons_append]
    exact readNumber_append float read stops more

theorem readKey_append {found : List Char × List Char}
    (read : readKey chars = some found) (more : List Char) :
    readKey (chars ++ more) = some (found.1, found.2 ++ more) := by
  cases chars with
  | nil => cases read
  | cons quote rest =>
      simp only [List.cons_append, readKey] at read ⊢
      split at read
      · rename_i opening
        obtain ⟨key, text, final⟩ := Option.bind_eq_some_iff.mp read
        obtain ⟨after, colon, rfl⟩ := Option.map_eq_some_iff.mp final
        have longer : rest.length + 1 ≤ (rest ++ more).length + 1 := by
          rw [List.length_append]
          omega
        rw [if_pos opening, readString_append longer text, Option.bind_some,
          expect_append colon]
        rfl
      · cases read

/-- Where a value ends: before a character that no number contains, or anywhere
when the value is an object. -/
def Ends (chars left : List Char) : Prop :=
  (∃ stop rest, left = stop :: rest ∧ numeric stop = false) ∨ chars.head? = some openBrace

/-- More fuel and more text leave a value that was read as it is. -/
def Extends (fuel : Nat) : Prop :=
  (∀ enough, fuel ≤ enough → ∀ chars value left more, Ends chars left →
    readValue float fuel chars = some (value, left) →
      readValue float enough (chars ++ more) = some (value, left ++ more)) ∧
  (∀ enough, fuel ≤ enough → ∀ fields chars value left more,
    readFields float fuel fields chars = some (value, left) →
      readFields float enough fields (chars ++ more) = some (value, left ++ more)) ∧
  (∀ enough, fuel ≤ enough → ∀ items chars value left more,
    readItems float fuel items chars = some (value, left) →
      readItems float enough items (chars ++ more) = some (value, left ++ more))

theorem skip_append_of_ne (nonempty : skip chars ≠ []) (more : List Char) :
    skip (chars ++ more) = skip chars ++ more := by
  obtain ⟨head, tail, shape⟩ := List.exists_cons_of_ne_nil nonempty
  rw [shape]
  exact skip_append shape more

theorem expect_append_of_none (missing : expect char chars = none)
    (nonempty : skip chars ≠ []) (more : List Char) : expect char (chars ++ more) = none := by
  obtain ⟨head, tail, shape⟩ := List.exists_cons_of_ne_nil nonempty
  rw [expect, shape] at missing
  rw [expect, skip_append shape]
  dsimp only at missing ⊢
  split at missing
  · cases missing
  · rename_i different
    rw [if_neg different]

theorem readFields_nil (fuel : Nat) (fields : List (String × Json)) :
    readFields float fuel fields [] = none := by
  cases fuel with
  | zero => rw [readFields]
  | succ fuel => simp [readFields, readKey]

theorem readItems_nil (fuel : Nat) (items : List Json) : readItems float fuel items [] = none := by
  cases fuel with
  | zero => rw [readItems]
  | succ fuel => cases fuel <;> simp [readItems, readValue]

theorem readValue_append (ih : Extends float fuel) (le : fuel ≤ enough) (ends : Ends chars left)
    (read : readValue float (fuel + 1) chars = some (value, left)) (more : List Char) :
    readValue float (enough + 1) (chars ++ more) = some (value, left ++ more) := by
  cases chars with
  | nil => rw [readValue] at read; cases read
  | cons char rest =>
      rw [List.cons_append, readValue]
      rw [readValue] at read
      split at read
      · rename_i quote
        obtain ⟨text, body, same⟩ := Option.map_eq_some_iff.mp read
        have longer : rest.length + 1 ≤ (rest ++ more).length + 1 := by
          rw [List.length_append]
          omega
        obtain ⟨rfl, rfl⟩ := Prod.mk.inj same
        rw [if_pos quote, readString_append longer body]
        rfl
      · rename_i notQuote
        rw [if_neg notQuote]
        split at read
        · rename_i brace
          rw [if_pos brace]
          split at read
          · rename_i after closing
            cases Option.some.inj read
            rw [expect_append closing]
          · rename_i notClosing
            have nonempty : skip rest ≠ [] := by
              intro empty
              rw [empty, readFields_nil] at read
              cases read
            rw [expect_append_of_none notClosing nonempty, skip_append_of_ne nonempty]
            exact ih.2.1 enough le [] (skip rest) value left more read
        · rename_i notBrace
          rw [if_neg notBrace]
          split at read
          · rename_i bracket
            rw [if_pos bracket]
            split at read
            · rename_i after closing
              cases Option.some.inj read
              rw [expect_append closing]
            · rename_i notClosing
              have nonempty : skip rest ≠ [] := by
                intro empty
                rw [empty, readItems_nil] at read
                cases read
              rw [expect_append_of_none notClosing nonempty, skip_append_of_ne nonempty]
              exact ih.2.2 enough le [] (skip rest) value left more read
          · rename_i notBracket
            rw [if_neg notBracket]
            rcases ends with ⟨stop, tail, rfl, stops⟩ | brace
            · exact readAtom_append float read stops more
            · exact absurd (Option.some.inj brace) notBrace

theorem readFields_append (ih : Extends float fuel)
    (le : fuel ≤ enough) {fields : List (String × Json)}
    (read : readFields float (fuel + 1) fields chars = some (value, left)) (more : List Char) :
    readFields float (enough + 1) fields (chars ++ more) = some (value, left ++ more) := by
  rw [readFields] at read ⊢
  obtain ⟨key, keyRead, read⟩ := Option.bind_eq_some_iff.mp read
  obtain ⟨first, firstRead, read⟩ := Option.bind_eq_some_iff.mp read
  have nonempty : skip key.2 ≠ [] := by
    intro empty
    rw [empty] at firstRead
    cases fuel <;> rw [readValue] at firstRead <;> cases firstRead
  rw [readKey_append keyRead, Option.bind_some, skip_append_of_ne nonempty]
  split at read
  · rename_i after closing
    cases Option.some.inj read
    have ends : Ends (skip key.2) first.2 := Or.inl (stop_of_expect (by decide) closing)
    rw [ih.1 enough le _ first.1 first.2 more ends firstRead, Option.bind_some,
      expect_append closing]
  · obtain ⟨after, comma, read⟩ := Option.bind_eq_some_iff.mp read
    have ends : Ends (skip key.2) first.2 := Or.inl (stop_of_expect (by decide) comma)
    have later : skip after ≠ [] := by
      intro empty
      rw [empty, readFields_nil] at read
      cases read
    rw [ih.1 enough le _ first.1 first.2 more ends firstRead, Option.bind_some,
      expect_append_none comma (by decide), expect_append comma]
    dsimp only
    rw [Option.bind_some, skip_append_of_ne later]
    exact ih.2.1 enough le _ _ value left more read

theorem readItems_append (ih : Extends float fuel) (le : fuel ≤ enough) {items : List Json}
    (read : readItems float (fuel + 1) items chars = some (value, left)) (more : List Char) :
    readItems float (enough + 1) items (chars ++ more) = some (value, left ++ more) := by
  rw [readItems] at read ⊢
  obtain ⟨first, firstRead, read⟩ := Option.bind_eq_some_iff.mp read
  split at read
  · rename_i after closing
    cases Option.some.inj read
    have ends : Ends chars first.2 := Or.inl (stop_of_expect (by decide) closing)
    rw [ih.1 enough le _ first.1 first.2 more ends firstRead, Option.bind_some,
      expect_append closing]
  · obtain ⟨after, comma, read⟩ := Option.bind_eq_some_iff.mp read
    have ends : Ends chars first.2 := Or.inl (stop_of_expect (by decide) comma)
    have later : skip after ≠ [] := by
      intro empty
      rw [empty, readItems_nil] at read
      cases read
    rw [ih.1 enough le _ first.1 first.2 more ends firstRead, Option.bind_some,
      expect_append_none comma (by decide), expect_append comma]
    dsimp only
    rw [Option.bind_some, skip_append_of_ne later]
    exact ih.2.2 enough le _ _ value left more read

theorem extends_all (fuel : Nat) : Extends float fuel := by
  induction fuel with
  | zero =>
      refine ⟨?_, ?_, ?_⟩
      · intro enough _ chars value left more _ read
        rw [readValue] at read
        cases read
      · intro enough _ fields chars value left more read
        rw [readFields] at read
        cases read
      · intro enough _ items chars value left more read
        rw [readItems] at read
        cases read
  | succ fuel ih =>
      refine ⟨?_, ?_, ?_⟩
      · intro enough le chars value left more ends read
        obtain ⟨enough, rfl⟩ := Nat.exists_eq_succ_of_ne_zero (Nat.ne_of_gt (Nat.zero_lt_of_lt le))
        exact readValue_append float ih (Nat.le_of_succ_le_succ le) ends read more
      · intro enough le fields chars value left more read
        obtain ⟨enough, rfl⟩ := Nat.exists_eq_succ_of_ne_zero (Nat.ne_of_gt (Nat.zero_lt_of_lt le))
        exact readFields_append float ih (Nat.le_of_succ_le_succ le) read more
      · intro enough le items chars value left more read
        obtain ⟨enough, rfl⟩ := Nat.exists_eq_succ_of_ne_zero (Nat.ne_of_gt (Nat.zero_lt_of_lt le))
        exact readItems_append float ih (Nat.le_of_succ_le_succ le) read more

/-! ## Records as lines of a file -/

theorem length_le_intercalate {separator : Char} {texts : List (List Char)}
    (positive : ∀ text ∈ texts, 0 < text.length) :
    texts.length ≤ ([separator].intercalate texts).length := by
  induction texts with
  | nil => exact Nat.le_refl _
  | cons text rest ih =>
      have first := positive text List.mem_cons_self
      have later := ih fun other member => positive other (List.mem_cons_of_mem text member)
      cases rest with
      | nil =>
          rw [List.intercalate_singleton]
          exact first
      | cons next rest =>
          rw [List.intercalate_cons_cons, List.length_append, List.length_append]
          simp only [List.length_cons, List.length_nil] at later ⊢
          omega

theorem length_le_dumps_record (fields : List (String × Scalar)) :
    fields.length + 1 < (dumps (record fields)).length + 1 := by
  have bound : ((Sorting.sortedBy Prod.fst fields).map member).length ≤
      ([','].intercalate ((Sorting.sortedBy Prod.fst fields).map member)).length := by
    apply length_le_intercalate
    intro text present
    obtain ⟨entry, _, rfl⟩ := List.mem_map.mp present
    simp [member, quoted]
  rw [List.length_map, (Sorting.sortedBy_perm Prod.fst fields).length_eq] at bound
  rw [dumps_record, List.length_cons, List.length_append, List.length_singleton]
  omega

theorem skip_dumps_record (fields : List (String × Scalar)) (rest : List Char) :
    skip (dumps (record fields) ++ rest) = dumps (record fields) ++ rest := by
  rw [dumps_record, List.cons_append, skip_head (by decide)]

/-- A record is read back from its text, with its fields in key order. -/
theorem loads_dumps_record (distinct : (fields.map Prod.fst).Nodup) :
    loads float (dumps (record fields)) =
      some (record (Sorting.sortedBy Prod.fst fields)) := by
  have read := readValue_record float distinct (length_le_dumps_record fields) []
  have start := skip_dumps_record fields []
  rw [List.append_nil] at read start
  rw [loads, start, read]
  rfl

/-- No proper initial part of a record's text decodes. -/
theorem loads_initial (distinct : (fields.map Prod.fst).Nodup) {initial rest : List Char}
    (cut : dumps (record fields) = initial ++ rest) (nonempty : initial ≠ [])
    (proper : rest ≠ []) : loads float initial = none := by
  rw [Option.eq_none_iff_forall_ne_some]
  intro value decoded
  obtain ⟨found, read, _⟩ := Option.bind_eq_some_iff.mp decoded
  obtain ⟨head, tail, rfl⟩ := List.exists_cons_of_ne_nil nonempty
  have brace : head = openBrace := by
    rw [dumps_record, List.cons_append] at cut
    exact (List.cons.inj cut).1.symm
  subst brace
  rw [skip_head (by decide)] at read
  have longer : (openBrace :: tail).length + 1 ≤ (dumps (record fields)).length + 1 := by
    rw [cut, List.length_append]
    omega
  have extended := (extends_all float _).1 _ longer _ found.1 found.2 rest (Or.inr rfl) read
  have whole := readValue_record float distinct (length_le_dumps_record fields) []
  rw [List.append_nil, cut] at whole
  rw [cut, whole] at extended
  have leftover := (Prod.mk.inj (Option.some.inj extended)).2
  exact proper (List.append_eq_nil_iff.mp leftover.symm).2

end ZaofuFormal.Foundation.JsonText
