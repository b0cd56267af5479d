import Mathlib.Data.Rat.Floor
import ZaofuFormal.Foundation.Dict
import ZaofuFormal.Foundation.PyString

/-!
# JSON values and the conversions applied to them

Event payloads and stored records are decoded JSON.  The programs read them
through a small set of conversions of the source language: truth value, `str`,
`int`, `float` and dictionary access.  A finite float is represented by its
value together with the text that `repr` prints for it, which is all that these
conversions observe.  `repr` of a string escapes the control characters of
ASCII; other code points are printed as they are.
-/

namespace ZaofuFormal.Foundation

inductive Json where
  | null
  | bool (value : Bool)
  | int (value : Int)
  | float (value : Rat) (repr : String)
  | str (value : String)
  | arr (items : List Json)
  | obj (fields : List (String × Json))

namespace Json

instance : Inhabited Json := ⟨null⟩

mutual

def same : Json → Json → Bool
  | .null, .null => true
  | .bool first, .bool second => first == second
  | .int first, .int second => first == second
  | .float first firstRepr, .float second secondRepr =>
      first == second && firstRepr == secondRepr
  | .str first, .str second => first == second
  | .arr first, .arr second => sameItems first second
  | .obj first, .obj second => sameFields first second
  | _, _ => false

def sameItems : List Json → List Json → Bool
  | [], [] => true
  | first :: rest, second :: others => same first second && sameItems rest others
  | _, _ => false

def sameFields : List (String × Json) → List (String × Json) → Bool
  | [], [] => true
  | (key, first) :: rest, (other, second) :: others =>
      key == other && same first second && sameFields rest others
  | _, _ => false

end

mutual

theorem same_iff : ∀ first second : Json, same first second = true ↔ first = second
  | .null, second => by cases second <;> simp [same]
  | .bool first, second => by cases second <;> simp [same]
  | .int first, second => by cases second <;> simp [same]
  | .float first firstRepr, second => by cases second <;> simp [same]
  | .str first, second => by cases second <;> simp [same]
  | .arr first, second => by
      cases second with
      | arr second => simp [same, sameItems_iff first second]
      | _ => simp [same]
  | .obj first, second => by
      cases second with
      | obj second => simp [same, sameFields_iff first second]
      | _ => simp [same]

theorem sameItems_iff : ∀ first second : List Json,
    sameItems first second = true ↔ first = second
  | [], second => by cases second <;> simp [sameItems]
  | first :: rest, second => by
      cases second with
      | nil => simp [sameItems]
      | cons second others => simp [sameItems, same_iff first second, sameItems_iff rest others]

theorem sameFields_iff : ∀ first second : List (String × Json),
    sameFields first second = true ↔ first = second
  | [], second => by cases second <;> simp [sameFields]
  | (key, first) :: rest, second => by
      cases second with
      | nil => simp [sameFields]
      | cons second others =>
          obtain ⟨other, second⟩ := second
          simp [sameFields, same_iff first second, sameFields_iff rest others]

end

instance : DecidableEq Json := fun first second =>
  decidable_of_iff (same first second = true) (same_iff first second)

/-- The truth value of a decoded value. -/
def truthy : Json → Bool
  | .null => false
  | .bool value => value
  | .int value => value != 0
  | .float value _ => value != 0
  | .str value => value != ""
  | .arr items => !items.isEmpty
  | .obj fields => !fields.isEmpty

def hexDigit (value : Nat) : Char :=
  ("0123456789abcdef".toList).getD value '0'

def backslash : Char := Char.ofNat 92

def singleQuote : Char := Char.ofNat 39

def doubleQuote : Char := Char.ofNat 34

/-- One code point inside a quoted string; unprintable code points above ASCII, which the code
escapes, stand for themselves here. -/
def reprChar (quote : Char) (char : Char) : List Char :=
  if char = backslash ∨ char = quote then [backslash, char]
  else if char.toNat = 10 then [backslash, 'n']
  else if char.toNat = 13 then [backslash, 'r']
  else if char.toNat = 9 then [backslash, 't']
  else if char.toNat < 32 ∨ char.toNat = 127 then
    [backslash, 'x', hexDigit (char.toNat / 16), hexDigit (char.toNat % 16)]
  else [char]

/-- Quote a string; double quotes are used when it holds single quotes only. -/
def reprString (text : String) : String :=
  let quote :=
    if singleQuote ∈ text.toList ∧ doubleQuote ∉ text.toList then doubleQuote else singleQuote
  String.ofList ([quote] ++ text.toList.flatMap (reprChar quote) ++ [quote])

mutual

def repr : Json → String
  | .null => "None"
  | .bool true => "True"
  | .bool false => "False"
  | .int value => toString value
  | .float _ text => text
  | .str value => reprString value
  | .arr items => "[" ++ String.intercalate ", " (reprItems items) ++ "]"
  | .obj fields => "\x7b" ++ String.intercalate ", " (reprFields fields) ++ "\x7d"

def reprItems : List Json → List String
  | [] => []
  | item :: rest => repr item :: reprItems rest

def reprFields : List (String × Json) → List String
  | [] => []
  | (key, value) :: rest => (reprString key ++ ": " ++ repr value) :: reprFields rest

end

/-- `str(value)`. -/
def pyStr : Json → String
  | .str value => value
  | value => repr value

/-- `str(value or "")`, the reading of almost every textual field. -/
def text (value : Json) : String := if value.truthy then value.pyStr else ""

/-- `int(value)`, when it does not raise. -/
def int? : Json → Option Int
  | .bool value => some (if value then 1 else 0)
  | .int value => some value
  | .float value _ => some (if 0 ≤ value then ⌊value⌋ else ⌈value⌉)
  | .str value => PyString.parseInt? value
  | _ => none

/-- `int(value or 0)`, when it does not raise. -/
def intOrZero? (value : Json) : Option Int :=
  if value.truthy then value.int? else some 0

/-- The value of a number; truth values count as numbers. -/
def number? : Json → Option Rat
  | .bool value => some (if value then 1 else 0)
  | .int value => some value
  | .float value _ => some value
  | _ => none

mutual

/-- Equality as `==` decides it: numbers by value, objects without key order. -/
def equal : Json → Json → Bool
  | .null, second => second == .null
  | .str first, second => second == .str first
  | .bool first, second => second.number? == some (if first then 1 else 0)
  | .int first, second => second.number? == some (first : Rat)
  | .float first _, second => second.number? == some first
  | .arr first, .arr second => equalItems first second
  | .obj first, .obj second => first.length == second.length && equalFields first second
  | _, _ => false

def equalItems : List Json → List Json → Bool
  | [], [] => true
  | first :: rest, second :: others => equal first second && equalItems rest others
  | _, _ => false

def equalFields : List (String × Json) → List (String × Json) → Bool
  | [], _ => true
  | (key, first) :: rest, second =>
      (match Dict.find key second with
        | none => false
        | some value => equal first value) && equalFields rest second

end

/-- Values that can be members of a set. -/
def hashable : Json → Bool
  | .arr _ => false
  | .obj _ => false
  | _ => true

/-- The fields of an object; any other value has none. -/
def fields : Json → List (String × Json)
  | .obj fields => fields
  | _ => []

def isObject : Json → Bool
  | .obj _ => true
  | _ => false

/-- `value.get(key)` on an object; a missing field reads as `null`. -/
def get (value : Json) (key : String) : Json := (Dict.find key value.fields).getD .null

/-- The value itself when it is an object, and an empty object otherwise. -/
def objectOrEmpty (value : Json) : Json := if value.isObject then value else .obj []

/-- `dict(value or {})`; a list of pairs counts as a value that is refused. -/
def object? (value : Json) : Option Json :=
  if !value.truthy then some (.obj []) else if value.isObject then some value else none

/-- `list(value or [])`: the characters of a text, the names of an object; a number is refused. -/
def list? (value : Json) : Option (List Json) :=
  if !value.truthy then some []
  else
    match value with
    | .arr items => some items
    | .str text => some (text.toList.map fun char => .str (String.singleton char))
    | .obj fields => some (fields.map fun field => .str field.1)
    | _ => none

/-- The textual reading of a field. -/
def textAt (value : Json) (key : String) : String := (value.get key).text

def ofDict (dict : Dict String Json) : Json := .obj dict.entries

@[simp] theorem text_str (value : String) : (Json.str value).text = value := by
  by_cases empty : value = ""
  · simp [text, truthy, empty]
  · simp [text, truthy, empty, pyStr]

theorem get_ofDict (dict : Dict String Json) (key : String) :
    (ofDict dict).get key = (dict.get? key).getD .null := rfl

end Json

end ZaofuFormal.Foundation
