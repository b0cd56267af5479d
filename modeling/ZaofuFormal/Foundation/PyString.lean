import Mathlib.Data.List.DropRight
import Mathlib.Data.String.Basic
import ZaofuFormal.Foundation.Lists

/-!
# String operations of the source language

Trimming, prefix tests, joining and integer parsing, defined on the list of
code points so that they evaluate, with the facts about separators that the
identity strings built from them rely on.
-/

namespace ZaofuFormal.Foundation.PyString

/-- The code points that the default `strip` removes. -/
def isSpace (char : Char) : Bool :=
  let code := char.toNat
  (9 ≤ code && code ≤ 13) || (28 ≤ code && code ≤ 32) || code == 0x85 || code == 0xA0 ||
    code == 0x1680 || (0x2000 ≤ code && code ≤ 0x200A) || code == 0x2028 || code == 0x2029 ||
    code == 0x202F || code == 0x205F || code == 0x3000

def stripChars (chars : List Char) : List Char :=
  ((chars.dropWhile isSpace).reverse.dropWhile isSpace).reverse

/-- Remove white space at both ends. -/
def strip (text : String) : String := String.ofList (stripChars text.toList)

def startsWith (text stem : String) : Bool := stem.toList.isPrefixOf text.toList

/-- A string made of white space only, the empty string included. -/
def isBlank (text : String) : Bool := strip text == ""

theorem mem_of_mem_stripChars {char : Char} {chars : List Char}
    (member : char ∈ stripChars chars) : char ∈ chars := by
  have inner := (List.dropWhile_sublist isSpace).subset (List.mem_reverse.mp member)
  exact (List.dropWhile_sublist isSpace).subset (List.mem_reverse.mp inner)

/-- Trimming introduces no new code point. -/
theorem mem_of_mem_strip {char : Char} {text : String}
    (member : char ∈ (strip text).toList) : char ∈ text.toList := by
  rw [strip, String.toList_ofList] at member
  exact mem_of_mem_stripChars member

/-- What is trimmed away at both ends is white space. -/
theorem stripChars_split (chars : List Char) :
    ∃ front back, chars = front ++ (stripChars chars ++ back) ∧
      (∀ char ∈ front, isSpace char = true) ∧ ∀ char ∈ back, isSpace char = true := by
  have inner : chars.dropWhile isSpace = stripChars chars ++
      ((chars.dropWhile isSpace).reverse.takeWhile isSpace).reverse := by
    rw [stripChars, ← List.reverse_append, List.takeWhile_append_dropWhile, List.reverse_reverse]
  refine ⟨chars.takeWhile isSpace,
    ((chars.dropWhile isSpace).reverse.takeWhile isSpace).reverse, ?_,
    fun char => List.mem_takeWhile_imp, ?_⟩
  · rw [← inner, List.takeWhile_append_dropWhile]
  · intro char member
    exact List.mem_takeWhile_imp (List.mem_reverse.mp member)

/-- A text that starts and ends with other characters keeps them. -/
theorem stripChars_eq_self {chars : List Char} (first : chars.head?.any isSpace = false)
    (last : chars.getLast?.any isSpace = false) : stripChars chars = chars := by
  have front : chars.dropWhile isSpace = chars := by
    cases chars with
    | nil => rfl
    | cons char rest => exact List.dropWhile_cons_of_neg (by simpa using first)
  have back : chars.reverse.dropWhile isSpace = chars.reverse := by
    rw [← List.head?_reverse] at last
    cases shape : chars.reverse with
    | nil => rfl
    | cons char rest =>
        rw [shape] at last
        exact List.dropWhile_cons_of_neg (by simpa using last)
  rw [stripChars, front, back, List.reverse_reverse]

theorem stripChars_idempotent (chars : List Char) :
    stripChars (stripChars chars) = stripChars chars := by
  have trimmed : (stripChars chars).dropWhile isSpace = stripChars chars := by
    rw [List.dropWhile_eq_self_iff]
    intro nonempty
    have initial : stripChars chars <+: chars.dropWhile isSpace :=
      List.rdropWhile_prefix isSpace (chars.dropWhile isSpace)
    have longer := nonempty.trans_le initial.length_le
    rw [List.IsPrefix.getElem initial nonempty]
    exact List.dropWhile_eq_self_iff.mp (List.dropWhile_idempotent isSpace chars) longer
  rw [stripChars, trimmed]
  exact List.rdropWhile_idempotent isSpace (chars.dropWhile isSpace)

@[simp] theorem strip_strip (text : String) : strip (strip text) = strip text := by
  rw [strip, strip, String.toList_ofList, stripChars_idempotent]

@[simp] theorem strip_empty : strip "" = "" := rfl

/-- A text is not blank when it has a code point that is not white space. -/
theorem isBlank_eq_false_iff (text : String) :
    isBlank text = false ↔ ∃ char ∈ text.toList, isSpace char = false := by
  have empty : isBlank text = true ↔ stripChars text.toList = [] := by
    rw [isBlank, beq_iff_eq, strip]
    exact ⟨fun same => by simpa using congrArg String.toList same, fun same => by rw [same]⟩
  rw [← Bool.not_eq_true, empty]
  constructor
  · intro filled
    by_contra none
    have spaces : ∀ char ∈ text.toList, isSpace char = true := fun char member =>
      Bool.not_eq_false _ ▸ fun other => none ⟨char, member, other⟩
    rw [stripChars, List.dropWhile_eq_nil_iff.mpr spaces] at filled
    exact filled rfl
  · rintro ⟨char, member, other⟩ stripped
    obtain ⟨front, back, split, before, after⟩ := stripChars_split text.toList
    rw [split, stripped, List.nil_append, List.mem_append] at member
    rw [member.elim (before char) (after char)] at other
    cases other

theorem isBlank_append {text : String} (filled : isBlank text = false) (rest : String) :
    isBlank (text ++ rest) = false := by
  obtain ⟨char, member, other⟩ := (isBlank_eq_false_iff text).mp filled
  refine (isBlank_eq_false_iff _).mpr ⟨char, ?_, other⟩
  rw [String.toList_append]
  exact List.mem_append_left _ member

theorem isBlank_strip {text : String} (filled : strip text ≠ "") :
    isBlank (strip text) = false := by
  rw [isBlank, strip_strip]
  exact beq_eq_false_iff_ne.mpr filled

/-- `lower()` as comparisons with ASCII words see it: the Kelvin sign is the only other code
point that lowers to an ASCII letter. -/
def lowerWord (text : String) : String :=
  String.ofList (text.toList.map fun char =>
    if char.toNat = 0x212A then 'k' else char.toLower)

/-- Put a one-character separator between the parts. -/
def join (separator : Char) (parts : List String) : String :=
  String.ofList ([separator].intercalate (parts.map String.toList))

/-- The first part of a join is determined by the joined string, when it does
not contain the separator and another part follows. -/
theorem join_cons_cons_inj {separator : Char} {first second next other : String}
    {rest others : List String}
    (firstClean : separator ∉ first.toList) (secondClean : separator ∉ second.toList)
    (same : join separator (first :: next :: rest) = join separator (second :: other :: others)) :
    first = second ∧ join separator (next :: rest) = join separator (other :: others) := by
  have chars := congrArg String.toList same
  simp only [join, String.toList_ofList, List.map_cons, List.intercalate_cons_cons,
    List.append_assoc, List.singleton_append] at chars
  obtain ⟨heads, tails⟩ := Lists.append_cons_inj_of_notMem_head firstClean secondClean chars
  refine ⟨String.toList_injective heads, ?_⟩
  rw [join, join, List.map_cons, List.map_cons, tails]

/-- Cut a string at every occurrence of a one-character separator. -/
def splitOn (separator : Char) (text : String) : List String :=
  (text.toList.splitOn separator).map String.ofList

/-- Lower-case the letters of ASCII. -/
def lowerAscii (text : String) : String := String.ofList (text.toList.map Char.toLower)

/-- The code points at which `splitlines` cuts. -/
def isLineBreak (char : Char) : Bool :=
  let code := char.toNat
  (10 ≤ code && code ≤ 13) || (28 ≤ code && code ≤ 30) || code == 0x85 || code == 0x2028 ||
    code == 0x2029

/-- The lines of what is left, after the start of a line and maybe a carriage return
that a following line feed belongs to. -/
def splitlinesFrom : Bool → List Char → List Char → List (List Char)
  | _, line, [] => if line = [] then [] else [line]
  | returned, line, char :: rest =>
      if returned && char.toNat == 10 then splitlinesFrom false line rest
      else if isLineBreak char then line :: splitlinesFrom (char.toNat == 13) [] rest
      else splitlinesFrom false (line ++ [char]) rest

def splitlines (chars : List Char) : List (List Char) := splitlinesFrom false [] chars

/-- A line ends at the first break. -/
theorem splitlinesFrom_line (line : List Char) {body : List Char} {stop : Char}
    (clean : ∀ char ∈ body, isLineBreak char = false) (breaks : isLineBreak stop = true)
    (rest : List Char) :
    splitlinesFrom false line (body ++ stop :: rest) =
      (line ++ body) :: splitlinesFrom (stop.toNat == 13) [] rest := by
  induction body generalizing line with
  | nil => simp [splitlinesFrom, breaks]
  | cons char body ih =>
      have here := clean char List.mem_cons_self
      rw [List.cons_append, splitlinesFrom, here]
      simpa using ih (line ++ [char]) fun other member =>
        clean other (List.mem_cons_of_mem char member)

def digit? (char : Char) : Option Nat :=
  if '0' ≤ char ∧ char ≤ '9' then some (char.toNat - '0'.toNat) else none

/-- Read decimal digits; a single underscore may stand between two digits. -/
def parseDigits (acc : Nat) : List Char → Option Nat
  | [] => some acc
  | '_' :: char :: rest => (digit? char).bind fun value => parseDigits (10 * acc + value) rest
  | char :: rest => (digit? char).bind fun value => parseDigits (10 * acc + value) rest

def parseNat? : List Char → Option Nat
  | [] => none
  | char :: rest => (digit? char).bind fun value => parseDigits value rest

/-- The integer written in a string, as `int` reads it; decimal digits of Unicode other than the
ASCII ones, which `int` takes too, are refused here. -/
def parseInt? (text : String) : Option Int :=
  match stripChars text.toList with
  | '-' :: rest => (parseNat? rest).map fun value => -(value : Int)
  | '+' :: rest => (parseNat? rest).map fun value => (value : Int)
  | chars => (parseNat? chars).map fun value => (value : Int)

-- Texts are compared through the lemmas above; unfolding them costs too much elsewhere.
attribute [irreducible] strip

end ZaofuFormal.Foundation.PyString
