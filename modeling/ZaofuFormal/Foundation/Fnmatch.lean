import Mathlib.Data.List.Infix

/-!
# Shell-style patterns

Matching of a whole text against a pattern in which a star stands for any text,
a question mark for one character and a bracket for a choice of characters.  A
bracket that is never closed stands for itself.
-/

namespace ZaofuFormal.Foundation.Fnmatch

inductive Item where
  | star
  | any
  | choice (negated : Bool) (ranges : List (Char × Char))
  | literal (char : Char)

/-- The ranges of a bracket; a single character is a range of its own. -/
def ranges : List Char → List (Char × Char)
  | first :: '-' :: last :: rest => (first, last) :: ranges rest
  | char :: rest => (char, char) :: ranges rest
  | [] => []

/-- The inside of a bracket and what follows it; a closing bracket in first place is
a member. -/
def bracket (chars : List Char) : Option (List Char × List Char) :=
  let taken := match chars with
    | '!' :: ']' :: rest => (['!', ']'], rest)
    | '!' :: rest => (['!'], rest)
    | ']' :: rest => ([']'], rest)
    | rest => ([], rest)
  match taken.2.dropWhile (· ≠ ']') with
  | [] => none
  | _ :: after => some (taken.1 ++ taken.2.takeWhile (· ≠ ']'), after)

def choice : List Char → Item
  | '!' :: inside => .choice true (ranges inside)
  | inside => .choice false (ranges inside)

/-- The items of a pattern.  One unit of fuel for every character is enough. -/
def items : Nat → List Char → List Item
  | 0, _ => []
  | _ + 1, [] => []
  | fuel + 1, '*' :: rest => .star :: items fuel rest
  | fuel + 1, '?' :: rest => .any :: items fuel rest
  | fuel + 1, '[' :: rest =>
      match bracket rest with
      | none => .literal '[' :: items fuel rest
      | some (inside, after) => choice inside :: items fuel after
  | fuel + 1, char :: rest => .literal char :: items fuel rest

def accepts (char : Char) : Item → Bool
  | .star => false
  | .any => true
  | .choice negated ranges =>
      (ranges.any fun range => decide (range.1 ≤ char ∧ char ≤ range.2)) != negated
  | .literal other => char == other

def matchItems : List Item → List Char → Bool
  | [], text => text.isEmpty
  | .star :: rest, text => text.tails.any (matchItems rest)
  | item :: rest, text =>
      match text with
      | [] => false
      | char :: chars => accepts char item && matchItems rest chars

/-- `fnmatch(text, pattern)`. -/
def fnmatch (text pattern : List Char) : Bool := matchItems (items pattern.length pattern) text

/-- The characters that make a text a pattern. -/
def isGlob (char : Char) : Bool := char == '*' || char == '?' || char == '['

/-- A pattern without special characters matches itself only. -/
theorem fnmatch_of_plain {text pattern : List Char}
    (plain : ∀ char ∈ pattern, isGlob char = false) : fnmatch text pattern = (text == pattern) := by
  unfold fnmatch
  induction pattern generalizing text with
  | nil => cases text <;> rfl
  | cons char rest ih =>
      have here := plain char List.mem_cons_self
      have later : ∀ text, matchItems (items rest.length rest) text = (text == rest) := fun text =>
        ih fun other member => plain other (List.mem_cons_of_mem char member)
      simp only [isGlob, Bool.or_eq_false_iff, beq_eq_false_iff_ne] at here
      have literal : items (rest.length + 1) (char :: rest) =
          .literal char :: items rest.length rest := by
        rw [items]
        · exact here.1.1
        · exact here.1.2
        · exact here.2
      rw [List.length_cons, literal]
      cases text with
      | nil => rfl
      | cons first chars =>
          rw [matchItems, accepts, later]
          · rfl
          · simp

end ZaofuFormal.Foundation.Fnmatch
