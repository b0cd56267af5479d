import Mathlib.Data.List.Basic

/-!
# Backtracking patterns

The fragment of regular expressions whose repetitions range over one character
class.  A match is searched from left to right with backtracking: the ways to
split the remaining text are listed in the order in which the engine tries
them, and the first one is the match.
-/

namespace ZaofuFormal.Foundation

inductive Regex where
  | empty
  | char (accepts : Char → Bool)
  | boundary
  | seq (first second : Regex)
  | alt (first second : Regex)
  | many (greedy : Bool) (least : Nat) (accepts : Char → Bool)

namespace Regex

/-- The characters of a text one after the other, compared by `same`. -/
def literal (same : Char → Char → Bool) (text : String) : Regex :=
  text.toList.foldr (fun letter rest => .seq (.char (same letter)) rest) .empty

/-- Any of several patterns, tried in order. -/
def oneOf : List Regex → Regex
  | [] => .char fun _ => false
  | pattern :: rest => .alt pattern (oneOf rest)

section Matching

variable (isWord : Char → Bool)

/-- The ways in which a pattern takes an initial part of the text, the preferred
one first; `before` is the character to the left of the text. -/
def splits : Regex → Option Char → List Char → List (List Char × List Char)
  | .empty, _, text => [([], text)]
  | .char _, _, [] => []
  | .char accepts, _, head :: rest => if accepts head then [([head], rest)] else []
  | .boundary, before, text =>
      if before.any isWord = text.head?.any isWord then [] else [([], text)]
  | .seq first second, before, text =>
      (splits first before text).flatMap fun taken =>
        (splits second (taken.1.getLast?.or before) taken.2).map fun next =>
          (taken.1 ++ next.1, next.2)
  | .alt first second, before, text => splits first before text ++ splits second before text
  | .many greedy least accepts, _, text =>
      let counts := (List.range ((text.takeWhile accepts).length + 1)).filter (least ≤ ·)
      (if greedy then counts.reverse else counts).map fun count =>
        (text.take count, text.drop count)

/-- Match several patterns in a row and keep what each of them took. -/
def groups : List Regex → Option Char → List Char → List (List (List Char) × List Char)
  | [], _, text => [([], text)]
  | pattern :: rest, before, text =>
      (splits isWord pattern before text).flatMap fun taken =>
        (groups rest (taken.1.getLast?.or before) taken.2).map fun found =>
          (taken.1 :: found.1, found.2)

/-- Replace the matches from left to right.  No pattern in use matches the empty
text, so one unit of fuel for every character is enough. -/
def substitute (patterns : List Regex) (template : List (List Char) → List Char) :
    Nat → Option Char → List Char → List Char
  | 0, _, text => text
  | _ + 1, _, [] => []
  | fuel + 1, before, head :: rest =>
      match (groups isWord patterns before (head :: rest)).head? with
      | none => head :: substitute patterns template fuel (some head) rest
      | some found =>
          template found.1 ++
            substitute patterns template fuel (found.1.flatten.getLast?.or before) found.2

/-- `re.sub` with a template that may refer to the groups of the match. -/
def sub (patterns : List Regex) (template : List (List Char) → List Char) (text : String) :
    String :=
  String.ofList (substitute isWord patterns template text.length none text.toList)

theorem sub_empty (patterns : List Regex) (template : List (List Char) → List Char) :
    sub isWord patterns template "" = "" := rfl

variable {isWord} in
/-- A text of one character stays when the pattern does not match it. -/
theorem sub_single {patterns : List Regex} (template : List (List Char) → List Char) {single : Char}
    (unmatched : groups isWord patterns none [single] = []) :
    sub isWord patterns template (String.ofList [single]) = String.ofList [single] := by
  simp [sub, substitute, unmatched]

end Matching

end Regex

end ZaofuFormal.Foundation
