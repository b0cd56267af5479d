import ZaofuFormal.Foundation.Lines
import ZaofuFormal.Foundation.PyString

/-!
# Lines of a text file

A file opened in text mode is read with its line ends translated, and `splitlines`
keeps the line ends when it is told to.  A text whose only breaks are line feeds,
each maybe behind a carriage return, is cut into its lines and what follows the
last line feed.
-/

namespace ZaofuFormal.Foundation.TextLines

open Lines (unlines)
open PyString (isLineBreak isSpace stripChars)

/-- The translation of line ends on reading. -/
def universalNewlines : List Char → List Char
  | [] => []
  | '\r' :: '\n' :: rest => '\n' :: universalNewlines rest
  | char :: rest => (if char = '\r' then '\n' else char) :: universalNewlines rest

/-- `splitlines(keepends=True)` behind the start of a line. -/
def keepLinesFrom : List Char → List Char → List (List Char)
  | line, [] => if line = [] then [] else [line]
  | line, '\r' :: '\n' :: rest => (line ++ ['\r', '\n']) :: keepLinesFrom [] rest
  | line, char :: rest =>
      if isLineBreak char then (line ++ [char]) :: keepLinesFrom [] rest
      else keepLinesFrom (line ++ [char]) rest

def keepLines (chars : List Char) : List (List Char) := keepLinesFrom [] chars

/-- No code point at which `splitlines` cuts. -/
def Plain (chars : List Char) : Prop := ∀ char ∈ chars, isLineBreak char = false

/-- A line with nothing to cut, maybe before a carriage return at its end. -/
def Ended (line : List Char) : Prop := ∃ body, Plain body ∧ (line = body ∨ line = body ++ ['\r'])

/-- A line without the carriage return at its end. -/
def withoutReturn (line : List Char) : List Char :=
  if line.getLast? = some '\r' then line.dropLast else line

theorem Plain.not_mem {chars : List Char} (plain : Plain chars) {char : Char}
    (breaks : isLineBreak char = true) : char ∉ chars := by
  intro member
  rw [plain char member] at breaks
  cases breaks

theorem Ended.lineFeed_notMem {line : List Char} (ended : Ended line) : '\n' ∉ line := by
  obtain ⟨body, plain, rfl | rfl⟩ := ended
  · exact plain.not_mem (by decide)
  · rw [List.mem_append, not_or]
    exact ⟨plain.not_mem (by decide), by decide⟩

theorem withoutReturn_plain {line : List Char} (plain : Plain line) :
    withoutReturn line = line := by
  refine if_neg fun last => ?_
  exact plain.not_mem (by decide) (List.mem_of_getLast? last)

theorem withoutReturn_append (body : List Char) : withoutReturn (body ++ ['\r']) = body := by
  rw [withoutReturn, List.getLast?_append_of_ne_nil _ (List.cons_ne_nil _ _)]
  exact (if_pos rfl).trans List.dropLast_concat

theorem universalNewlines_cons {char : Char} (notReturn : char ≠ '\r') (rest : List Char) :
    universalNewlines (char :: rest) = char :: universalNewlines rest := by
  rw [universalNewlines, if_neg notReturn]
  exact fun _ same => absurd same notReturn

/-- Without a carriage return there is nothing to translate. -/
theorem universalNewlines_eq_self {chars : List Char} (absent : '\r' ∉ chars) :
    universalNewlines chars = chars := by
  induction chars with
  | nil => rfl
  | cons char rest ih =>
      obtain ⟨different, later⟩ := not_or.mp fun member => absent (List.mem_cons.mpr member)
      rw [universalNewlines_cons (Ne.symm different), ih later]

theorem universalNewlines_plain {body : List Char} (plain : Plain body) (rest : List Char) :
    universalNewlines (body ++ rest) = body ++ universalNewlines rest := by
  induction body with
  | nil => rfl
  | cons char others ih =>
      have notReturn : char ≠ '\r' := by
        rintro rfl
        exact plain.not_mem (by decide) List.mem_cons_self
      rw [List.cons_append, universalNewlines_cons notReturn,
        ih fun other member => plain other (List.mem_cons_of_mem char member)]
      rfl

theorem universalNewlines_line {line : List Char} (ended : Ended line) (rest : List Char) :
    universalNewlines (line ++ '\n' :: rest) =
      withoutReturn line ++ '\n' :: universalNewlines rest := by
  have feed : universalNewlines ('\n' :: rest) = '\n' :: universalNewlines rest :=
    universalNewlines_cons (by decide) rest
  obtain ⟨body, plain, rfl | rfl⟩ := ended
  · rw [universalNewlines_plain plain, feed, withoutReturn_plain plain]
  · rw [List.append_assoc, universalNewlines_plain plain, withoutReturn_append]
    rfl

variable {lines : List (List Char)}

/-- A text of ended lines before a plain tail loses the carriage returns alone. -/
theorem universalNewlines_unlines (ended : ∀ line ∈ lines, Ended line)
    {tail : List Char} (plain : Plain tail) :
    universalNewlines (unlines '\n' lines ++ tail) =
      unlines '\n' (lines.map withoutReturn) ++ tail := by
  induction lines with
  | nil =>
      have whole := universalNewlines_plain plain []
      rw [List.append_nil] at whole
      rw [unlines, List.flatMap_nil, List.nil_append, whole]
      exact List.append_nil tail
  | cons line rest ih =>
      have first := universalNewlines_line (ended line List.mem_cons_self)
        (unlines '\n' rest ++ tail)
      rw [ih fun other member => ended other (List.mem_cons_of_mem line member)] at first
      simpa [unlines] using first

theorem length_universalNewlines_le (chars : List Char) :
    (universalNewlines chars).length ≤ chars.length := by
  induction chars using universalNewlines.induct with
  | case1 => exact Nat.le_refl 0
  | case2 rest ih =>
      rw [universalNewlines]
      simp only [List.length_cons]
      omega
  | case3 char rest notPair ih =>
      rw [universalNewlines]
      · simp only [List.length_cons]
        omega
      · exact notPair

/-- What has no break goes to the line that has been begun. -/
theorem keepLinesFrom_append {body : List Char} (plain : Plain body) (line rest : List Char) :
    keepLinesFrom line (body ++ rest) = keepLinesFrom (line ++ body) rest := by
  induction body generalizing line with
  | nil => rw [List.nil_append, List.append_nil]
  | cons char others ih =>
      have notReturn : char ≠ '\r' := by
        rintro rfl
        exact plain.not_mem (by decide) List.mem_cons_self
      rw [List.cons_append, keepLinesFrom,
        if_neg (by rw [plain char List.mem_cons_self]; exact Bool.false_ne_true),
        ih (fun other member => plain other (List.mem_cons_of_mem char member)),
        List.append_assoc, List.singleton_append]
      exact fun _ same => absurd same notReturn

/-- Plain lines are cut behind their line feeds, and a tail that is not empty is a last piece. -/
theorem keepLines_unlines (plain : ∀ line ∈ lines, Plain line)
    {tail : List Char} (plainTail : Plain tail) :
    keepLines (unlines '\n' lines ++ tail) =
      lines.map (fun line => line ++ ['\n']) ++ if tail = [] then [] else [tail] := by
  induction lines with
  | nil =>
      have last := keepLinesFrom_append plainTail [] []
      rw [List.append_nil, List.nil_append, keepLinesFrom] at last
      exact last
  | cons line rest ih =>
      have first : keepLines (line ++ '\n' :: (unlines '\n' rest ++ tail)) =
          (line ++ ['\n']) :: keepLines (unlines '\n' rest ++ tail) := by
        rw [keepLines, keepLinesFrom_append (plain line List.mem_cons_self), keepLinesFrom,
          if_pos (by decide), keepLines, List.nil_append]
        exact nofun
      rw [ih fun other member => plain other (List.mem_cons_of_mem line member)] at first
      rw [List.map_cons, List.cons_append, ← first]
      simp [unlines]

/-- Lines that a text of lines and a tail starts with are the first of its lines. -/
theorem exists_append_of_unlines {done : List (List Char)} {rest tail : List Char}
    (clean : ∀ line ∈ lines, '\n' ∉ line) (cleanTail : '\n' ∉ tail)
    (cleanDone : ∀ line ∈ done, '\n' ∉ line)
    (same : unlines '\n' done ++ rest = unlines '\n' lines ++ tail) :
    ∃ new, lines = done ++ new ∧ rest = unlines '\n' new ++ tail := by
  induction done generalizing lines with
  | nil => exact ⟨lines, rfl, same⟩
  | cons line others ih =>
      have shape : unlines '\n' (line :: others) ++ rest =
          line ++ '\n' :: (unlines '\n' others ++ rest) := by
        simp [unlines]
      rw [shape] at same
      cases lines with
      | nil =>
          have none : unlines '\n' ([] : List (List Char)) ++ tail = tail := rfl
          rw [none] at same
          exact absurd (same ▸ List.mem_append_right _ List.mem_cons_self) cleanTail
      | cons first more =>
          have moreShape : unlines '\n' (first :: more) ++ tail =
              first ++ '\n' :: (unlines '\n' more ++ tail) := by
            simp [unlines]
          rw [moreShape] at same
          obtain ⟨rfl, later⟩ := Lists.append_cons_inj_of_notMem_head
            (cleanDone line List.mem_cons_self) (clean first List.mem_cons_self) same
          obtain ⟨new, rfl, restEq⟩ := ih
            (fun other member => clean other (List.mem_cons_of_mem _ member))
            (fun other member => cleanDone other (List.mem_cons_of_mem _ member)) later
          exact ⟨new, rfl, restEq⟩

theorem stripChars_append {blank : List Char} (spaces : ∀ char ∈ blank, isSpace char = true)
    (chars : List Char) : stripChars (chars ++ blank) = stripChars chars := by
  have back : blank.reverse.dropWhile isSpace = [] :=
    List.dropWhile_eq_nil_iff.mpr fun char member => spaces char (List.mem_reverse.mp member)
  rw [stripChars, stripChars, List.dropWhile_append]
  split
  · rename_i none
    have front : chars.dropWhile isSpace = [] := List.isEmpty_iff.mp none
    rw [List.dropWhile_eq_nil_iff.mpr spaces, front]
  · rw [List.reverse_append, List.dropWhile_append, back]
    rfl

theorem stripChars_lineEnd {char : Char} (space : isSpace char = true) (chars : List Char) :
    stripChars (chars ++ [char]) = stripChars chars :=
  stripChars_append (List.forall_mem_singleton.mpr space) chars

/-- Trimming takes the end of a line away, a carriage return included. -/
theorem stripChars_line {line : List Char} (ended : Ended line) :
    stripChars (withoutReturn line ++ ['\n']) = stripChars line := by
  rw [stripChars_lineEnd (by decide)]
  obtain ⟨body, plain, rfl | rfl⟩ := ended
  · rw [withoutReturn_plain plain]
  · rw [withoutReturn_append, stripChars_lineEnd (by decide)]

theorem Ended.plain_withoutReturn {line : List Char} (ended : Ended line) :
    Plain (withoutReturn line) := by
  obtain ⟨body, plain, rfl | rfl⟩ := ended
  · rw [withoutReturn_plain plain]
    exact plain
  · rw [withoutReturn_append]
    exact plain

end ZaofuFormal.Foundation.TextLines
