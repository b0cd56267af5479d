import ZaofuFormal.Foundation.Runs
import ZaofuFormal.Foundation.TextLines
import ZaofuFormal.Foundation.Utf8

/-!
# The session tailer

The tailer reads a growing file from a byte offset in text mode, emits the pieces
that `splitlines` makes up to the first one that does not end in a line feed, and
moves the offset back by the bytes of that piece.  The piece is the unfinished last
line only as long as the text has no other line breaks and no drain comes while a
character is half written.
-/

namespace ZaofuFormal.Events.SessionTailer

open Foundation
open Lines (unlines)
open TextLines
open PyString (stripChars)

abbrev Bytes := List UInt8

/-- `tell` after a read to the end, from the file and the offset sought. -/
abbrev Tell := Bytes → Int → Int

/-- The pieces that end in a line feed are emitted; the first other one is left to the next
drain. -/
def consume (newOffset : Int) : List (List Char) → Int × List (List Char)
  | [] => (newOffset, [])
  | line :: rest =>
      if line.getLast? ≠ some '\n' then (newOffset - (Utf8.encode line).length, [])
      else
        let later := consume newOffset rest
        (later.1, stripChars line :: later.2)

/-- `_drain`: the new offset with the lines emitted; nothing when `seek` refuses the offset. -/
def drain (tell : Tell) (file : Bytes) (offset : Int) : Option (Int × List (List Char)) :=
  let size : Int := file.length
  if size < offset then some (size, [])
  else if size = offset then some (offset, [])
  else if offset < 0 then none
  else
    let decoded := universalNewlines (Utf8.decodeFrom none (file.drop offset.toNat))
    let data := decoded.take (size - offset).toNat
    some (consume (tell file offset) (keepLines data))

inductive Action where
  | append (chunk : Bytes)
  | drain

def Action.chunk : Action → Bytes
  | .append chunk => chunk
  | .drain => []

/-- The session file, the offset of the tailer, and the lines emitted so far. -/
structure Tailer where
  file : Bytes
  offset : Int
  emitted : List (List Char)

def Tailer.start : Tailer := ⟨[], 0, []⟩

def step (tell : Tell) (tailer : Tailer) : Action → Tailer
  | .append chunk => { tailer with file := tailer.file ++ chunk }
  | .drain =>
      match SessionTailer.drain tell tailer.file tailer.offset with
      | none => tailer
      | some (offset, lines) =>
          { tailer with offset := offset, emitted := tailer.emitted ++ lines }

/-- The position after a text that does not end in a carriage return has been read to its end. -/
structure LawfulTell (tell : Tell) : Prop where
  atEnd : ∀ (file : Bytes) (offset : Nat) (text : List Char),
    file.drop offset = Utf8.encode text → text.getLast? ≠ some '\r' →
      tell file offset = file.length

/-- Whole characters, and no line break but the line feeds and the carriage returns before
them. -/
def Readable (file : Bytes) : Prop :=
  ∃ lines tail, file = Utf8.encode (unlines '\n' lines ++ tail) ∧
    (∀ line ∈ lines, TextLines.Ended line) ∧ Plain tail

/-- Every drain finds a readable file. -/
def Allowed (tailer : Tailer) : Action → Prop
  | .append _ => True
  | .drain => Readable tailer.file

/-- The lines emitted so far are the first ones of the file, up to the offset. -/
structure Delivered (tailer : Tailer) (done : List (List Char)) : Prop where
  clean : ∀ line ∈ done, '\n' ∉ line
  offset : tailer.offset = (Utf8.encode (unlines '\n' done)).length
  written : Utf8.encode (unlines '\n' done) <+: tailer.file
  emitted : tailer.emitted = done.map stripChars

theorem consume_lines (newOffset : Int) (lines : List (List Char)) {tail : List Char}
    (clean : '\n' ∉ tail) :
    consume newOffset (lines.map (fun line => line ++ ['\n']) ++ if tail = [] then [] else [tail]) =
      (newOffset - (Utf8.encode tail).length,
        lines.map fun line => stripChars (line ++ ['\n'])) := by
  induction lines with
  | nil =>
      by_cases empty : tail = []
      · simp [empty, consume]
      · have unfinished : tail.getLast? ≠ some '\n' := fun last =>
          clean (List.mem_of_getLast? last)
        simp [empty, consume, unfinished]
  | cons line rest ih =>
      have finished : (line ++ ['\n']).getLast? = some '\n' := List.getLast?_concat
      rw [List.map_cons, List.cons_append, consume, if_neg (not_not_intro finished), ih]
      rfl

/-- A drain of a readable file emits the lines that were not emitted yet, and moves behind the
last of them. -/
theorem delivered_drain {tell : Tell} (lawful : LawfulTell tell) {tailer : Tailer}
    {done : List (List Char)} (delivered : Delivered tailer done) {lines : List (List Char)}
    {tail : List Char} (file : tailer.file = Utf8.encode (unlines '\n' lines ++ tail))
    (ended : ∀ line ∈ lines, TextLines.Ended line) (plain : Plain tail) :
    Delivered (step tell tailer .drain) lines := by
  have cleanLines : ∀ line ∈ lines, '\n' ∉ line := fun line member =>
    (ended line member).lineFeed_notMem
  have cleanTail : '\n' ∉ tail := plain.not_mem (by decide)
  obtain ⟨behind, split⟩ := delivered.written
  -- the text behind the offset is the rest of the whole text
  have text : unlines '\n' done ++ Utf8.decodeFrom none behind = unlines '\n' lines ++ tail := by
    rw [← Utf8.decodeFrom_encode, split, file, Utf8.decodeFrom_encode_self]
  obtain ⟨new, rfl, rest⟩ := exists_append_of_unlines cleanLines cleanTail delivered.clean text
  have behindEq : behind = Utf8.encode (unlines '\n' new ++ tail) := by
    rw [file, Lines.unlines_append, List.append_assoc, Utf8.encode_append] at split
    exact List.append_cancel_left split
  have whole : tailer.file.length = (Utf8.encode (unlines '\n' done)).length + behind.length := by
    rw [← split, List.length_append]
  have dropped : tailer.file.drop (Utf8.encode (unlines '\n' done)).length = behind := by
    rw [← split, List.drop_left]
  have emits : drain tell tailer.file tailer.offset =
      some (((Utf8.encode (unlines '\n' (done ++ new))).length : Int), new.map stripChars) := by
    have newEnded : ∀ line ∈ new, TextLines.Ended line := fun line member =>
      ended line (List.mem_append_right _ member)
    unfold drain
    dsimp only
    rw [delivered.offset, whole, if_neg (by push_cast; omega)]
    by_cases nothing : behind = []
    · -- nothing was written since the last drain
      have none : unlines '\n' new ++ tail = [] := by
        rw [← rest, nothing]
        rfl
      have noLines : new = [] :=
        (Lines.unlines_eq_nil_iff '\n' new).mp (List.append_eq_nil_iff.mp none).1
      rw [nothing, List.length_nil, Nat.add_zero, if_pos rfl, noLines, List.append_nil]
      rfl
    · have more : 0 < behind.length := List.length_pos_of_ne_nil nothing
      rw [if_neg (by push_cast; omega), if_neg (by omega), Int.toNat_natCast, dropped, rest,
        universalNewlines_unlines newEnded plain]
      have enough : (unlines '\n' (new.map withoutReturn) ++ tail).length ≤ behind.length := by
        rw [← universalNewlines_unlines newEnded plain, ← rest]
        refine (length_universalNewlines_le _).trans ?_
        rw [rest, behindEq]
        exact Utf8.length_le_encode _
      have ends : (unlines '\n' new ++ tail).getLast? ≠ some '\r' := by
        intro last
        by_cases empty : tail = []
        · rw [empty, List.append_nil] at last
          by_cases noLines : new = []
          · rw [noLines] at last
            cases last
          · obtain ⟨data, shape⟩ := Lines.unlines_eq_append_separator '\n' noLines
            rw [shape, List.getLast?_concat] at last
            cases last
        · rw [List.getLast?_append_of_ne_nil _ empty] at last
          exact plain.not_mem (by decide) (List.mem_of_getLast? last)
      have position : tell tailer.file (Utf8.encode (unlines '\n' done)).length =
          tailer.file.length :=
        lawful.atEnd tailer.file _ _ (dropped.trans behindEq) ends
      have plainNew : ∀ line ∈ new.map withoutReturn, Plain line := by
        intro line member
        obtain ⟨own, listed, rfl⟩ := List.mem_map.mp member
        exact (newEnded own listed).plain_withoutReturn
      rw [List.take_of_length_le (by push_cast; omega), keepLines_unlines plainNew plain,
        consume_lines _ _ cleanTail, position, List.map_map]
      congr 2
      · rw [whole, behindEq, Lines.unlines_append, Utf8.encode_append, Utf8.encode_append,
          List.length_append, List.length_append]
        push_cast
        omega
      · exact List.map_congr_left fun line member => stripChars_line (newEnded line member)
  unfold step
  dsimp only
  rw [emits]
  refine ⟨cleanLines, rfl, ?_, ?_⟩
  · rw [file, Utf8.encode_append]
    exact List.prefix_append _ _
  · rw [List.map_append, ← delivered.emitted]

theorem delivered_append {tell : Tell} {tailer : Tailer} {done : List (List Char)}
    (delivered : Delivered tailer done) (chunk : Bytes) :
    Delivered (step tell tailer (.append chunk)) done where
  clean := delivered.clean
  offset := delivered.offset
  written := delivered.written.trans (List.prefix_append _ _)
  emitted := delivered.emitted

/-- Along every run whose drains find readable files, the first lines are delivered. -/
theorem run_delivered {tell : Tell} (lawful : LawfulTell tell) {actions : List Action}
    (allowed : Runs.Along (step tell) Allowed Tailer.start actions) :
    ∃ done, Delivered (Runs.run (step tell) Tailer.start actions) done := by
  refine Runs.Along.invariant (fun tailer => ∃ done, Delivered tailer done) ?_ ?_ allowed
  · rintro tailer action ⟨done, delivered⟩ permitted
    cases action with
    | append chunk => exact ⟨done, delivered_append delivered chunk⟩
    | drain =>
        obtain ⟨lines, tail, file, ended, plain⟩ := permitted
        exact ⟨lines, delivered_drain lawful delivered file ended plain⟩
  · exact ⟨[], nofun, rfl, List.nil_prefix, rfl⟩

theorem file_step (tell : Tell) (tailer : Tailer) (action : Action) :
    (step tell tailer action).file = tailer.file ++ action.chunk := by
  cases action with
  | append chunk => rfl
  | drain =>
      unfold step Action.chunk
      dsimp only
      split <;> exact (List.append_nil _).symm

theorem file_run (tell : Tell) (tailer : Tailer) (actions : List Action) :
    (Runs.run (step tell) tailer actions).file = tailer.file ++ actions.flatMap Action.chunk := by
  induction actions generalizing tailer with
  | nil => exact (List.append_nil _).symm
  | cons action rest ih =>
      rw [Runs.run_cons, ih, file_step, List.flatMap_cons, List.append_assoc]

/-- When every drain finds whole characters and no line break but the line ends, the lines
emitted after a last drain are the complete lines of the file, each once and in order. -/
theorem tailer_delivers {tell : Tell} (lawful : LawfulTell tell) (lines : List (List Char))
    (tail : List Char) (clean : ∀ line ∈ lines, '\n' ∉ line) (cleanTail : '\n' ∉ tail)
    (actions : List Action)
    (written : actions.flatMap Action.chunk = Utf8.encode (unlines '\n' lines ++ tail))
    (allowed : Runs.Along (step tell) Allowed Tailer.start (actions ++ [.drain])) :
    (Runs.run (step tell) Tailer.start (actions ++ [.drain])).emitted = lines.map stripChars := by
  obtain ⟨before, last⟩ := (Runs.along_append Tailer.start actions [.drain]).mp allowed
  obtain ⟨done, delivered⟩ := run_delivered lawful before
  obtain ⟨found, rest, file, ended, plain⟩ := last.1
  have whole := file_run tell Tailer.start actions
  rw [Tailer.start, List.nil_append, written, ← Tailer.start, file] at whole
  -- the lines that the drain finds are the lines of the file
  have text : unlines '\n' found ++ rest = unlines '\n' lines ++ tail := by
    rw [← Utf8.decodeFrom_encode_self (unlines '\n' found ++ rest), whole,
      Utf8.decodeFrom_encode_self]
  obtain ⟨new, linesEq, restEq⟩ := exists_append_of_unlines clean cleanTail
    (fun line member => (ended line member).lineFeed_notMem) text
  have noMore : new = [] := by
    by_contra some
    obtain ⟨data, shape⟩ := Lines.unlines_eq_append_separator '\n' some
    refine @TextLines.Plain.not_mem _ plain '\n' (by decide) ?_
    rw [restEq, shape]
    simp
  rw [Runs.run_append, Runs.run_cons, Runs.run_nil,
    (delivered_drain lawful delivered file ended plain).emitted, linesEq, noMore, List.append_nil]

/-- The position at the end of the file. -/
def sampleTell : Tell := fun file _ => file.length

theorem sampleTell_lawful : LawfulTell sampleTell := ⟨fun _ _ _ _ _ => rfl⟩

def sampleLine : List Char := "[1]".toList

/-- One line in two chunks, with a drain in between. -/
theorem sample_delivered :
    (Runs.run (step sampleTell) Tailer.start [.append (Utf8.encode ['[']), .drain,
      .append (Utf8.encode ['1', ']', '\n']), .drain]).emitted = [stripChars sampleLine] := by
  have plain : Plain ['['] := List.forall_mem_singleton.mpr (by decide)
  have ended : ∀ line ∈ [sampleLine], TextLines.Ended line := by
    intro line member
    rw [List.mem_singleton.mp member]
    have clean : sampleLine.all (fun char => !PyString.isLineBreak char) = true := by decide
    exact ⟨sampleLine, fun char inside => by simpa using List.all_eq_true.mp clean char inside,
      .inl rfl⟩
  exact tailer_delivers sampleTell_lawful [sampleLine] [] (by decide) (by decide)
    [.append (Utf8.encode ['[']), .drain, .append (Utf8.encode ['1', ']', '\n'])]
    (by decide +kernel)
    ⟨True.intro, ⟨[], ['['], by decide +kernel, nofun, plain⟩, True.intro,
      ⟨[sampleLine], [], by decide +kernel, ended, nofun⟩, True.intro⟩

/-- A JSON text of one character, which is a line separator. -/
def separatorLine : List Char := ['"', Char.ofNat 0x2028, '"']

/-- The first drain emits nothing and moves the offset into the character, the second emits what
is left of the line. -/
theorem separator_breaks_line :
    (Runs.run (step sampleTell) Tailer.start
        [.append (Utf8.encode (separatorLine ++ ['\n'])), .drain]).emitted = [] ∧
      (Runs.run (step sampleTell) Tailer.start
        [.append (Utf8.encode (separatorLine ++ ['\n'])), .drain, .drain]).emitted =
          [[Utf8.replacement, Utf8.replacement, '"']] := by
  decide +kernel

end ZaofuFormal.Events.SessionTailer
