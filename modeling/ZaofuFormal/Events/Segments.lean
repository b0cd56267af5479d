import ZaofuFormal.Events.ReadAll
import ZaofuFormal.Foundation.Utf8
import Mathlib.Algebra.GroupWithZero.Nat
import Mathlib.Data.List.Lex

/-!
# Segments of the event log

Consumers that project the log read the archives and the active file as one
sequence of numbered records, each with the place of its raw line.  They resume
behind a record, fetch one record from its place, and count the records.  Four
functions cut files into lines on their own.
-/

namespace ZaofuFormal.Events.Segments

open Foundation

def carriageReturn : UInt8 := 13

/-- `splitlines(keepends=True)` of what is left, behind the start of a line. -/
def splitlinesFrom : Bytes → Bytes → List Bytes
  | line, [] => if line = [] then [] else [line]
  | line, byte :: rest =>
      if byte = newline then (line ++ [byte]) :: splitlinesFrom [] rest
      else if line.getLast? = some carriageReturn then line :: splitlinesFrom [byte] rest
      else splitlinesFrom (line ++ [byte]) rest

def splitlines (data : Bytes) : List Bytes := splitlinesFrom [] data

/-- The lines up to the last newline. -/
def segmentLines (data : Bytes) : List Bytes :=
  if newline ∉ data then [] else splitlines (Lines.complete newline data)

/-- The white space that `strip` removes from bytes. -/
def isSpaceByte (byte : UInt8) : Bool := (9 ≤ byte && byte ≤ 13) || byte == 32

/-- Is nothing left of the line when white space is stripped from its bytes? -/
def blankBytes (raw : Bytes) : Bool := raw.all isSpaceByte

/-- The text of a line. -/
def lineText (raw : Bytes) : String := PyString.strip (Utf8.decode raw)

structure Segment where
  relPath : String
  data : Bytes
  deriving DecidableEq

/-- The log files and the archives in the directory `events/archive`, by the stem of
their names.  A file name has no slash. -/
structure SegmentFiles where
  log : LogFiles
  future : Dict String Bytes
  plain : ∀ stem ∈ log.archives.keys, '/' ∉ stem.toList

/-- The archives with the parts of their paths. -/
def archivePaths (files : SegmentFiles) : List (List String × Segment) :=
  (files.log.archives.entries.map fun entry =>
    ([archiveName entry.1], ⟨"events/" ++ archiveName entry.1, entry.2⟩)) ++
  files.future.entries.map fun entry =>
    (["archive", archiveName entry.1], ⟨"events/archive/" ++ archiveName entry.1, entry.2⟩)

def activeSegment (files : SegmentFiles) : List Segment :=
  match files.log.active with
  | none => []
  | some active => [⟨"events.jsonl", active.content⟩]

/-- Archives in the order of their paths, with the active file last. -/
def listEventSegments (files : SegmentFiles) : List Segment :=
  (Sorting.sortedBy Prod.fst (archivePaths files)).map Prod.snd ++ activeSegment files

/-- The decoder of one line.  Decoding may raise; what it returns may depend on the
identifiers and times that are drawn in the call.  `malformed` is the event that
stands for a line without one. -/
structure Decoder (σ ε ρ : Type) where
  decode : String → Except ρ (σ → Option ε)
  malformed : σ → String → ε

/-- A line that is not blank: its number and its place. -/
structure Row where
  seq : Nat
  segment : String
  offset : Nat
  length : Nat
  line : String
  deriving DecidableEq

structure EventRecord (ε : Type) where
  seq : Nat
  event : ε
  rawSegment : String
  rawOffset : Nat
  rawLength : Nat
  rawLine : String

inductive IterationError (ρ : Type) where
  | value (message : String)
  | decode (raised : ρ)

/-- What an iteration yields, and the error that ends it, if one does. -/
structure Iteration (ε ρ : Type) where
  records : List (EventRecord ε)
  error : Option (IterationError ρ)

/-- The rows of the lines of one segment behind a number and an offset. -/
def rowsOfLines (segment : String) : Nat → Nat → List Bytes → List Row
  | _, _, [] => []
  | seq, offset, raw :: rest =>
      if lineText raw = "" then rowsOfLines segment seq (offset + raw.length) rest
      else
        ⟨seq + 1, segment, offset, raw.length, lineText raw⟩ ::
          rowsOfLines segment (seq + 1) (offset + raw.length) rest

def rowsOfSegments : Nat → List Segment → List Row
  | _, [] => []
  | seq, segment :: rest =>
      let rows := rowsOfLines segment.relPath seq 0 (segmentLines segment.data)
      rows ++ rowsOfSegments (seq + rows.length) rest

variable {σ ε ρ : Type}

def recordOf (row : Row) (event : ε) : EventRecord ε :=
  ⟨row.seq, event, row.segment, row.offset, row.length, row.line⟩

/-- Decode row after row, until decoding raises. -/
def decodeRows (decoder : Decoder σ ε ρ) (stamps : Nat → σ) : List Row → Iteration ε ρ
  | [] => ⟨[], none⟩
  | row :: rest =>
      match decoder.decode row.line with
      | .error raised => ⟨[], some (.decode raised)⟩
      | .ok read =>
          let event := (read (stamps row.seq)).getD (decoder.malformed (stamps row.seq) row.line)
          let later := decodeRows decoder stamps rest
          ⟨recordOf row event :: later.records, later.error⟩

/-- `stamps` supplies the identifiers and times of each call, by the number of the row. -/
def iterEventRecords (decoder : Decoder σ ε ρ) (stamps : Nat → σ) (startSeq : Nat)
    (files : SegmentFiles) : Iteration ε ρ :=
  decodeRows decoder stamps
    ((rowsOfSegments 0 (listEventSegments files)).filter fun row => decide (startSeq < row.seq))

structure Cursor where
  segment : String := ""
  byteOffset : Nat := 0
  startSeq : Nat := 0

/-- The rows behind a cursor, when its segment exists and is not shorter. -/
def rowsFromCursor (cursor : Cursor) (segments : List Segment) : Except String (List Row) :=
  match segments.dropWhile fun segment => !decide (segment.relPath = cursor.segment) with
  | [] => .error ("event cursor segment is missing: " ++ cursor.segment)
  | current :: rest =>
      if current.data.length < cursor.byteOffset then
        .error ("event cursor exceeds segment size: " ++ current.relPath)
      else
        let rows := rowsOfLines current.relPath cursor.startSeq cursor.byteOffset
          (segmentLines (current.data.drop cursor.byteOffset))
        .ok (rows ++ rowsOfSegments (cursor.startSeq + rows.length) rest)

def iterEventRecordsFromCursor (decoder : Decoder σ ε ρ) (stamps : Nat → σ) (cursor : Cursor)
    (files : SegmentFiles) : Iteration ε ρ :=
  if cursor.segment = "" then iterEventRecords decoder stamps cursor.startSeq files
  else
    match rowsFromCursor cursor (listEventSegments files) with
    | .error message => ⟨[], some (.value message)⟩
    | .ok rows => decodeRows decoder stamps rows

/-- The lines of all segments that are not blank; their ends are white space. -/
def countEventRecords (files : SegmentFiles) : Nat :=
  ((listEventSegments files).map fun segment =>
    (segmentLines segment.data).countP fun raw => !blankBytes raw).sum

/-- The event of a line of a segment, by its place. -/
def hydrateEventAt (decoder : Decoder σ ε ρ) (stamp : σ) (segment : String) (offset length : Nat)
    (files : SegmentFiles) : Except ρ (Option ε) :=
  match (listEventSegments files).find? fun other => decide (other.relPath = segment) with
  | none => .ok none
  | some found =>
      let line := lineText ((found.data.drop offset).take length)
      if line = "" then .ok none
      else
        match decoder.decode line with
        | .error raised => .error raised
        | .ok read => .ok (read stamp)

/-- The first line that is cut off, and what is cut behind it. -/
theorem splitlinesFrom_cons {line data first : Bytes} {others : List Bytes}
    (cut : splitlinesFrom line data = first :: others) :
    ∃ taken left, data = taken ++ left ∧ first = line ++ taken ∧ first ≠ [] ∧
      others = splitlinesFrom [] left := by
  induction data generalizing line with
  | nil =>
      rw [splitlinesFrom] at cut
      by_cases empty : line = []
      · rw [if_pos empty] at cut
        cases cut
      · rw [if_neg empty] at cut
        obtain ⟨rfl, rfl⟩ := List.cons.inj cut
        exact ⟨[], [], rfl, (List.append_nil line).symm, empty, rfl⟩
  | cons byte rest ih =>
      rw [splitlinesFrom] at cut
      by_cases ends : byte = newline
      · rw [if_pos ends] at cut
        obtain ⟨rfl, rfl⟩ := List.cons.inj cut
        exact ⟨[byte], rest, rfl, rfl, by simp, rfl⟩
      rw [if_neg ends] at cut
      by_cases returned : line.getLast? = some carriageReturn
      · rw [if_pos returned] at cut
        obtain ⟨rfl, rfl⟩ := List.cons.inj cut
        refine ⟨[], byte :: rest, rfl, (List.append_nil line).symm, ?_, ?_⟩
        · rintro rfl
          cases returned
        · rw [splitlinesFrom, if_neg ends, if_neg (by simp), List.nil_append]
      · rw [if_neg returned] at cut
        obtain ⟨taken, left, rfl, rfl, nonempty, later⟩ := ih cut
        exact ⟨byte :: taken, left, rfl, by simp, nonempty, later⟩

/-- Lines that were cut off have been there, and what is behind them is cut as before. -/
theorem splitlines_split {data : Bytes} {front back : List Bytes}
    (cut : splitlines data = front ++ back) :
    ∃ left, data = front.flatten ++ left ∧ splitlines left = back := by
  induction front generalizing data with
  | nil => exact ⟨data, rfl, cut⟩
  | cons first others ih =>
      obtain ⟨taken, left, rfl, rfl, _, later⟩ := splitlinesFrom_cons cut
      obtain ⟨rest, rfl, behind⟩ := ih later.symm
      exact ⟨rest, by simp, behind⟩

theorem segmentLines_eq (data : Bytes) :
    segmentLines data = splitlines (Lines.complete newline data) := by
  unfold segmentLines
  by_cases absent : newline ∉ data
  · have nothing : Lines.complete newline data = [] := by
      rw [Lines.complete, List.reverse_eq_nil_iff, List.dropWhile_eq_nil_iff]
      intro byte member
      have other : byte ≠ newline := fun same => absent (same ▸ List.mem_reverse.mp member)
      simpa using other
    rw [if_pos absent, nothing]
    rfl
  · rw [if_neg absent]

/-- The lines of a segment from a line boundary on. -/
theorem segmentLines_split {data : Bytes} {front back : List Bytes}
    (cut : segmentLines data = front ++ back) :
    ∃ left, data = front.flatten ++ left ∧ segmentLines left = back := by
  rw [segmentLines_eq] at cut
  obtain ⟨whole, split, behind⟩ := splitlines_split cut
  obtain ⟨tail, shape, clean⟩ := Lines.complete_spec newline data
  refine ⟨whole ++ tail, ?_, ?_⟩
  · rw [← List.append_assoc, ← split]
    exact shape
  · rw [segmentLines_eq, ← behind]
    congr 1
    refine Lines.complete_append clean ?_
    rcases Lines.complete_ends newline data with empty | ⟨data', ends⟩
    · rw [empty] at split
      exact .inl (List.append_eq_nil_iff.mp split.symm).2
    · rw [ends] at split
      rcases List.eq_nil_or_concat whole with rfl | ⟨initial, last, rfl⟩
      · exact .inl rfl
      · right
        refine ⟨initial, ?_⟩
        have lasts := congrArg List.getLast? split
        rw [List.concat_eq_append] at lasts ⊢
        simp only [List.getLast?_append, List.getLast?_singleton, Option.some_or] at lasts
        rw [Option.some.inj lasts]

/-- Where a row comes from, and the rows behind it. -/
structure Placed (segment : String) (seq offset : Nat) (lines : List Bytes) (before : List Row)
    (row : Row) (after : List Row) : Prop where
  place : ∃ front raw back, lines = front ++ raw :: back ∧
    row = ⟨seq + before.length + 1, segment, offset + front.flatten.length, raw.length,
      lineText raw⟩ ∧
    lineText raw ≠ "" ∧
    after = rowsOfLines segment row.seq (row.offset + row.length) back

variable {before : List Row} {segments : List Segment} {files : SegmentFiles}

theorem rowsOfLines_split {segment : String} {seq offset : Nat} {lines : List Bytes}
    {after : List Row} {row : Row}
    (split : rowsOfLines segment seq offset lines = before ++ row :: after) :
    Placed segment seq offset lines before row after := by
  induction lines generalizing seq offset before with
  | nil =>
      rw [rowsOfLines] at split
      cases (List.append_eq_nil_iff.mp split.symm).2
  | cons raw rest ih =>
      rw [rowsOfLines] at split
      by_cases blank : lineText raw = ""
      · rw [if_pos blank] at split
        obtain ⟨front, line, back, rfl, shape, filled, later⟩ := (ih split).place
        refine ⟨raw :: front, line, back, rfl, ?_, filled, later⟩
        rw [shape, List.flatten_cons, List.length_append, Nat.add_assoc offset]
      · rw [if_neg blank] at split
        cases before with
        | nil =>
            obtain ⟨rfl, rfl⟩ := List.cons.inj split
            exact ⟨[], raw, rest, rfl, rfl, blank, rfl⟩
        | cons first others =>
            rw [List.cons_append] at split
            obtain ⟨rfl, tail⟩ := List.cons.inj split
            obtain ⟨front, line, back, rfl, shape, filled, later⟩ := (ih tail).place
            refine ⟨raw :: front, line, back, rfl, ?_, filled, later⟩
            rw [shape, List.flatten_cons, List.length_append, Nat.add_assoc offset,
              List.length_cons, Nat.add_assoc seq 1, Nat.add_comm 1]

theorem rowsOfSegments_split {seq : Nat} {after : List Row}
    {row : Row} (split : rowsOfSegments seq segments = before ++ row :: after) :
    ∃ earlier current later rows behind, segments = earlier ++ current :: later ∧
      Placed current.relPath (row.seq - rows.length - 1) 0 (segmentLines current.data) rows row
        behind ∧
      after = behind ++ rowsOfSegments (row.seq + behind.length) later := by
  induction segments generalizing seq before with
  | nil =>
      rw [rowsOfSegments] at split
      cases (List.append_eq_nil_iff.mp split.symm).2
  | cons segment rest ih =>
      rw [rowsOfSegments] at split
      rcases List.append_eq_append_iff.mp split with ⟨others, shape, found⟩ | ⟨found, shape, rest'⟩
      · obtain ⟨earlier, current, later, rows, behind, rfl, placed, tail⟩ := ih found
        exact ⟨segment :: earlier, current, later, rows, behind, rfl, placed, tail⟩
      · cases found with
        | nil =>
            rw [List.append_nil] at shape
            rw [List.nil_append] at rest'
            have here : rowsOfSegments (seq + (rowsOfLines segment.relPath seq 0
                (segmentLines segment.data)).length) rest = [] ++ row :: after := rest'.symm
            obtain ⟨earlier, current, later, rows, behind, rfl, placed, tail⟩ := ih here
            exact ⟨segment :: earlier, current, later, rows, behind, rfl, placed, tail⟩
        | cons first behind =>
            rw [List.cons_append] at rest'
            obtain ⟨rfl, tail⟩ := List.cons.inj rest'
            have placed := rowsOfLines_split shape
            have number : row.seq = seq + before.length + 1 := by
              obtain ⟨front, raw, back, _, same, _⟩ := placed.place
              rw [same]
            refine ⟨[], segment, rest, before, behind, rfl, ?_, ?_⟩
            · have start : row.seq - before.length - 1 = seq := by omega
              rw [start]
              exact placed
            · rw [tail, shape, List.length_append, List.length_cons, number]
              congr 2
              omega

/-- Behind a row, the rows of its cursor are the rows that remain. -/
theorem rowsFromCursor_of_split
    (distinct : (segments.map Segment.relPath).Nodup) {after : List Row} {row : Row}
    (split : rowsOfSegments 0 segments = before ++ row :: after) :
    rowsFromCursor ⟨row.segment, row.offset + row.length, row.seq⟩ segments = .ok after := by
  obtain ⟨earlier, current, later, rows, behind, rfl, placed, rfl⟩ := rowsOfSegments_split split
  obtain ⟨front, raw, back, lines, shape, _, rest⟩ := placed.place
  have named : row.segment = current.relPath := by rw [shape]
  have place : row.offset + row.length = (front ++ [raw]).flatten.length := by
    rw [shape]
    simp
  have reached : ((earlier ++ current :: later).dropWhile fun segment =>
      !decide (segment.relPath = row.segment)) = current :: later := by
    rw [List.dropWhile_append_of_pos]
    · exact List.dropWhile_cons_of_neg (by simp [named])
    · intro other member
      rw [List.map_append, List.map_cons] at distinct
      have apart := (List.nodup_append.mp distinct).2.2 other.relPath
        (List.mem_map_of_mem member) current.relPath List.mem_cons_self
      simp [named, apart]
  have cut : segmentLines current.data = (front ++ [raw]) ++ back := by
    rw [lines, List.append_assoc]
    rfl
  obtain ⟨left, data, remaining⟩ := segmentLines_split cut
  have long : ¬current.data.length < row.offset + row.length := by
    rw [place, data, List.length_append]
    omega
  have dropped : current.data.drop (row.offset + row.length) = left := by
    rw [place, data, List.drop_left]
  unfold rowsFromCursor
  simp only [reached]
  rw [if_neg long, dropped, remaining, rest]

/-- A row is fetched from its place. -/
theorem row_fetched (distinct : (segments.map Segment.relPath).Nodup)
    {row : Row} (member : row ∈ rowsOfSegments 0 segments) :
    ∃ found, (segments.find? fun other => decide (other.relPath = row.segment)) = some found ∧
      lineText ((found.data.drop row.offset).take row.length) = row.line ∧ row.line ≠ "" := by
  obtain ⟨before, after, split⟩ := List.append_of_mem member
  obtain ⟨earlier, current, later, rows, behind, rfl, placed, rfl⟩ := rowsOfSegments_split split
  obtain ⟨front, raw, back, lines, shape, filled, _⟩ := placed.place
  obtain ⟨left, data, remaining⟩ := segmentLines_split lines
  have behindRow : segmentLines left = [raw] ++ back := remaining
  obtain ⟨rest, shapeLeft, _⟩ := segmentLines_split behindRow
  have named : row.segment = current.relPath := by rw [shape]
  refine ⟨current, ?_, ?_, ?_⟩
  · rw [List.find?_append, List.find?_cons_of_pos (by simp [named])]
    have absent : earlier.find? (fun other => decide (other.relPath = row.segment)) = none := by
      rw [List.find?_eq_none]
      intro other inside
      rw [List.map_append, List.map_cons] at distinct
      have apart := (List.nodup_append.mp distinct).2.2 other.relPath
        (List.mem_map_of_mem inside) current.relPath List.mem_cons_self
      simp [named, apart]
    rw [absent, Option.none_or]
  · have dropped : current.data.drop row.offset = raw ++ rest := by
      rw [data, shape, Nat.zero_add, List.drop_left, shapeLeft]
      simp
    have length : row.length = raw.length := by rw [shape]
    rw [dropped, length, List.take_left, shape]
  · rw [shape]
    exact filled

variable {σ ε ρ : Type}

def EventRecord.row (record : EventRecord ε) : Row :=
  ⟨record.seq, record.rawSegment, record.rawOffset, record.rawLength, record.rawLine⟩

theorem row_recordOf (row : Row) (event : ε) : (recordOf row event).row = row := rfl

/-- The rows up to the first one whose decoding raises. -/
def decodable (decoder : Decoder σ ε ρ) (rows : List Row) : List Row :=
  rows.takeWhile fun row => (decoder.decode row.line).isOk

theorem decodeRows_rows (decoder : Decoder σ ε ρ) (stamps : Nat → σ) (rows : List Row) :
    (decodeRows decoder stamps rows).records.map EventRecord.row = decodable decoder rows := by
  induction rows with
  | nil => rfl
  | cons row rest ih =>
      rw [decodeRows, decodable]
      cases decoded : decoder.decode row.line with
      | error raised =>
          rw [List.takeWhile_cons_of_neg (by simp [decoded, Except.isOk, Except.toBool])]
          rfl
      | ok read =>
          rw [List.takeWhile_cons_of_pos (by simp [decoded, Except.isOk, Except.toBool])]
          simp only [List.map_cons, row_recordOf, ih]
          rfl

theorem decodeRows_error (decoder : Decoder σ ε ρ) (stamps later : Nat → σ) (rows : List Row) :
    (decodeRows decoder stamps rows).error = (decodeRows decoder later rows).error := by
  induction rows with
  | nil => rfl
  | cons row rest ih =>
      rw [decodeRows, decodeRows]
      cases decoder.decode row.line with
      | error raised => rfl
      | ok read => exact ih

/-- Rows that decode do not change what happens behind them. -/
theorem decodeRows_append_error (decoder : Decoder σ ε ρ) (stamps : Nat → σ)
    {front : List Row} (decodes : decodable decoder front = front) (back : List Row) :
    (decodeRows decoder stamps (front ++ back)).error = (decodeRows decoder stamps back).error ∧
      decodable decoder (front ++ back) = front ++ decodable decoder back := by
  induction front with
  | nil => exact ⟨rfl, rfl⟩
  | cons row rest ih =>
      have all := List.takeWhile_eq_self_iff.mp decodes
      have first := all row List.mem_cons_self
      have others : decodable decoder rest = rest :=
        List.takeWhile_eq_self_iff.mpr fun other member => all other (List.mem_cons_of_mem _ member)
      obtain ⟨error, rows⟩ := ih others
      constructor
      · rw [List.cons_append, decodeRows]
        cases decoded : decoder.decode row.line with
        | error raised =>
            rw [decoded] at first
            cases first
        | ok read => exact error
      · have step := List.takeWhile_cons_of_pos
          (p := fun row => (decoder.decode row.line).isOk) (l := rest ++ back) first
        exact step.trans (congrArg (row :: ·) rows)

theorem append_left_inj {stem first second : String} (same : stem ++ first = stem ++ second) :
    first = second := by
  have chars := congrArg String.toList same
  rw [String.toList_append, String.toList_append] at chars
  exact String.toList_injective (List.append_cancel_left chars)

theorem append_right_inj {first second tail : String} (same : first ++ tail = second ++ tail) :
    first = second := by
  have chars := congrArg String.toList same
  rw [String.toList_append, String.toList_append] at chars
  exact String.toList_injective (List.append_cancel_right chars)

theorem archive_path_injective (directory : String) :
    Function.Injective fun stem => directory ++ archiveName stem :=
  fun _ _ same => append_right_inj (append_left_inj same)

theorem archivePaths_distinct (files : SegmentFiles) :
    ((archivePaths files).map fun item => item.2.relPath).Nodup := by
  have archives := files.log.archives.nodupKeys.map (archive_path_injective "events/")
  have future := files.future.nodupKeys.map (archive_path_injective "events/archive/")
  rw [List.map_map] at archives future
  rw [archivePaths, List.map_append, List.map_map, List.map_map, List.nodup_append]
  refine ⟨archives, future, ?_⟩
  intro path member other inside same
  obtain ⟨entry, listed, rfl⟩ := List.mem_map.mp member
  obtain ⟨next, _, rfl⟩ := List.mem_map.mp inside
  change "events/" ++ archiveName entry.1 = "events/" ++ "archive/" ++ archiveName next.1 at same
  rw [String.append_assoc] at same
  have names := append_left_inj same
  rw [archiveName, archiveName, ← String.append_assoc] at names
  refine files.plain entry.1 (List.mem_map_of_mem listed) ?_
  rw [append_right_inj names, String.toList_append]
  exact List.mem_append_left _ (by decide)

theorem archivePath_cases {item : List String × Segment} (member : item ∈ archivePaths files) :
    ∃ stem, item.2.relPath = "events/" ++ archiveName stem ∨
      item.2.relPath = "events/archive/" ++ archiveName stem := by
  rcases List.mem_append.mp member with inside | inside
  · obtain ⟨entry, _, rfl⟩ := List.mem_map.mp inside
    exact ⟨entry.1, .inl rfl⟩
  · obtain ⟨entry, _, rfl⟩ := List.mem_map.mp inside
    exact ⟨entry.1, .inr rfl⟩

/-- An archive does not have the path of the active file, or an empty one. -/
theorem archivePath_other {item : List String × Segment} (member : item ∈ archivePaths files) :
    item.2.relPath ≠ "events.jsonl" ∧ item.2.relPath ≠ "" := by
  obtain ⟨stem, path | path⟩ := archivePath_cases member
  all_goals
    rw [path]
    constructor
    all_goals
      intro same
      have chars := congrArg String.toList same
      rw [String.toList_append] at chars
      simp at chars

theorem mem_listEventSegments {segment : Segment} (member : segment ∈ listEventSegments files) :
    (∃ item ∈ archivePaths files, item.2 = segment) ∨ segment.relPath = "events.jsonl" := by
  rcases List.mem_append.mp member with archived | active
  · obtain ⟨item, sorted, rfl⟩ := List.mem_map.mp archived
    exact .inl ⟨item, (Sorting.mem_sortedBy _ _ _).mp sorted, rfl⟩
  · right
    unfold activeSegment at active
    split at active
    · cases active
    · rw [List.mem_singleton.mp active]

theorem relPaths_distinct (files : SegmentFiles) :
    ((listEventSegments files).map Segment.relPath).Nodup := by
  have sorted := (Sorting.sortedBy_perm Prod.fst (archivePaths files)).map
    fun item => item.2.relPath
  rw [listEventSegments, List.map_append, List.map_map, List.nodup_append]
  refine ⟨sorted.nodup_iff.mpr (archivePaths_distinct files), ?_, ?_⟩
  · unfold activeSegment
    split
    · exact List.nodup_nil
    · exact List.nodup_singleton _
  · intro path member other active same
    obtain ⟨item, inside, rfl⟩ := List.mem_map.mp member
    rw [Sorting.mem_sortedBy] at inside
    refine (archivePath_other inside).1 (same.trans ?_)
    unfold activeSegment at active
    split at active
    · cases active
    · rw [List.mem_singleton.mp active]

theorem relPath_ne_empty {segment : Segment}
    (member : segment ∈ listEventSegments files) : segment.relPath ≠ "" := by
  rcases mem_listEventSegments member with ⟨item, inside, rfl⟩ | active
  · exact (archivePath_other inside).2
  · rw [active]
    decide

/-- The cursor behind the last of these records. -/
def cursorAfter (records : List (EventRecord ε)) : Cursor :=
  match records.getLast? with
  | none => {}
  | some record => ⟨record.rawSegment, record.rawOffset + record.rawLength, record.seq⟩

/-- Behind any number of records, the iteration goes on with the remaining ones. -/
def CursorsExact (decoder : Decoder σ ε ρ) (files : SegmentFiles) : Prop :=
  ∀ (stamps later : Nat → σ) (k : Nat),
    let whole := iterEventRecords decoder stamps 0 files
    let resumed := iterEventRecordsFromCursor decoder later (cursorAfter (whole.records.take k)) files
    resumed.records.map EventRecord.row = (whole.records.drop k).map EventRecord.row ∧
      resumed.error = whole.error

/-- Each record is fetched from its place. -/
def HydratesExact (decoder : Decoder σ ε ρ) (files : SegmentFiles) : Prop :=
  ∀ (stamps : Nat → σ) (stamp : σ), ∀ record ∈ (iterEventRecords decoder stamps 0 files).records,
    hydrateEventAt decoder stamp record.rawSegment record.rawOffset record.rawLength files =
      .ok (some record.event)

/-- The number of records is their count. -/
def CountExact (decoder : Decoder σ ε ρ) (files : SegmentFiles) : Prop :=
  ∀ stamps : Nat → σ,
    countEventRecords files = (iterEventRecords decoder stamps 0 files).records.length

theorem iterEventRecords_eq (decoder : Decoder σ ε ρ) (stamps : Nat → σ) (files : SegmentFiles) :
    iterEventRecords decoder stamps 0 files =
      decodeRows decoder stamps (rowsOfSegments 0 (listEventSegments files)) := by
  have numbered : ∀ row ∈ rowsOfSegments 0 (listEventSegments files), 0 < row.seq := by
    intro row member
    obtain ⟨before, after, split⟩ := List.append_of_mem member
    obtain ⟨earlier, current, later, rows, behind, _, placed, _⟩ := rowsOfSegments_split split
    obtain ⟨front, raw, back, _, shape, _⟩ := placed.place
    rw [shape]
    exact Nat.succ_pos _
  rw [iterEventRecords, List.filter_eq_self.mpr]
  intro row member
  exact decide_eq_true (numbered row member)

theorem cursors_exact (decoder : Decoder σ ε ρ) (files : SegmentFiles) :
    CursorsExact decoder files := by
  intro stamps later k whole resumed
  let rows := rowsOfSegments 0 (listEventSegments files)
  have shownRows : whole.records.map EventRecord.row = decodable decoder rows := by
    rw [← decodeRows_rows decoder stamps, ← iterEventRecords_eq]
  have error : whole.error = (decodeRows decoder later rows).error := by
    rw [← decodeRows_error decoder stamps, ← iterEventRecords_eq]
  have parts := List.take_append_drop k whole.records
  cases last : (whole.records.take k).getLast? with
  | none =>
      have taken : whole.records.take k = [] := List.getLast?_eq_none_iff.mp last
      have again : resumed = decodeRows decoder later rows := by
        rw [← iterEventRecords_eq]
        simp only [resumed, cursorAfter, last]
        exact if_pos rfl
      rw [taken, List.nil_append] at parts
      rw [again, parts, decodeRows_rows, shownRows, error]
      exact ⟨rfl, rfl⟩
  | some record =>
      obtain ⟨front, taken⟩ := List.getLast?_eq_some_iff.mp last
      rw [taken, List.append_assoc, List.singleton_append] at parts
      obtain ⟨tail, prefixed⟩ := List.takeWhile_prefix (l := rows)
        fun row => (decoder.decode row.line).isOk
      have shape : rows = front.map EventRecord.row ++
          record.row :: ((whole.records.drop k).map EventRecord.row ++ tail) := by
        rw [← prefixed]
        change decodable decoder rows ++ tail = _
        rw [← shownRows, ← parts, List.map_append, List.map_cons, List.append_assoc,
          List.cons_append]
        simp only [parts]
      have cursor := rowsFromCursor_of_split (relPaths_distinct files) shape
      have named : record.rawSegment ≠ "" := by
        obtain ⟨earlier, current, _, _, _, segments, placed, _⟩ := rowsOfSegments_split shape
        obtain ⟨_, _, _, _, same, _⟩ := placed.place
        have path : record.rawSegment = current.relPath := congrArg Row.segment same
        rw [path]
        exact relPath_ne_empty (segments ▸ List.mem_append_right _ List.mem_cons_self)
      have again : resumed = decodeRows decoder later
          ((whole.records.drop k).map EventRecord.row ++ tail) := by
        have behind : cursorAfter (whole.records.take k) =
            ⟨record.rawSegment, record.rawOffset + record.rawLength, record.seq⟩ := by
          rw [cursorAfter, last]
        change iterEventRecordsFromCursor decoder later (cursorAfter (whole.records.take k))
          files = _
        rw [behind, iterEventRecordsFromCursor, if_neg named]
        change (match rowsFromCursor ⟨record.row.segment, record.row.offset + record.row.length,
          record.row.seq⟩ (listEventSegments files) with
          | .error message => _
          | .ok rows => _) = _
        rw [cursor]
      have decodes : decodable decoder (front.map EventRecord.row ++ [record.row]) =
          front.map EventRecord.row ++ [record.row] := by
        refine List.takeWhile_eq_self_iff.mpr fun row member => ?_
        have inside : row ∈ decodable decoder rows := by
          rw [← shownRows, ← parts, List.map_append, List.map_cons]
          rcases List.mem_append.mp member with early | here
          · exact List.mem_append_left _ early
          · rw [List.mem_singleton.mp here]
            exact List.mem_append_right _ List.mem_cons_self
        exact List.mem_takeWhile_imp (p := fun row : Row => (decoder.decode row.line).isOk) inside
      have whole' : rows = (front.map EventRecord.row ++ [record.row]) ++
          ((whole.records.drop k).map EventRecord.row ++ tail) := by
        rw [shape, List.append_assoc, List.singleton_append]
      obtain ⟨sameError, sameRows⟩ := decodeRows_append_error decoder later decodes
        ((whole.records.drop k).map EventRecord.row ++ tail)
      rw [← whole'] at sameError sameRows
      rw [again, decodeRows_rows]
      constructor
      · have both := shownRows.trans sameRows
        rw [← parts, List.map_append, List.map_cons, List.append_assoc, List.singleton_append]
          at both
        rw [parts] at both
        exact (List.cons.inj (List.append_cancel_left both)).2.symm
      · rw [error, sameError]

/-- The lines of all segments. -/
def allLines (segments : List Segment) : List Bytes :=
  segments.flatMap fun segment => segmentLines segment.data

theorem length_rowsOfLines (segment : String) (seq offset : Nat) (lines : List Bytes) :
    (rowsOfLines segment seq offset lines).length =
      lines.countP fun raw => !decide (lineText raw = "") := by
  induction lines generalizing seq offset with
  | nil => rfl
  | cons raw rest ih =>
      rw [rowsOfLines, List.countP_cons]
      by_cases blank : lineText raw = ""
      · rw [if_pos blank, ih]
        simp [blank]
      · rw [if_neg blank, List.length_cons, ih]
        simp [blank]

theorem length_rowsOfSegments (seq : Nat) (segments : List Segment) :
    (rowsOfSegments seq segments).length =
      (allLines segments).countP fun raw => !decide (lineText raw = "") := by
  induction segments generalizing seq with
  | nil => rfl
  | cons segment rest ih =>
      have lines : allLines (segment :: rest) = segmentLines segment.data ++ allLines rest :=
        List.flatMap_cons
      rw [rowsOfSegments, List.length_append, ih, length_rowsOfLines, lines, List.countP_append]

theorem countEventRecords_eq (files : SegmentFiles) :
    countEventRecords files =
      (allLines (listEventSegments files)).countP fun raw => !blankBytes raw := by
  rw [countEventRecords, allLines]
  generalize listEventSegments files = segments
  induction segments with
  | nil => rfl
  | cons segment rest ih =>
      rw [List.map_cons, List.sum_cons, ih, List.flatMap_cons, List.countP_append]

/-- A line of white space in bytes is white space in text. -/
theorem lineText_of_blankBytes {raw : Bytes} (blank : blankBytes raw = true) :
    lineText raw = "" := by
  have spaces := List.all_eq_true.mp blank
  have small : ∀ byte ∈ raw, byte.toNat < 0x80 ∧ PyString.isSpace (Char.ofNat byte.toNat) = true := by
    intro byte member
    have all : ∀ code ∈ [9, 10, 11, 12, 13, 32],
        code < 0x80 ∧ PyString.isSpace (Char.ofNat code) = true := by decide
    refine all byte.toNat ?_
    have space := spaces byte member
    simp only [isSpaceByte, Bool.or_eq_true, Bool.and_eq_true, decide_eq_true_eq, beq_iff_eq,
      UInt8.le_iff_toNat_le] at space
    rcases space with ⟨low, high⟩ | rfl
    · change 9 ≤ byte.toNat at low
      change byte.toNat ≤ 13 at high
      simp only [List.mem_cons, List.not_mem_nil, or_false]
      omega
    · decide
  have text := Utf8.decode_ascii fun byte member => (small byte member).1
  have stripped : PyString.isBlank (Utf8.decode raw) = true := by
    rw [← Bool.not_eq_false, PyString.isBlank_eq_false_iff, text, String.toList_ofList]
    rintro ⟨char, member, other⟩
    obtain ⟨byte, inside, rfl⟩ := List.mem_map.mp member
    rw [(small byte inside).2] at other
    cases other
  exact beq_iff_eq.mp stripped

theorem mem_rowsOfLines {segment : String} {lines : List Bytes} {raw : Bytes} (member : raw ∈ lines)
    (filled : lineText raw ≠ "") (seq offset : Nat) :
    ∃ row ∈ rowsOfLines segment seq offset lines, row.line = lineText raw := by
  induction lines generalizing seq offset with
  | nil => cases member
  | cons first rest ih =>
      rw [rowsOfLines]
      rcases List.mem_cons.mp member with rfl | later
      · rw [if_neg filled]
        exact ⟨_, List.mem_cons_self, rfl⟩
      · split
        · exact ih later _ _
        · obtain ⟨row, inside, same⟩ := ih later (seq + 1) (offset + first.length)
          exact ⟨row, List.mem_cons_of_mem _ inside, same⟩

theorem mem_rowsOfSegments {raw : Bytes} (member : raw ∈ allLines segments)
    (filled : lineText raw ≠ "") (seq : Nat) :
    ∃ row ∈ rowsOfSegments seq segments, row.line = lineText raw := by
  induction segments generalizing seq with
  | nil => cases member
  | cons segment rest ih =>
      rw [rowsOfSegments]
      rw [allLines, List.flatMap_cons, List.mem_append] at member
      rcases member with here | later
      · obtain ⟨row, inside, same⟩ := @mem_rowsOfLines segment.relPath _ _ here filled seq 0
        exact ⟨row, List.mem_append_left _ inside, same⟩
      · obtain ⟨row, inside, same⟩ := ih later _
        exact ⟨row, List.mem_append_right _ inside, same⟩

theorem line_of_mem_rows {row : Row} (member : row ∈ rowsOfSegments 0 segments) :
    ∃ raw ∈ allLines segments, lineText raw ≠ "" ∧ row.line = lineText raw := by
  obtain ⟨before, after, split⟩ := List.append_of_mem member
  obtain ⟨earlier, current, later, rows, behind, rfl, placed, _⟩ := rowsOfSegments_split split
  obtain ⟨front, raw, back, lines, shape, filled, _⟩ := placed.place
  refine ⟨raw, List.mem_flatMap.mpr ⟨current, by simp, ?_⟩, filled, by rw [shape]⟩
  rw [lines]
  exact List.mem_append_right _ List.mem_cons_self

/-- Each record is a row with the event that its line is read as, or the one that
stands for it. -/
theorem mem_decodeRows {decoder : Decoder σ ε ρ} {stamps : Nat → σ} {rows : List Row}
    {record : EventRecord ε} (member : record ∈ (decodeRows decoder stamps rows).records) :
    ∃ row ∈ rows, ∃ read, decoder.decode row.line = .ok read ∧
      record = recordOf row ((read (stamps row.seq)).getD
        (decoder.malformed (stamps row.seq) row.line)) := by
  induction rows with
  | nil => cases member
  | cons row rest ih =>
      rw [decodeRows] at member
      cases decoded : decoder.decode row.line with
      | error raised =>
          rw [decoded] at member
          cases member
      | ok read =>
          rw [decoded] at member
          rcases List.mem_cons.mp member with rfl | later
          · exact ⟨row, List.mem_cons_self, read, decoded, rfl⟩
          · obtain ⟨other, inside, found⟩ := ih later
            exact ⟨other, List.mem_cons_of_mem _ inside, found⟩

/-- Fetching a row decodes its line. -/
theorem hydrate_row {row : Row}
    (member : row ∈ rowsOfSegments 0 (listEventSegments files)) (decoder : Decoder σ ε ρ)
    (stamp : σ) :
    hydrateEventAt decoder stamp row.segment row.offset row.length files =
      match decoder.decode row.line with
      | .error raised => .error raised
      | .ok read => .ok (read stamp) := by
  obtain ⟨found, here, line, filled⟩ := row_fetched (relPaths_distinct files) member
  rw [hydrateEventAt, here]
  simp only [line, if_neg filled]

/-- The line is white space, or it has text that is read as an event whatever is
drawn in the call. -/
def ReadableLine (decoder : Decoder σ ε ρ) (raw : Bytes) : Prop :=
  blankBytes raw = true ∨
    (lineText raw ≠ "" ∧ ∃ read event, decoder.decode (lineText raw) = .ok read ∧
      ∀ stamp, read stamp = some event)

theorem countP_eq_forces {α : Type} {weak strong : α → Bool} {items : List α}
    (implies : ∀ item ∈ items, strong item = true → weak item = true)
    (same : items.countP weak ≤ items.countP strong) :
    ∀ item ∈ items, weak item = true → strong item = true := by
  induction items with
  | nil => exact fun item member => absurd member List.not_mem_nil
  | cons first rest ih =>
      have later := fun item member => implies item (List.mem_cons_of_mem first member)
      have fewer := List.countP_mono_left later
      rw [List.countP_cons, List.countP_cons] at same
      intro item member weakly
      rcases List.mem_cons.mp member with rfl | inside
      · by_contra not
        rw [if_pos weakly, if_neg not] at same
        omega
      · refine ih later ?_ item inside weakly
        have head := implies first List.mem_cons_self
        by_cases strongly : strong first = true
        · rw [if_pos strongly, if_pos (head strongly)] at same
          omega
        · rw [if_neg strongly] at same
          omega

/-- The segments are read exactly when each complete line is white space in bytes or has
text that is read as one event. -/
theorem segments_exact_iff [Inhabited σ] (decoder : Decoder σ ε ρ) (files : SegmentFiles) :
    (CursorsExact decoder files ∧ HydratesExact decoder files ∧ CountExact decoder files) ↔
      ∀ segment ∈ listEventSegments files, ∀ raw ∈ segmentLines segment.data,
        ReadableLine decoder raw := by
  have lines : (∀ segment ∈ listEventSegments files, ∀ raw ∈ segmentLines segment.data,
      ReadableLine decoder raw) ↔
        ∀ raw ∈ allLines (listEventSegments files), ReadableLine decoder raw := by
    simp only [allLines, List.mem_flatMap]
    exact ⟨fun all raw ⟨segment, member, inside⟩ => all segment member raw inside,
      fun all segment member raw inside => all raw ⟨segment, member, inside⟩⟩
  rw [lines]
  have implies : ∀ raw ∈ allLines (listEventSegments files),
      (!decide (lineText raw = "")) = true → (!blankBytes raw) = true := by
    intro raw _ filled
    rw [Bool.not_eq_true', decide_eq_false_iff_not] at filled
    rw [Bool.not_eq_true', ← Bool.not_eq_true]
    exact fun blank => filled (lineText_of_blankBytes blank)
  constructor
  · rintro ⟨_, hydrates, counts⟩ raw member
    let stamps : Nat → σ := fun _ => default
    have count := counts stamps
    have shown := decodeRows_rows decoder stamps (rowsOfSegments 0 (listEventSegments files))
    have sublist := (List.takeWhile_sublist (fun row : Row => (decoder.decode row.line).isOk)
      (l := rowsOfSegments 0 (listEventSegments files)))
    rw [iterEventRecords_eq, ← List.length_map (f := EventRecord.row), shown,
      countEventRecords_eq] at count
    have length := length_rowsOfSegments 0 (listEventSegments files)
    have shorter := sublist.length_le
    change (decodable decoder _).length ≤ _ at shorter
    by_cases blank : blankBytes raw = true
    · exact .inl blank
    right
    have filled := countP_eq_forces implies (by omega) raw member (by simpa using blank)
    rw [Bool.not_eq_true', decide_eq_false_iff_not] at filled
    obtain ⟨row, inside, line⟩ := mem_rowsOfSegments member filled 0
    have fewer := List.countP_mono_left implies
    have all : decodable decoder (rowsOfSegments 0 (listEventSegments files)) =
        rowsOfSegments 0 (listEventSegments files) := sublist.eq_of_length (by
          change (decodable decoder _).length = _
          omega)
    have yielded : row ∈ (decodeRows decoder stamps
        (rowsOfSegments 0 (listEventSegments files))).records.map EventRecord.row := by
      rw [shown, all]
      exact inside
    obtain ⟨record, recorded, same⟩ := List.mem_map.mp yielded
    rw [← iterEventRecords_eq] at recorded
    have fetched := fun stamp => hydrates stamps stamp record recorded
    subst same
    simp only [show ∀ stamp, hydrateEventAt decoder stamp record.rawSegment record.rawOffset
      record.rawLength files = _ from fun stamp => hydrate_row inside decoder stamp] at fetched
    rw [line] at fetched
    cases decoded : decoder.decode (lineText raw) with
    | error raised =>
        simp only [decoded] at fetched
        cases fetched default
    | ok read =>
        simp only [decoded] at fetched
        exact ⟨filled, read, record.event, rfl, fun stamp => Except.ok.inj (fetched stamp)⟩
  · intro readable
    have reads : ∀ row ∈ rowsOfSegments 0 (listEventSegments files), ∃ read event,
        decoder.decode row.line = .ok read ∧ ∀ stamp, read stamp = some event := by
      intro row member
      obtain ⟨raw, inside, filled, line⟩ := line_of_mem_rows member
      rcases readable raw inside with blank | ⟨_, found⟩
      · exact absurd (lineText_of_blankBytes blank) filled
      · rw [line]
        exact found
    refine ⟨cursors_exact decoder files, fun stamps stamp record member => ?_, fun stamps => ?_⟩
    · rw [iterEventRecords_eq] at member
      obtain ⟨row, inside, read, decoded, rfl⟩ := mem_decodeRows member
      obtain ⟨read', event, decoded', given⟩ := reads row inside
      obtain rfl := Except.ok.inj (decoded.symm.trans decoded')
      refine (hydrate_row inside decoder stamp).trans ?_
      rw [decoded]
      simp only [recordOf, given, Option.getD_some]
    · rw [iterEventRecords_eq, ← List.length_map (f := EventRecord.row), decodeRows_rows,
        countEventRecords_eq]
      have all : decodable decoder (rowsOfSegments 0 (listEventSegments files)) =
          rowsOfSegments 0 (listEventSegments files) := by
        refine List.takeWhile_eq_self_iff.mpr fun row member => ?_
        obtain ⟨read, event, decoded, _⟩ := reads row member
        rw [decoded]
        rfl
      rw [all, length_rowsOfSegments]
      refine List.countP_congr fun raw member => ⟨fun filled => ?_, implies raw member⟩
      rcases readable raw member with blank | ⟨text, _⟩
      · rw [blank] at filled
        cases filled
      · simpa using text

/-- A log whose only line is the separator with code 28: white space in text and not in bytes. -/
def separatorFiles : SegmentFiles where
  log := ⟨some ⟨[28, 10], "2026-07-09"⟩, Dict.empty⟩
  future := Dict.empty
  plain := fun _ member => absurd member List.not_mem_nil

/-- A decoder that reads every line as its text. -/
def textDecoder : Decoder Unit String Unit where
  decode := fun line => .ok fun _ => some line
  malformed := fun _ line => line

theorem separator_counted :
    ¬∀ (decoder : Decoder Unit String Unit) (files : SegmentFiles),
      CursorsExact decoder files ∧ HydratesExact decoder files ∧ CountExact decoder files := by
  intro claimed
  have count := (claimed textDecoder separatorFiles).2.2 fun _ => ()
  have counted : countEventRecords separatorFiles = 1 := by decide +kernel
  have yielded : (iterEventRecords textDecoder (fun _ => ()) 0 separatorFiles).records.length = 0 := by
    decide +kernel
  rw [counted, yielded] at count
  cases count

end ZaofuFormal.Events.Segments
