import ZaofuFormal.Foundation.Dict
import ZaofuFormal.Foundation.Lines
import ZaofuFormal.Foundation.PyString

/-!
# The event log

Events are appended as lines to one active file.  Before it writes, `append`
moves the active file to an archive when its last change was on another day or
when it has outgrown a configured size.  Readers follow the active file by byte
offset.

Encoding and decoding of one event are a parameter: the line that an event is
written as, and the event, if any, that a line is read as.
-/

namespace ZaofuFormal.Events

open Foundation

abbrev Bytes := List UInt8

def newline : UInt8 := 10

/-- How events are written to and read from one line, and the type of an event. -/
structure Codec (ε : Type) where
  encode : ε → Bytes
  decodeUtf8 : Bytes → String
  decode : String → Option ε
  eventType : ε → String

/-- A line holds no newline, and an empty line is an empty text. -/
structure Codec.Lawful {ε : Type} (codec : Codec ε) : Prop where
  noNewline : ∀ event, newline ∉ codec.encode event
  decodeUtf8_nil : codec.decodeUtf8 [] = ""

variable {ε : Type}

/-- Read one raw line; blank lines and lines that do not decode give nothing. -/
def Codec.readLine (codec : Codec ε) (raw : Bytes) : Option ε :=
  let line := PyString.strip (codec.decodeUtf8 raw)
  if line = "" then none else codec.decode line

/-- What a reader gets for an appended event. -/
def Codec.delivered (codec : Codec ε) (event : ε) : Option ε := codec.readLine (codec.encode event)

def Codec.lines (codec : Codec ε) (events : List ε) : Bytes :=
  Lines.unlines newline (events.map codec.encode)

structure ActiveFile where
  content : Bytes
  mtimeDay : String
  deriving DecidableEq

/-- The active file, when it exists, and the archives by the stem of their name. -/
structure LogFiles where
  active : Option ActiveFile
  archives : Dict String Bytes
  deriving DecidableEq

def LogFiles.empty : LogFiles := ⟨none, Dict.empty⟩

def LogFiles.content (files : LogFiles) : Bytes :=
  match files.active with
  | none => []
  | some active => active.content

def currentOffset (files : LogFiles) : Nat := files.content.length

/-- The day and the value of the size limit variable at one append. -/
structure Clock where
  today : String
  maxActiveBytes : String := ""

/-- Add the active file to the archive of its day.  The code joins the two as texts; on contents
made of appended lines, which are UTF-8 without carriage returns, this is what it writes. -/
def archiveByDay (archives : Dict String Bytes) (active : ActiveFile) : Dict String Bytes :=
  match archives.get? active.mtimeDay with
  | none => archives.insert active.mtimeDay active.content
  | some old =>
      let separator := if old ≠ [] ∧ old.getLast? ≠ some newline then [newline] else []
      archives.insert active.mtimeDay (old ++ separator ++ active.content)

def rotateIfNeeded (today : String) (files : LogFiles) : LogFiles :=
  match files.active with
  | none => files
  | some active =>
      if active.mtimeDay = today then files
      else { active := none, archives := archiveByDay files.archives active }

/-- The configured size limit, when it is set to a positive integer. -/
def sizeLimit (raw : String) : Option Nat :=
  match PyString.parseInt? raw with
  | some limit => if limit ≤ 0 then none else some limit.toNat
  | none => none

/-- An ordinal with at least four digits. -/
def ordinalText (ordinal : Nat) : String :=
  let digits := toString ordinal
  String.ofList (List.replicate (4 - digits.length) '0') ++ digits

def sizeArchive (day : String) (ordinal : Nat) : String := day ++ "-" ++ ordinalText ordinal

/-- The first ordinal whose archive name is free; one of the first `n + 1`
names is not among `n` archives. -/
def freeOrdinal (archives : Dict String Bytes) (day : String) : Nat :=
  ((List.range' 1 (archives.entries.length + 1)).find? fun ordinal =>
    !archives.contains (sizeArchive day ordinal)).getD 0

def rotateBySizeIfNeeded (maxActiveBytes : String) (files : LogFiles) : LogFiles :=
  match sizeLimit maxActiveBytes, files.active with
  | some limit, some active =>
      if active.content.length < limit then files
      else {
        active := none
        archives := files.archives.insert
          (sizeArchive active.mtimeDay (freeOrdinal files.archives active.mtimeDay))
          active.content }
  | _, _ => files

def append (codec : Codec ε) (clock : Clock) (event : ε) (files : LogFiles) : LogFiles :=
  let rotated := rotateBySizeIfNeeded clock.maxActiveBytes (rotateIfNeeded clock.today files)
  { rotated with active := some {
      content := rotated.content ++ codec.encode event ++ [newline]
      mtimeDay := clock.today } }

/-- The events of the complete lines from an offset on, and the offset behind
them.  An offset beyond the end of the file is taken as the start. -/
def readFromOffset (codec : Codec ε) (offset : Nat) (files : LogFiles) : List ε × Nat :=
  match files.active with
  | none => ([], 0)
  | some active =>
      let effectiveOffset := if offset ≤ active.content.length then offset else 0
      let data := active.content.drop effectiveOffset
      if newline ∉ data then ([], effectiveOffset)
      else
        let complete := Lines.complete newline data
        ((complete.splitOn newline).filterMap codec.readLine, effectiveOffset + complete.length)

/-- Does an append at this time start a new active file? -/
def Rotates (clock : Clock) (files : LogFiles) : Prop :=
  ∃ active ∈ files.active, active.mtimeDay ≠ clock.today ∨
    ∃ limit ∈ sizeLimit clock.maxActiveBytes, limit ≤ active.content.length

instance (clock : Clock) (files : LogFiles) : Decidable (Rotates clock files) :=
  inferInstanceAs (Decidable (∃ active ∈ _, _))

theorem rotated_content (clock : Clock) (files : LogFiles) :
    (rotateBySizeIfNeeded clock.maxActiveBytes (rotateIfNeeded clock.today files)).content =
      if Rotates clock files then [] else files.content := by
  obtain ⟨active, archives⟩ := files
  cases active with
  | none =>
      have stays : ¬ Rotates clock ⟨none, archives⟩ := by simp [Rotates]
      rw [if_neg stays]
      cases configured : sizeLimit clock.maxActiveBytes <;>
        simp [rotateIfNeeded, rotateBySizeIfNeeded, configured]
  | some active =>
      by_cases sameDay : active.mtimeDay = clock.today
      · cases configured : sizeLimit clock.maxActiveBytes with
        | none => simp [rotateIfNeeded, rotateBySizeIfNeeded, sameDay, configured, Rotates]
        | some limit =>
            by_cases small : active.content.length < limit
            · have stays : ¬ limit ≤ active.content.length := Nat.not_le.mpr small
              simp [rotateIfNeeded, rotateBySizeIfNeeded, sameDay, configured, Rotates, small,
                stays]
            · have moves : limit ≤ active.content.length := Nat.not_lt.mp small
              simp [rotateIfNeeded, rotateBySizeIfNeeded, sameDay, configured, Rotates, small,
                moves, LogFiles.content]
      · cases configured : sizeLimit clock.maxActiveBytes <;>
          simp [rotateIfNeeded, rotateBySizeIfNeeded, sameDay, configured, Rotates,
            LogFiles.content]

/-- An append adds one line to the active file, or starts a new one with it. -/
theorem append_content (codec : Codec ε) (clock : Clock) (event : ε) (files : LogFiles) :
    (append codec clock event files).content =
      (if Rotates clock files then [] else files.content) ++ codec.lines [event] := by
  rw [← rotated_content]
  simp [append, LogFiles.content, Codec.lines, Lines.unlines]

theorem Codec.lines_append (codec : Codec ε) (first second : List ε) :
    codec.lines (first ++ second) = codec.lines first ++ codec.lines second := by
  rw [Codec.lines, List.map_append, Lines.unlines_append]
  rfl

theorem Codec.lines_eq_nil_iff (codec : Codec ε) (events : List ε) :
    codec.lines events = [] ↔ events = [] := by
  rw [Codec.lines, Lines.unlines_eq_nil_iff, List.map_eq_nil_iff]

/-- The offset at which a read starts. -/
def effectiveOffset (offset : Nat) (files : LogFiles) : Nat :=
  if offset ≤ currentOffset files then offset else 0

theorem readFromOffset_eq (codec : Codec ε) (offset : Nat) (files : LogFiles) :
    readFromOffset codec offset files =
      (if newline ∉ files.content.drop (effectiveOffset offset files) then
        ([], effectiveOffset offset files)
      else
        (((Lines.complete newline (files.content.drop (effectiveOffset offset files))).splitOn
          newline).filterMap codec.readLine,
          effectiveOffset offset files +
            (Lines.complete newline (files.content.drop (effectiveOffset offset files))).length)) := by
  obtain ⟨active, archives⟩ := files
  cases active with
  | none =>
      simp only [readFromOffset, effectiveOffset, currentOffset, LogFiles.content,
        List.length_nil, List.drop_nil, List.not_mem_nil, not_false_eq_true, if_true]
      cases offset with
      | zero => rfl
      | succ offset => rfl
  | some active => rfl

/-- Reading behind `stem` where the rest of the file is the lines of `events`
returns what these lines decode to and ends at the end of the file. -/
theorem readFromOffset_lines {codec : Codec ε} (lawful : codec.Lawful) {files : LogFiles}
    {offset : Nat} {stem : Bytes} {events : List ε}
    (split : files.content = stem ++ codec.lines events)
    (start : effectiveOffset offset files = stem.length) :
    readFromOffset codec offset files =
      (events.filterMap codec.delivered, currentOffset files) := by
  have rest : files.content.drop (effectiveOffset offset files) = codec.lines events := by
    rw [start, split, List.drop_left]
  have size : currentOffset files = stem.length + (codec.lines events).length := by
    rw [currentOffset, split, List.length_append]
  rw [readFromOffset_eq, rest, start, size]
  by_cases missing : newline ∉ codec.lines events
  · rw [if_pos missing]
    have none : events = [] := by
      by_contra nonempty
      have lines : events.map codec.encode ≠ [] := by simpa using nonempty
      obtain ⟨data, ends⟩ := Lines.unlines_eq_append_separator newline lines
      apply missing
      rw [Codec.lines, ends]
      exact List.mem_append_right data List.mem_cons_self
    rw [none]
    rfl
  · rw [if_neg missing]
    have clean : ∀ line ∈ events.map codec.encode, newline ∉ line := by
      intro line member
      obtain ⟨event, _, rfl⟩ := List.mem_map.mp member
      exact lawful.noNewline event
    have blank : codec.readLine [] = none := by
      simp [Codec.readLine, lawful.decodeUtf8_nil]
    rw [Codec.lines, Lines.complete_unlines, Lines.splitOn_unlines clean, List.filterMap_append,
      List.filterMap_map]
    simp only [List.filterMap_cons, blank, List.filterMap_nil, List.append_nil]
    rfl

/-- A read of a file of lines ends at the end of the file, wherever it starts. -/
theorem readFromOffset_end {codec : Codec ε} {files : LogFiles} {events : List ε}
    (content : files.content = codec.lines events) (offset : Nat) :
    (readFromOffset codec offset files).2 = currentOffset files := by
  have inside : effectiveOffset offset files ≤ currentOffset files := by
    unfold effectiveOffset
    split
    · assumption
    · exact Nat.zero_le _
  have size : effectiveOffset offset files +
      (files.content.drop (effectiveOffset offset files)).length = currentOffset files := by
    rw [List.length_drop]
    exact Nat.add_sub_cancel' inside
  rw [readFromOffset_eq, apply_ite Prod.snd]
  rw [content, Codec.lines] at size ⊢
  by_cases missing : newline ∉ (Lines.unlines newline (events.map codec.encode)).drop
      (effectiveOffset offset files)
  · rw [if_pos missing]
    rcases Lines.drop_unlines newline (events.map codec.encode) (effectiveOffset offset files) with
      empty | ⟨data, ends⟩
    · rw [empty] at size
      exact size
    · rw [ends] at missing
      exact absurd (List.mem_append_right data List.mem_cons_self) missing
  · rw [if_neg missing]
    change _ + (Lines.complete newline _).length = _
    rw [Lines.complete_drop_unlines]
    exact size

def printableAscii (char : Char) : Bool :=
  decide (32 ≤ char.toNat) && decide (char.toNat < 127)

/-- An event in the form of its serialized line, in printable ASCII. -/
structure PlainLine where
  text : List Char
  printable : text.all printableAscii = true
  deriving DecidableEq

/-- A line is decoded when it is a printable JSON object, whose first field is the type. -/
def plainCodec : Codec PlainLine where
  encode event := event.text.map fun char => UInt8.ofNat char.toNat
  decodeUtf8 raw := String.ofList (raw.map fun byte => Char.ofNat byte.toNat)
  decode line :=
    if printable : line.toList.all printableAscii = true then
      if PyString.startsWith line "\x7b" then some ⟨line.toList, printable⟩ else none
    else none
  eventType event := String.ofList
    ((event.text.drop 10).takeWhile fun char => !decide (char = Char.ofNat 34))

theorem plainCodec_lawful : plainCodec.Lawful where
  noNewline := by
    intro event member
    obtain ⟨char, present, same⟩ := List.mem_map.mp member
    have printable := List.all_eq_true.mp event.printable char present
    rw [printableAscii, Bool.and_eq_true, decide_eq_true_iff, decide_eq_true_iff] at printable
    obtain ⟨low, high⟩ := printable
    have code := congrArg UInt8.toNat same
    have small : char.toNat < UInt8.size := Nat.lt_trans high (by decide)
    rw [UInt8.toNat_ofNat_of_lt' small] at code
    change char.toNat = 10 at code
    omega
  decodeUtf8_nil := rfl

end ZaofuFormal.Events
