import ZaofuFormal.Events.Log
import ZaofuFormal.Foundation.Padded
import ZaofuFormal.Foundation.Runs
import ZaofuFormal.Foundation.Sorting

/-!
# Reading the whole log

`readAll` decodes every archive, in the order of the file names, and then the
active file.  The names say when an archive was written only through their
order: the segments that a day was cut into by size carry a number of at least
four digits, and the rest of the day is named by the day alone.
-/

namespace ZaofuFormal.Events

open Foundation

variable {ε : Type}

/-- The events of the complete lines of a file, and the size of these lines. -/
def parseFile (codec : Codec ε) (data : Bytes) : List ε × Nat :=
  if newline ∉ data then ([], 0)
  else
    let complete := Lines.complete newline data
    ((complete.splitOn newline).filterMap codec.readLine, complete.length)

def archiveName (stem : String) : String := stem ++ ".jsonl"

/-- The archives in the order of their file names. -/
def listArchives (files : LogFiles) : List (String × Bytes) :=
  Sorting.sortedBy (fun archive => archiveName archive.1) files.archives.entries

/-- A read without any cache. -/
def readAll (codec : Codec ε) (files : LogFiles) : List ε :=
  (listArchives files).flatMap (fun archive => (parseFile codec archive.2).1) ++
    (parseFile codec files.content).1

theorem parseFile_lines {codec : Codec ε} (lawful : codec.Lawful) (events : List ε) :
    parseFile codec (codec.lines events) =
      (events.filterMap codec.delivered, (codec.lines events).length) := by
  let files : LogFiles := ⟨some ⟨codec.lines events, ""⟩, Dict.empty⟩
  have whole : readFromOffset codec 0 files = parseFile codec (codec.lines events) := by
    simp [files, readFromOffset, parseFile]
  rw [← whole]
  have split : files.content = [] ++ codec.lines events := rfl
  exact readFromOffset_lines lawful split rfl

def rotate (clock : Clock) (files : LogFiles) : LogFiles :=
  rotateBySizeIfNeeded clock.maxActiveBytes (rotateIfNeeded clock.today files)

/-- Has the active file reached the configured size? -/
def Outgrown (clock : Clock) (active : ActiveFile) : Prop :=
  ∃ limit ∈ sizeLimit clock.maxActiveBytes, limit ≤ active.content.length

/-- The active file stays, or it becomes the archive of its day or a segment of this day. -/
theorem rotate_cases (clock : Clock) (files : LogFiles) :
    rotate clock files = files ∨
    (∃ active ∈ files.active, active.mtimeDay ≠ clock.today ∧
      rotate clock files = ⟨none, archiveByDay files.archives active⟩) ∨
    (∃ active ∈ files.active, active.mtimeDay = clock.today ∧ Outgrown clock active ∧
      rotate clock files = ⟨none, files.archives.insert
        (sizeArchive active.mtimeDay (freeOrdinal files.archives active.mtimeDay))
        active.content⟩) := by
  obtain ⟨_ | active, archives⟩ := files
  · left
    cases configured : sizeLimit clock.maxActiveBytes <;>
      simp [rotate, rotateIfNeeded, rotateBySizeIfNeeded, configured]
  · by_cases sameDay : active.mtimeDay = clock.today
    · have kept : rotateIfNeeded clock.today ⟨some active, archives⟩ = ⟨some active, archives⟩ :=
        if_pos sameDay
      rw [rotate, kept]
      cases configured : sizeLimit clock.maxActiveBytes with
      | none =>
          left
          simp [rotateBySizeIfNeeded, configured]
      | some limit =>
          by_cases small : active.content.length < limit
          · left
            simp [rotateBySizeIfNeeded, configured, small]
          · refine Or.inr (Or.inr ⟨active, rfl, sameDay, ⟨limit, configured, ?_⟩, ?_⟩)
            · exact Nat.not_lt.mp small
            · simp [rotateBySizeIfNeeded, configured, small]
    · refine Or.inr (Or.inl ⟨active, rfl, sameDay, ?_⟩)
      have moved : rotateIfNeeded clock.today ⟨some active, archives⟩ =
          ⟨none, archiveByDay archives active⟩ := if_neg sameDay
      rw [rotate, moved]
      cases configured : sizeLimit clock.maxActiveBytes <;>
        simp [rotateBySizeIfNeeded, configured]

/-- An append that checks for rotation on one day and has written on another. -/
def appendAt (codec : Codec ε) (clock : Clock) (writtenDay : String) (event : ε)
    (files : LogFiles) : LogFiles :=
  let rotated := rotate clock files
  { rotated with active := some {
      content := rotated.content ++ codec.encode event ++ [newline]
      mtimeDay := writtenDay } }

/-- One append: what it finds the time to be, the day on which it writes, and the event. -/
structure AppendCall (ε : Type) where
  clock : Clock
  writtenDay : String
  event : ε

def appendStep (codec : Codec ε) (files : LogFiles) (action : AppendCall ε) : LogFiles :=
  appendAt codec action.clock action.writtenDay action.event files

/-- The files after a sequence of appends to a log that did not exist. -/
def filesAfter (codec : Codec ε) (appends : List (AppendCall ε)) : LogFiles :=
  Runs.run (appendStep codec) LogFiles.empty appends

/-- No day is before a day that an earlier append has seen, the day on which an
append writes compared with the check of a later append and not with its own. -/
def NonDecreasing (appends : List (AppendCall ε)) : Prop :=
  appends.Pairwise fun earlier later =>
    earlier.clock.today ≤ later.clock.today ∧ earlier.writtenDay ≤ later.writtenDay ∧
      earlier.writtenDay ≤ later.clock.today

/-- When the active file is cut by size, one of the numbers of four digits is free. -/
def NumberLeft (files : LogFiles) (action : AppendCall ε) : Prop :=
  ∀ active ∈ files.active, active.mtimeDay = action.clock.today →
    Outgrown action.clock active →
      ∃ ordinal, 1 ≤ ordinal ∧ ordinal ≤ 9999 ∧
        files.archives.contains (sizeArchive active.mtimeDay ordinal) = false

end ZaofuFormal.Events
