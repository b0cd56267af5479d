import ZaofuFormal.Foundation.Delimited
import ZaofuFormal.Foundation.TextLines

/-!
# Memory entries as text

An entry is appended to a file as a block: a comment with its type and its days, its
first line as a heading, and its content.  A file is read back by a search for such
comments, and the content of an entry goes up to the next text that starts like one.
-/

namespace ZaofuFormal.Memory

open Foundation
open Delimited (after? before? run? cutBefore StartsAt)
open PyString (stripChars)

structure MemoryEntry where
  type : List Char
  content : List Char
  addedAt : List Char
  maxDays : Nat
  deriving DecidableEq

/-- `_DECAY_DAYS`, whose keys are the known types. -/
def decayDays : List (List Char × Nat) :=
  [("decision".toList, 30), ("pattern".toList, 60), ("fix".toList, 7), ("context".toList, 14)]

def typeOpening : List Char := "<!-- type: ".toList

def daysOpening : List Char := "; max_days: ".toList

def stampOpening : List Char := "; last_updated: ".toList

/-- `content.split("\n")[0][:80]`. -/
def heading (content : List Char) : List Char := (content.takeWhile (· != '\n')).take 80

def header (entry : MemoryEntry) : List Char :=
  typeOpening ++ (entry.type ++ (daysOpening ++ (Nat.toDigits 10 entry.maxDays ++
    (stampOpening ++ (entry.addedAt ++ " -->".toList)))))

def block (entry : MemoryEntry) : List Char :=
  '\n' :: (header entry ++ ("\n## ".toList ++ (heading entry.content ++ '\n' ::
    (entry.content ++ ['\n']))))

/-- The classes of the pattern: word characters, and digits with their values. -/
structure CharClasses where
  isWord : Char → Bool
  decimal? : Char → Option Nat

/-- What the classes say about letters, digits and the separator of the header. -/
structure CharClasses.Lawful (classes : CharClasses) : Prop where
  letters : ∀ char, char.isLower = true → classes.isWord char = true
  digits : ∀ value < 10, classes.decimal? (Nat.digitChar value) = some value
  notWord : classes.isWord ';' = false
  notDecimal : classes.decimal? ';' = none

/-- `\n<!-- type:`, where the content of an entry stops. -/
def marker : List Char := "\n<!-- type:".toList

section Reading

variable (classes : CharClasses)

def decimalValue (digits : List Char) : Nat :=
  digits.foldl (fun value char => value * 10 + (classes.decimal? char).getD 0) 0

/-- A match of the pattern at the front, and the text behind it. -/
def matchEntry (chars : List Char) : Option (MemoryEntry × List Char) := do
  let chars ← after? typeOpening chars
  let (type, chars) ← run? classes.isWord chars
  let chars ← after? daysOpening chars
  let (days, chars) ← run? (fun char => (classes.decimal? char).isSome) chars
  let chars ← after? stampOpening chars
  let (stamp, chars) ← run? (· != '>') chars
  let addedAt ← before? " --".toList stamp
  let chars ← after? ">\n## ".toList chars
  let chars ← after? ['\n'] (chars.dropWhile (· != '\n'))
  let (content, rest) := cutBefore marker chars
  some (⟨type, stripChars content, stripChars addedAt, decimalValue classes days⟩, rest)

/-- `pattern.finditer(text)`: a match takes one character at least. -/
def parseFrom : Nat → List Char → List MemoryEntry
  | 0, _ => []
  | _ + 1, [] => []
  | fuel + 1, char :: rest =>
      match matchEntry classes (char :: rest) with
      | some (entry, later) => entry :: parseFrom fuel later
      | none => parseFrom fuel rest

def parseEntries (text : List Char) : List MemoryEntry := parseFrom classes text.length text

end Reading

/-- A content that is read back: nothing in it looks like the next comment, and no
carriage return is translated. -/
structure Clean (content : List Char) : Prop where
  free : ¬ marker <:+: content
  noReturn : '\r' ∉ content

/-- A time stamp between the blanks of the comment. -/
structure Stamp where
  text : List Char
  filled : text ≠ []
  noClosing : '>' ∉ text
  noReturn : '\r' ∉ text

/-- An entry as `add` makes it. -/
structure Written (entry : MemoryEntry) : Prop where
  known : (entry.type, entry.maxDays) ∈ decayDays
  clean : Clean entry.content
  stamped : ∃ stamp : Stamp, entry.addedAt = stamp.text

/-- The entry with its content and its stamp trimmed. -/
def readBack (entry : MemoryEntry) : MemoryEntry :=
  { entry with content := stripChars entry.content, addedAt := stripChars entry.addedAt }

theorem notMem_heading (content : List Char) : '\n' ∉ heading content := by
  intro member
  have kept := List.mem_takeWhile_imp (List.mem_of_mem_take member)
  simp at kept

section Parsing

variable {classes : CharClasses}

/-- The days of a known type are digits that are read as their number. -/
theorem days_digits (lawful : classes.Lawful) {type : List Char} {days : Nat}
    (known : (type, days) ∈ decayDays) :
    Nat.toDigits 10 days ≠ [] ∧
      (∀ char ∈ Nat.toDigits 10 days, (classes.decimal? char).isSome = true) ∧
      decimalValue classes (Nat.toDigits 10 days) = days := by
  have digit (value : Nat) (small : value < 10) := lawful.digits value small
  have zero := digit 0 (by decide)
  have one := digit 1 (by decide)
  have three := digit 3 (by decide)
  have four := digit 4 (by decide)
  have six := digit 6 (by decide)
  have seven := digit 7 (by decide)
  change classes.decimal? '0' = some 0 at zero
  change classes.decimal? '1' = some 1 at one
  change classes.decimal? '3' = some 3 at three
  change classes.decimal? '4' = some 4 at four
  change classes.decimal? '6' = some 6 at six
  change classes.decimal? '7' = some 7 at seven
  simp only [decayDays, List.mem_cons, Prod.mk.injEq, List.not_mem_nil, or_false] at known
  rcases known with ⟨_, rfl⟩ | ⟨_, rfl⟩ | ⟨_, rfl⟩ | ⟨_, rfl⟩
  · have shape : Nat.toDigits 10 30 = ['3', '0'] := by decide
    simp [shape, decimalValue, three, zero]
  · have shape : Nat.toDigits 10 60 = ['6', '0'] := by decide
    simp [shape, decimalValue, six, zero]
  · have shape : Nat.toDigits 10 7 = ['7'] := by decide
    simp [shape, decimalValue, seven]
  · have shape : Nat.toDigits 10 14 = ['1', '4'] := by decide
    simp [shape, decimalValue, one, four]

theorem type_letters {type : List Char} {days : Nat} (known : (type, days) ∈ decayDays) :
    type ≠ [] ∧ ∀ char ∈ type, char.isLower = true := by
  have letters : decayDays.all
      (fun entry => !entry.1.isEmpty && entry.1.all Char.isLower) = true := by decide
  have own := List.all_eq_true.mp letters (type, days) known
  rw [Bool.and_eq_true] at own
  exact ⟨by simpa using own.1, List.all_eq_true.mp own.2⟩

theorem matchEntry_block (lawful : classes.Lawful) {entry : MemoryEntry}
    (written : Written entry) {tail : List Char} (start : StartsAt marker tail) :
    matchEntry classes (header entry ++ ("\n## ".toList ++ (heading entry.content ++ '\n' ::
      (entry.content ++ '\n' :: tail)))) = some (readBack entry, tail) := by
  obtain ⟨typeFilled, typeLetters⟩ := type_letters written.known
  obtain ⟨daysFilled, daysDigits, daysValue⟩ := days_digits lawful written.known
  obtain ⟨stamp, stamped⟩ := written.stamped
  have typeRun (rest : List Char) : run? classes.isWord (entry.type ++ (daysOpening ++ rest)) =
      some (entry.type, daysOpening ++ rest) :=
    Delimited.run?_append typeFilled
      (fun char member => lawful.letters char (typeLetters char member)) lawful.notWord
  have stops : (classes.decimal? ';').isSome = false := by
    rw [lawful.notDecimal]
    rfl
  have daysRun (rest : List Char) :
      run? (fun char => (classes.decimal? char).isSome)
          (Nat.toDigits 10 entry.maxDays ++ (stampOpening ++ rest)) =
        some (Nat.toDigits 10 entry.maxDays, stampOpening ++ rest) :=
    Delimited.run?_append daysFilled daysDigits stops
  have stampRun (rest : List Char) :
      run? (· != '>') (entry.addedAt ++ (" -->".toList ++ rest)) =
        some (entry.addedAt ++ " --".toList, '>' :: rest) := by
    have parts : entry.addedAt ++ (" -->".toList ++ rest) =
        (entry.addedAt ++ " --".toList) ++ '>' :: rest := by simp
    rw [parts]
    refine Delimited.run?_append (by simp) (fun char member => ?_) (by decide)
    rcases List.mem_append.mp member with inside | dashes
    · rw [stamped] at inside
      exact bne_iff_ne.mpr fun same => stamp.noClosing (same ▸ inside)
    · have plain : " --".toList.all (· != '>') = true := by decide
      exact List.all_eq_true.mp plain char dashes
  have stampEnd : before? " --".toList (entry.addedAt ++ " --".toList) = some entry.addedAt :=
    Delimited.before?_append (stamped ▸ stamp.filled) _
  have headed (rest : List Char) :
      (heading entry.content ++ '\n' :: rest).dropWhile (· != '\n') = '\n' :: rest := by
    rw [List.dropWhile_append_of_pos, List.dropWhile_cons]
    · rfl
    · exact fun char member => bne_iff_ne.mpr fun same =>
        notMem_heading entry.content (same ▸ member)
  have body : cutBefore marker (entry.content ++ '\n' :: tail) =
      (entry.content ++ ['\n'], tail) :=
    Delimited.cutBefore_part (by decide) (by decide) written.clean.free start
  have trimmed : stripChars (entry.content ++ ['\n']) = stripChars entry.content :=
    TextLines.stripChars_lineEnd (by decide) _
  have closing (rest : List Char) :
      after? ">\n## ".toList ('>' :: ("\n## ".toList ++ rest)) = some rest :=
    Delimited.after?_append ">\n## ".toList rest
  have lineEnd (rest : List Char) : after? ['\n'] ('\n' :: rest) = some rest :=
    Delimited.after?_append ['\n'] rest
  simp only [matchEntry, header, List.append_assoc, Delimited.after?_append, Option.bind_eq_bind,
    Option.bind_some, typeRun, daysRun, stampRun, stampEnd, closing, headed, lineEnd, body,
    trimmed, daysValue, readBack]

theorem parseFrom_match {chars later : List Char} {entry : MemoryEntry}
    (matched : matchEntry classes chars = some (entry, later)) (fuel : Nat) :
    parseFrom classes (fuel + 1) chars = entry :: parseFrom classes fuel later := by
  cases chars with
  | nil =>
      have refused : after? typeOpening [] = none := by decide
      simp [matchEntry, refused] at matched
  | cons char rest => simp only [parseFrom, matched]

theorem parseFrom_lineFeed (fuel : Nat) (rest : List Char) :
    parseFrom classes (fuel + 1) ('\n' :: rest) = parseFrom classes fuel rest := by
  have refused : matchEntry classes ('\n' :: rest) = none := rfl
  rw [parseFrom, refused]

theorem startsAt_blocks (entries : List MemoryEntry) :
    StartsAt marker (entries.flatMap block) := by
  cases entries with
  | nil => exact Or.inl rfl
  | cons entry rest =>
      have opening : '\n' :: typeOpening = marker ++ [' '] := by decide
      have shape : ∃ more, (entry :: rest).flatMap block = marker ++ more := by
        rw [List.flatMap_cons, block, header, List.append_assoc, ← List.cons_append,
          List.append_assoc, ← List.cons_append, opening, List.append_assoc]
        exact ⟨_, rfl⟩
      obtain ⟨more, shape⟩ := shape
      rw [shape]
      exact Or.inr (List.prefix_append marker more)

/-- Blocks one after another are read as their entries, in order. -/
theorem parseFrom_blocks (lawful : classes.Lawful) {entries : List MemoryEntry}
    (written : ∀ entry ∈ entries, Written entry) {fuel : Nat}
    (enough : (entries.flatMap block).length ≤ fuel) :
    parseFrom classes fuel (entries.flatMap block) = entries.map readBack := by
  induction entries generalizing fuel with
  | nil => cases fuel <;> rfl
  | cons entry rest ih =>
      obtain ⟨first, later⟩ := List.forall_mem_cons.mp written
      have matched := matchEntry_block lawful first (startsAt_blocks rest)
      have shape : (entry :: rest).flatMap block =
          '\n' :: (header entry ++ ("\n## ".toList ++ (heading entry.content ++ '\n' ::
            (entry.content ++ '\n' :: rest.flatMap block)))) := by
        simp [block]
      rw [shape] at enough ⊢
      simp only [List.length_cons, List.length_append] at enough
      obtain ⟨more, rfl⟩ : ∃ more, fuel = more + 1 + 1 := ⟨fuel - 2, by omega⟩
      rw [parseFrom_lineFeed, parseFrom_match matched, ih later (by omega), List.map_cons]

theorem parseEntries_blocks (lawful : classes.Lawful) {entries : List MemoryEntry}
    (written : ∀ entry ∈ entries, Written entry) :
    parseEntries classes (entries.flatMap block) = entries.map readBack :=
  parseFrom_blocks lawful written (Nat.le_refl _)

end Parsing

/-- Nothing in a block is translated on reading. -/
theorem notMem_block {entry : MemoryEntry} (written : Written entry) : '\r' ∉ block entry := by
  obtain ⟨stamp, stamped⟩ := written.stamped
  have type : '\r' ∉ entry.type := fun member =>
    absurd ((type_letters written.known).2 _ member) (by decide)
  have days : '\r' ∉ Nat.toDigits 10 entry.maxDays := by
    have known := written.known
    simp only [decayDays, List.mem_cons, Prod.mk.injEq, List.not_mem_nil, or_false] at known
    rcases known with ⟨_, same⟩ | ⟨_, same⟩ | ⟨_, same⟩ | ⟨_, same⟩ <;> rw [same] <;> decide
  have title : '\r' ∉ heading entry.content := fun member =>
    written.clean.noReturn ((List.takeWhile_sublist _).subset (List.mem_of_mem_take member))
  have openings : '\r' ∉ typeOpening ∧ '\r' ∉ daysOpening ∧ '\r' ∉ stampOpening ∧
      '\r' ∉ " -->".toList ∧ '\r' ∉ "\n## ".toList := by decide
  obtain ⟨first, second, third, fourth, fifth⟩ := openings
  have content := written.clean.noReturn
  have stampFree := stamped ▸ stamp.noReturn
  simp only [block, header, List.mem_cons, List.mem_append, List.not_mem_nil, or_false, not_or]
  exact ⟨by decide, ⟨first, type, second, days, third, stampFree, fourth⟩, fifth, title, by decide,
    content, by decide⟩

end ZaofuFormal.Memory
