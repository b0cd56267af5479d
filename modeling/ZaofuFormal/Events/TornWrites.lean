import ZaofuFormal.Events.ArchiveNames
import ZaofuFormal.Foundation.JsonText

/-!
# Appends behind a torn line

Readers leave a last line without a newline for a later read, while an append
writes directly behind it.  A file is modelled with whatever bytes it holds, and
two files of one day are joined as the code joins them: as texts, which fails
where one is no UTF-8 and makes a newline of every carriage return.
-/

namespace ZaofuFormal.Events.TornWrites

open Foundation

variable {ε : Type}

def carriageReturn : UInt8 := 13

/-- The translation of line ends on reading; their bytes are part of no other code point. -/
def universalNewlines : Bytes → Bytes
  | [] => []
  | byte :: rest =>
      if byte = carriageReturn then
        if rest.head? = some newline then universalNewlines rest
        else newline :: universalNewlines rest
      else byte :: universalNewlines rest

def separator (old : Bytes) : Bytes :=
  if old ≠ [] ∧ old.getLast? ≠ some newline then [newline] else []

section Writers

variable (validUtf8 : Bytes → Bool)

/-- What is written to the archive, when both texts can be read. -/
def joinedText? (old new : Bytes) : Option Bytes :=
  if validUtf8 old && validUtf8 new then
    let old := universalNewlines old
    some (old ++ separator old ++ universalNewlines new)
  else none

def archiveText? (archives : Dict String Bytes) (active : ActiveFile) :
    Option (Dict String Bytes) :=
  match archives.get? active.mtimeDay with
  | none => some (archives.insert active.mtimeDay active.content)
  | some old => (joinedText? validUtf8 old active.content).map (archives.insert active.mtimeDay)

/-- `rotate_if_needed`, or else the rotation by size; no result where the join raises. -/
def rotateText? (clock : Clock) (files : LogFiles) : Option LogFiles :=
  match files.active with
  | none => some files
  | some active =>
      if active.mtimeDay = clock.today then
        some (rotateBySizeIfNeeded clock.maxActiveBytes files)
      else (archiveText? validUtf8 files.archives active).map (LogFiles.mk none)

/-- A rotation, and bytes behind what the file then holds. -/
def appendBytes? (clock : Clock) (writtenDay : String) (bytes : Bytes) (files : LogFiles) :
    Option LogFiles :=
  (rotateText? validUtf8 clock files).map fun rotated =>
    { rotated with active := some ⟨rotated.content ++ bytes, writtenDay⟩ }

def appendText? (codec : Codec ε) (call : AppendCall ε) (files : LogFiles) : Option LogFiles :=
  appendBytes? validUtf8 call.clock call.writtenDay (codec.encode call.event ++ [newline]) files

def cutAt (size : Option Nat) (text : Bytes) : Bytes := text.take (size.getD text.length)

/-- A joined text, or its first bytes, stand in the archive, and the active file is there too. -/
def cutJoin? (clock : Clock) (size : Option Nat) (files : LogFiles) : Option LogFiles :=
  files.active.bind fun active =>
    if active.mtimeDay = clock.today then none
    else (files.archives.get? active.mtimeDay).bind fun old =>
      (joinedText? validUtf8 old active.content).map fun text =>
        { files with archives := files.archives.insert active.mtimeDay (cutAt size text) }

/-- A writer writes a line or dies behind some bytes of it, it dies behind the rotation, or it
dies behind the joined text or behind the first bytes that it writes of it. -/
inductive Write where
  | bytes (clock : Clock) (writtenDay : String) (bytes : Bytes)
  | rotation (clock : Clock)
  | cutJoin (clock : Clock) (size : Option Nat)

def Write.Cuts : Write → Prop
  | .cutJoin _ (some _) => True
  | _ => False

/-- A write that raises leaves the files as they are. -/
def writeStep (files : LogFiles) (write : Write) : LogFiles :=
  (match write with
    | .bytes clock writtenDay bytes => appendBytes? validUtf8 clock writtenDay bytes files
    | .rotation clock => rotateText? validUtf8 clock files
    | .cutJoin clock size => cutJoin? validUtf8 clock size files).getD files

end Writers

/-- The line stands at the start or behind a newline, with a newline behind it. -/
def HasLine (line data : Bytes) : Prop :=
  ∃ front back, data = front ++ line ++ newline :: back ∧
    (front = [] ∨ ∃ initial, front = initial ++ [newline])

section Lines

variable {line data : Bytes}

theorem HasLine.append (has : HasLine line data) (more : Bytes) : HasLine line (data ++ more) := by
  obtain ⟨front, back, rfl, ended⟩ := has
  exact ⟨front, back ++ more, by simp, ended⟩

theorem separated (old : Bytes) :
    old ++ separator old = [] ∨ ∃ initial, old ++ separator old = initial ++ [newline] := by
  unfold separator
  split
  · exact Or.inr ⟨old, rfl⟩
  · rename_i whole
    rw [List.append_nil]
    by_cases empty : old = []
    · exact Or.inl empty
    · exact Or.inr (List.getLast?_eq_some_iff.mp (by_contra fun other => whole ⟨empty, other⟩))

theorem HasLine.behind (has : HasLine line data) (old : Bytes) :
    HasLine line (old ++ separator old ++ data) := by
  obtain ⟨front, back, rfl, ended⟩ := has
  refine ⟨old ++ separator old ++ front, back, by simp, ?_⟩
  rcases ended with rfl | ⟨initial, rfl⟩
  · rw [List.append_nil]
    exact separated old
  · exact Or.inr ⟨old ++ separator old ++ initial, (List.append_assoc _ _ _).symm⟩

theorem universalNewlines_line (bare : carriageReturn ∉ line) (back : Bytes) :
    universalNewlines (line ++ newline :: back) = line ++ newline :: universalNewlines back := by
  induction line with
  | nil => rfl
  | cons byte rest ih =>
      rw [List.mem_cons, not_or] at bare
      rw [List.cons_append, universalNewlines, if_neg (Ne.symm bare.1), ih bare.2]
      rfl

/-- What stands behind a newline is read on its own. -/
theorem universalNewlines_split (initial : Bytes) : ∃ start, ∀ rest,
    universalNewlines (initial ++ newline :: rest) =
      start ++ newline :: universalNewlines rest := by
  induction initial with
  | nil => exact ⟨[], fun _ => rfl⟩
  | cons byte initial ih =>
      obtain ⟨start, same⟩ := ih
      have head (rest : Bytes) : (initial ++ newline :: rest).head? =
          (initial ++ [newline]).head? := by
        cases initial <;> rfl
      simp only [List.cons_append, universalNewlines, head, same]
      split
      · split
        · exact ⟨start, fun _ => rfl⟩
        · exact ⟨newline :: start, fun _ => rfl⟩
      · exact ⟨byte :: start, fun _ => rfl⟩

theorem HasLine.read (has : HasLine line data) (bare : carriageReturn ∉ line) :
    HasLine line (universalNewlines data) := by
  obtain ⟨front, back, rfl, rfl | ⟨initial, rfl⟩⟩ := has
  · exact ⟨[], universalNewlines back, universalNewlines_line bare back, Or.inl rfl⟩
  · obtain ⟨start, same⟩ := universalNewlines_split initial
    have kept := universalNewlines_line bare back
    refine ⟨start ++ [newline], universalNewlines back, ?_, Or.inr ⟨start, rfl⟩⟩
    simp only [List.append_assoc, List.cons_append, List.nil_append] at kept ⊢
    rw [same, kept]

end Lines

/-- One of the files has the line. -/
def Holds (line : Bytes) (files : LogFiles) : Prop :=
  HasLine line files.content ∨
    ∃ stem data, files.archives.get? stem = some data ∧ HasLine line data

section Kept

variable {validUtf8 : Bytes → Bool} {line : Bytes} {files after : LogFiles} {clock : Clock}
  {archives moved : Dict String Bytes} {active : ActiveFile}

/-- The line is kept when the active file, or what is joined from it, is a new archive. -/
theorem Holds.insert {stem : String} {text : Bytes} (holds : Holds line ⟨some active, archives⟩)
    (current : HasLine line active.content → HasLine line text)
    (replaced : ∀ data, archives.get? stem = some data → HasLine line data → HasLine line text)
    (left : Option ActiveFile) : Holds line ⟨left, archives.insert stem text⟩ := by
  rcases holds with has | ⟨other, data, found, has⟩
  · exact Or.inr ⟨stem, text, Dict.get?_insert_self _ _ _, current has⟩
  · by_cases same : other = stem
    · exact Or.inr ⟨stem, text, Dict.get?_insert_self _ _ _, replaced data (same ▸ found) has⟩
    · exact Or.inr ⟨other, data, by rwa [Dict.get?_insert_ne _ _ same], has⟩

theorem Holds.joined {old text : Bytes} (holds : Holds line ⟨some active, archives⟩)
    (bare : carriageReturn ∉ line) (present : archives.get? active.mtimeDay = some old)
    (joined : joinedText? validUtf8 old active.content = some text) (left : Option ActiveFile) :
    Holds line ⟨left, archives.insert active.mtimeDay text⟩ := by
  unfold joinedText? at joined
  split at joined
  · rw [← Option.some.inj joined]
    refine holds.insert (fun has => (has.read bare).behind _) (fun data found has => ?_) left
    rw [present] at found
    exact (((Option.some.inj found) ▸ has.read bare).append _).append _
  · cases joined

theorem Holds.archived (holds : Holds line ⟨some active, archives⟩)
    (bare : carriageReturn ∉ line)
    (archived : archiveText? validUtf8 archives active = some moved) :
    Holds line ⟨none, moved⟩ := by
  unfold archiveText? at archived
  split at archived
  · rename_i absent
    rw [← Option.some.inj archived]
    refine holds.insert id (fun data found => ?_) none
    rw [absent] at found
    cases found
  · obtain ⟨text, joined, rfl⟩ := Option.map_eq_some_iff.mp archived
    exact holds.joined bare ‹_› joined none

theorem Holds.rotated (holds : Holds line files) (bare : carriageReturn ∉ line)
    (moved : rotateText? validUtf8 clock files = some after) : Holds line after := by
  obtain ⟨_ | active, archives⟩ := files
  · cases moved
    exact holds
  unfold rotateText? at moved
  dsimp only at moved
  split at moved
  · rw [← Option.some.inj moved, rotateBySizeIfNeeded]
    cases sizeLimit clock.maxActiveBytes with
    | none => exact holds
    | some limit =>
        dsimp only
        split
        · exact holds
        · refine holds.insert id (fun data found => ?_) none
          have free := (freeOrdinal_spec archives active.mtimeDay).1
          rw [Dict.contains, found] at free
          cases free
  · obtain ⟨archives, archived, rfl⟩ := Option.map_eq_some_iff.mp moved
    exact holds.archived bare archived

theorem Holds.cutJoin (holds : Holds line files) (bare : carriageReturn ∉ line)
    (joined : cutJoin? validUtf8 clock none files = some after) : Holds line after := by
  obtain ⟨active, present, joined⟩ := Option.bind_eq_some_iff.mp joined
  split at joined
  · cases joined
  · obtain ⟨old, found, written⟩ := Option.bind_eq_some_iff.mp joined
    obtain ⟨text, whole, rfl⟩ := Option.map_eq_some_iff.mp written
    obtain ⟨_ | _, archives⟩ := files <;> cases present
    rw [cutAt, Option.getD_none, List.take_length]
    exact holds.joined bare found whole _

theorem Holds.step {write : Write} (holds : Holds line files) (bare : carriageReturn ∉ line)
    (whole : ¬ write.Cuts) : Holds line (writeStep validUtf8 files write) := by
  cases write with
  | bytes clock writtenDay bytes =>
      rw [writeStep, appendBytes?]
      cases moved : rotateText? validUtf8 clock files with
      | none => exact holds
      | some rotated => exact (holds.rotated bare moved).imp (HasLine.append · bytes) id
  | rotation clock =>
      rw [writeStep]
      cases moved : rotateText? validUtf8 clock files with
      | none => exact holds
      | some rotated => exact holds.rotated bare moved
  | cutJoin clock size =>
      cases size with
      | some size => exact absurd trivial whole
      | none =>
          rw [writeStep]
          cases joined : cutJoin? validUtf8 clock none files with
          | none => exact holds
          | some written => exact holds.cutJoin bare joined

/-- No such write takes the line away. -/
theorem Holds.run (holds : Holds line files) (bare : carriageReturn ∉ line) {later : List Write}
    (whole : ∀ write ∈ later, ¬ write.Cuts) :
    Holds line (Runs.run (writeStep validUtf8) files later) := by
  induction later generalizing files with
  | nil => exact holds
  | cons write later ih =>
      obtain ⟨first, rest⟩ := List.forall_mem_cons.mp whole
      exact ih (holds.step bare first) rest

end Kept

theorem mem_parseFile {codec : Codec ε} {line data : Bytes} {event : ε} (has : HasLine line data)
    (clean : newline ∉ line) (read : codec.readLine line = some event) :
    event ∈ (parseFile codec data).1 := by
  obtain ⟨front, back, rfl, ended⟩ := has
  rw [parseFile, if_neg (not_not_intro (List.mem_append_right _ List.mem_cons_self))]
  refine List.mem_filterMap.mpr ⟨line, ?_, read⟩
  have shape : front ++ line ++ newline :: back = (front ++ line ++ [newline]) ++ back := by simp
  rw [shape, Lines.complete_append_append (Or.inr ⟨front ++ line, rfl⟩), List.append_assoc,
    List.singleton_append]
  exact Lines.mem_splitOn ended clean _

theorem Holds.mem_readAll {codec : Codec ε} {line : Bytes} {event : ε} {files : LogFiles}
    (holds : Holds line files) (clean : newline ∉ line)
    (read : codec.readLine line = some event) : event ∈ readAll codec files := by
  rcases holds with has | ⟨stem, data, found, has⟩
  · exact List.mem_append_right _ (mem_parseFile has clean read)
  · refine List.mem_append_left _ (List.mem_flatMap.mpr ⟨(stem, data), ?_, ?_⟩)
    · rw [listArchives, Sorting.mem_sortedBy]
      exact (files.archives.get?_eq_some_iff stem data).mp found
    · exact mem_parseFile has clean read

/-- What is in the active file before the line is written. -/
def leftOver (clock : Clock) (files : LogFiles) : Bytes :=
  if Rotates clock files then [] else files.content

/-- The bytes behind the last newline. -/
def tornTail (data : Bytes) : Bytes := data.drop (Lines.complete newline data).length

theorem complete_tornTail (data : Bytes) :
    Lines.complete newline data ++ tornTail data = data ∧ newline ∉ tornTail data := by
  obtain ⟨tail, shape, clean⟩ := Lines.complete_spec newline data
  have rest := congrArg (List.drop (Lines.complete newline data).length) shape
  rw [List.drop_left] at rest
  rw [tornTail, rest]
  exact ⟨shape.symm, clean⟩

theorem content_of_append {validUtf8 : Bytes → Bool} {clock : Clock} {day : String}
    {bytes : Bytes} {files written : LogFiles}
    (appended : appendBytes? validUtf8 clock day bytes files = some written) :
    written.content = leftOver clock files ++ bytes := by
  obtain ⟨rotated, moved, rfl⟩ := Option.map_eq_some_iff.mp appended
  refine congrArg (· ++ bytes) (show rotated.content = _ from ?_)
  have total := rotated_content clock files
  rw [leftOver, ← total]
  unfold rotateText? at moved
  obtain ⟨_ | active, archives⟩ := files
  · cases moved
    rw [total, LogFiles.content, ite_self]
  dsimp only at moved
  split at moved
  · rename_i today
    have stays : rotateIfNeeded clock.today ⟨some active, archives⟩ = ⟨some active, archives⟩ :=
      if_pos today
    rw [stays, ← Option.some.inj moved]
  · rename_i other
    obtain ⟨_, _, rfl⟩ := Option.map_eq_some_iff.mp moved
    rw [total, if_pos ⟨active, rfl, Or.inl other⟩]
    rfl

/-- The event's line is read as the event, also behind what is left of a torn line. -/
structure Undamaged (codec : Codec ε) (clock : Clock) (event : ε) (files : LogFiles) : Prop where
  own : codec.delivered event = some event
  behind : codec.readLine (tornTail (leftOver clock files) ++ codec.encode event) = some event
  bare : carriageReturn ∉ tornTail (leftOver clock files) ++ codec.encode event

/-- The file that was appended to is still the active one; and if it was new then, the old one
was empty or is longer. -/
def InReach (clock : Clock) (before after reached : LogFiles) : Prop :=
  after.content <+: reached.content ∧ (Rotates clock before →
    currentOffset before = 0 ∨ currentOffset reached < currentOffset before)

theorem effectiveOffset_reached {clock : Clock} {before after reached : LogFiles} {line : Bytes}
    (content : after.content = leftOver clock before ++ line)
    (reach : InReach clock before after reached) :
    effectiveOffset (currentOffset before) reached = (leftOver clock before).length := by
  have grown := reach.1.length_le
  rw [content, List.length_append] at grown
  have moved := reach.2
  rw [effectiveOffset]
  unfold leftOver at grown ⊢
  split at grown
  · rename_i rotates
    rw [if_pos rotates, List.length_nil]
    have either := moved rotates
    split <;> omega
  · rename_i stays
    rw [if_neg stays]
    exact if_pos ((Nat.le_add_right _ _).trans grown)

/-- An appended event survives whatever writers do later, if no torn tail damages it and no
writer dies while it writes a joined text. -/
theorem append_survives {validUtf8 : Bytes → Bool} {codec : Codec ε} (lawful : codec.Lawful)
    {call : AppendCall ε} {before after : LogFiles}
    (appended : appendText? validUtf8 codec call before = some after)
    (undamaged : Undamaged codec call.clock call.event before) {later : List Write}
    (whole : ∀ write ∈ later, ¬ write.Cuts) :
    call.event ∈ readAll codec (Runs.run (writeStep validUtf8) after later) ∧
      (InReach call.clock before after (Runs.run (writeStep validUtf8) after later) →
        call.event ∈ (readFromOffset codec (currentOffset before)
          (Runs.run (writeStep validUtf8) after later)).1) := by
  obtain ⟨own, behind, bare⟩ := undamaged
  have content := content_of_append appended
  have clean := lawful.noNewline call.event
  obtain ⟨shape, torn⟩ := complete_tornTail (leftOver call.clock before)
  constructor
  · have holds : Holds (tornTail (leftOver call.clock before) ++ codec.encode call.event) after := by
      refine Or.inl ⟨Lines.complete newline (leftOver call.clock before), [], ?_,
        Lines.complete_ends newline _⟩
      rw [content, ← List.append_assoc, ← List.append_assoc, shape]
    refine (holds.run bare whole).mem_readAll ?_ behind
    rw [List.mem_append, not_or]
    exact ⟨torn, clean⟩
  · intro reach
    obtain ⟨more, grown⟩ := reach.1
    have rest : (Runs.run (writeStep validUtf8) after later).content.drop
        (leftOver call.clock before).length = codec.encode call.event ++ newline :: more := by
      rw [← grown, content, List.append_assoc, List.drop_left, List.append_assoc]
      rfl
    have read := mem_parseFile ⟨[], more, rest, Or.inl rfl⟩ clean own
    rw [readFromOffset_eq, effectiveOffset_reached content reach]
    unfold parseFile at read
    split at read
    · cases read
    · rwa [if_neg ‹_›]

/-- Lines are read when they are JSON objects. -/
def objectCodec : Codec PlainLine :=
  { plainCodec with
    decode := fun line =>
      match JsonText.loads (fun _ => .null) line.toList with
      | some (.obj _) => plainCodec.decode line
      | _ => none }

theorem objectCodec_lawful : objectCodec.Lawful :=
  ⟨plainCodec_lawful.noNewline, plainCodec_lawful.decodeUtf8_nil⟩

def passedLine : PlainLine := ⟨"\x7b\"type\":\"b\"\x7d".toList, by decide⟩

/-- The first bytes of the line of another event. -/
def cutLine : Bytes :=
  "\x7b\"type\":\"a\",\"payload".toList.map fun char => UInt8.ofNat char.toNat

def cutFile : LogFiles := ⟨some ⟨cutLine, "2026-01-01"⟩, Dict.empty⟩

def nextDayCall : AppendCall PlainLine := ⟨⟨"2026-01-02", ""⟩, "2026-01-01", passedLine⟩

/-- On the next day the line starts a new file.  The clock was set back before it was written, so
that the two files are joined when a third one is torn. -/
theorem survives_join : ∃ after,
    appendText? (fun _ => true) objectCodec nextDayCall cutFile = some after ∧
      passedLine ∈ readAll objectCodec (Runs.run (writeStep fun _ => true) after
        [.bytes ⟨"2026-01-03", ""⟩ "2026-01-03" cutLine]) ∧
      passedLine ∈ (readFromOffset objectCodec (currentOffset cutFile) after).1 := by
  have undamaged : Undamaged objectCodec nextDayCall.clock nextDayCall.event cutFile :=
    ⟨by decide +kernel, by decide +kernel, by decide +kernel⟩
  refine ⟨_, rfl, ?_⟩
  have survives (later : List Write) := @append_survives _ (fun _ => true) _ objectCodec_lawful
    nextDayCall cutFile _ rfl undamaged later
  refine ⟨(survives _ (List.forall_mem_singleton.mpr id)).1,
    (survives [] (List.forall_mem_nil _)).2 ⟨List.prefix_rfl, fun _ => Or.inr ?_⟩⟩
  decide +kernel

/-- On the same day the line is written behind the bytes, and a read of the whole log does not
return the event. -/
theorem lost_behind_cut_line : ∃ after, appendText? (fun _ => true) objectCodec
      ⟨⟨"2026-01-01", ""⟩, "2026-01-01", passedLine⟩ cutFile = some after ∧
    passedLine ∉ readAll objectCodec after :=
  ⟨_, rfl, by decide +kernel⟩

end ZaofuFormal.Events.TornWrites
