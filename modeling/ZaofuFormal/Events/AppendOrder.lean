import ZaofuFormal.Events.ArchiveNames

/-!
# The order of a whole read

Under a clock that does not go back, the archives are created in the order of
their names and every archive holds what was appended after the archives before
it, so that a whole read returns the events in the order of their appends.  This
ends with the ten thousandth segment of a day.
-/

namespace ZaofuFormal.Events

open Foundation

variable {ε : Type} {codec : Codec ε}

/-- The archives hold these batches of events, in the order of their names. -/
structure Archived (codec : Codec ε) (archives : Dict String Bytes)
    (stored : List (Stem × List ε)) : Prop where
  entries : archives.entries = stored.map fun entry => (entry.1.text, codec.lines entry.2)
  ordered : stored.Pairwise fun first second => first.1.Before second.1
  fits : ∀ entry ∈ stored, entry.1.Fits
  dense : ∀ day ordinal, Stem.segment day ordinal ∈ stored.map Prod.fst →
    ∀ lower, 1 ≤ lower → lower < ordinal → archives.contains (sizeArchive day lower) = true

def batches (stored : List (Stem × List ε)) : List ε := stored.flatMap Prod.snd

variable {archives : Dict String Bytes} {day : String}

theorem Archived.mem_contains {stored : List (Stem × List ε)}
    (archived : Archived codec archives stored) {entry : Stem × List ε} (member : entry ∈ stored) :
    archives.contains entry.1.text = true := by
  rw [Dict.contains_iff_mem_keys, Dict.keys, archived.entries, List.map_map]
  exact List.mem_map.mpr ⟨entry, member, rfl⟩

/-- Names that are not in use are added at the end. -/
theorem Archived.insert_new {stored : List (Stem × List ε)}
    (archived : Archived codec archives stored) (stem : Stem) (batch : List ε)
    (unused : archives.contains stem.text = false) (fits : stem.Fits)
    (last : ∀ entry ∈ stored, entry.1.Before stem)
    (dense : ∀ day ordinal, stem = .segment day ordinal → ∀ lower, 1 ≤ lower →
      lower < ordinal → archives.contains (sizeArchive day lower) = true) :
    Archived codec (archives.insert stem.text (codec.lines batch))
      (stored ++ [(stem, batch)]) where
  entries := by
    have absent : stem.text ∉ archives.keys := by
      rw [← Dict.contains_iff_mem_keys, unused]
      exact Bool.false_ne_true
    change Dict.put _ _ archives.entries = _
    rw [Dict.put_of_notMem absent, archived.entries, List.map_append]
    rfl
  ordered := by
    refine List.pairwise_append.mpr ⟨archived.ordered, List.pairwise_singleton _ _, ?_⟩
    intro entry member other single
    rw [List.mem_singleton.mp single]
    exact last entry member
  fits := by
    intro entry member
    rcases List.mem_append.mp member with old | single
    · exact archived.fits entry old
    · rw [List.mem_singleton.mp single]
      exact fits
  dense := by
    intro day ordinal member lower positive below
    have before : archives.contains (sizeArchive day lower) = true := by
      rw [List.map_append, List.mem_append] at member
      rcases member with old | single
      · exact archived.dense day ordinal old lower positive below
      · exact dense day ordinal (List.mem_singleton.mp single).symm lower positive below
    rw [Dict.contains_iff_mem_keys] at before ⊢
    exact (Dict.mem_keys_put _ _ _ _).mpr (Or.inr before)

/-- The last archive can be written anew. -/
theorem Archived.insert_last {stored : List (Stem × List ε)}
    (stem : Stem) {old : List ε} (archived : Archived codec archives (stored ++ [(stem, old)]))
    (batch : List ε) :
    Archived codec (archives.insert stem.text (codec.lines batch))
      (stored ++ [(stem, batch)]) where
  entries := by
    have distinct := archives.nodupKeys
    rw [archived.entries, List.map_append, List.map_append, List.nodup_append] at distinct
    have absent : stem.text ∉ (stored.map fun entry =>
        (entry.1.text, codec.lines entry.2)).map Prod.fst := by
      intro member
      exact distinct.2.2 _ member _ (List.mem_singleton_self _) rfl
    change Dict.put _ _ archives.entries = _
    rw [archived.entries, List.map_append, List.map_singleton, Dict.put_concat absent,
      List.map_append]
    rfl
  ordered := by
    have ordered := List.pairwise_append.mp archived.ordered
    refine List.pairwise_append.mpr ⟨ordered.1, List.pairwise_singleton _ _, ?_⟩
    intro entry member other single
    rw [List.mem_singleton.mp single]
    exact ordered.2.2 entry member (stem, old) (List.mem_singleton_self _)
  fits := by
    intro entry member
    rcases List.mem_append.mp member with kept | single
    · exact archived.fits entry (List.mem_append_left _ kept)
    · rw [List.mem_singleton.mp single]
      exact archived.fits (stem, old) (List.mem_append_right _ (List.mem_singleton_self _))
  dense := by
    intro day ordinal member lower positive below
    have before := archived.dense day ordinal (by simpa using member) lower positive below
    rw [Dict.contains_iff_mem_keys] at before ⊢
    exact (Dict.mem_keys_put _ _ _ _).mpr (Or.inr before)

theorem Archived.listArchives_eq {active : Option ActiveFile}
    {stored : List (Stem × List ε)} (archived : Archived codec archives stored) :
    listArchives ⟨active, archives⟩ =
      stored.map fun entry => (entry.1.text, codec.lines entry.2) := by
  have sorted : archives.entries.Pairwise fun first second =>
      archiveName first.1 ≤ archiveName second.1 := by
    rw [archived.entries, List.pairwise_map]
    refine archived.ordered.imp_of_mem ?_
    intro first second firstMember secondMember before
    exact le_of_lt (Stem.archiveName_lt (archived.fits first firstMember)
      (archived.fits second secondMember) before)
  rw [listArchives, Sorting.sortedBy, sorted.insertionSort_eq, archived.entries]

/-- A read returns the batches in order, and then the active file. -/
theorem Archived.readAll_eq (lawful : codec.Lawful) {active : Option ActiveFile}
    {stored : List (Stem × List ε)}
    (archived : Archived codec archives stored) {current : List ε}
    (content : LogFiles.content ⟨active, archives⟩ = codec.lines current) :
    readAll codec ⟨active, archives⟩ = (batches stored ++ current).filterMap codec.delivered := by
  have parsed : ∀ entry : Stem × List ε,
      (parseFile codec (codec.lines entry.2)).1 = entry.2.filterMap codec.delivered :=
    fun entry => congrArg Prod.fst (parseFile_lines lawful entry.2)
  rw [readAll, archived.listArchives_eq, content, parseFile_lines lawful, List.filterMap_append,
    List.flatMap_map, List.flatMap_congr fun entry _ => parsed entry, batches,
    List.filterMap_flatMap]

theorem Stem.length_text_segment (day : String) (ordinal : Nat) :
    day.length < (Stem.segment day ordinal).text.length := by
  rw [text, sizeArchive, String.length_append, String.length_append]
  have dash : "-".length = 1 := rfl
  omega

theorem Archived.eq_wholeDay {stored : List (Stem × List ε)}
    (archived : Archived codec archives stored) {old : Bytes}
    (width : day.length = 10) (found : archives.get? day = some old) :
    ∃ batch, (Stem.wholeDay day, batch) ∈ stored ∧ old = codec.lines batch := by
  rw [Dict.get?_eq_some_iff, archived.entries] at found
  obtain ⟨⟨stem, batch⟩, member, same⟩ := List.mem_map.mp found
  obtain ⟨text, content⟩ := Prod.mk.inj same
  refine ⟨batch, ?_, content.symm⟩
  have fits := archived.fits _ member
  cases stem with
  | segment other ordinal =>
      have longer := Stem.length_text_segment other ordinal
      rw [text, width, fits.1] at longer
      exact absurd longer (Nat.lt_irrefl 10)
  | wholeDay other =>
      change other = day at text
      exact text ▸ member

/-- An archive of events needs no separator before what is added to it. -/
theorem archiveByDay_lines (archives : Dict String Bytes) {active : ActiveFile}
    {old current : List ε} (found : archives.get? active.mtimeDay = some (codec.lines old))
    (content : active.content = codec.lines current) :
    archiveByDay archives active =
      archives.insert active.mtimeDay (codec.lines (old ++ current)) := by
  have ended : ¬(codec.lines old ≠ [] ∧ (codec.lines old).getLast? ≠ some newline) := by
    rintro ⟨nonempty, unended⟩
    rw [ne_eq, Codec.lines_eq_nil_iff] at nonempty
    have lines : old.map codec.encode ≠ [] := by simpa using nonempty
    obtain ⟨data, ends⟩ := Lines.unlines_eq_append_separator newline lines
    apply unended
    rw [Codec.lines, ends, List.getLast?_concat]
  simp only [archiveByDay, found]
  rw [if_neg ended, List.append_nil, content, ← Codec.lines_append]

/-- The archive of a day that no archive is behind is the last one. -/
theorem Archived.addDay {stored : List (Stem × List ε)}
    (archived : Archived codec archives stored) {active : ActiveFile} {current : List ε}
    (content : active.content = codec.lines current) (width : active.mtimeDay.length = 10)
    (upTo : ∀ entry ∈ stored, entry.1.day ≤ active.mtimeDay) :
    ∃ later, Archived codec (archiveByDay archives active) later ∧
      batches later = batches stored ++ current ∧
      ∀ entry ∈ later, entry.1 ∈ stored.map Prod.fst ∨ entry.1 = .wholeDay active.mtimeDay := by
  cases found : archives.get? active.mtimeDay with
  | none =>
      have unused : archives.contains (Stem.wholeDay active.mtimeDay).text = false := by
        rw [Stem.text, Dict.contains, found]
        rfl
      have last : ∀ entry ∈ stored, entry.1.Before (.wholeDay active.mtimeDay) := by
        intro entry member
        rcases eq_or_lt_of_le (upTo entry member) with same | earlier
        · cases shape : entry.1 with
          | segment day ordinal =>
              rw [shape] at same
              exact le_of_eq same
          | wholeDay day =>
              rw [shape] at same
              have taken := archived.mem_contains member
              rw [shape, show Stem.wholeDay day = .wholeDay active.mtimeDay from congrArg _ same,
                unused] at taken
              exact absurd taken Bool.false_ne_true
        · exact Stem.before_of_day_lt earlier
      have added : archiveByDay archives active =
          archives.insert (Stem.wholeDay active.mtimeDay).text (codec.lines current) := by
        simp only [archiveByDay, found]
        rw [content]
        rfl
      refine ⟨stored ++ [(.wholeDay active.mtimeDay, current)], ?_, ?_, ?_⟩
      · rw [added]
        exact archived.insert_new _ current unused width last fun _ _ impossible => by
          cases impossible
      · simp [batches]
      · intro entry member
        rcases List.mem_append.mp member with old | single
        · exact Or.inl (List.mem_map_of_mem old)
        · rw [List.mem_singleton.mp single]
          exact Or.inr rfl
  | some old =>
      obtain ⟨batch, member, rfl⟩ := archived.eq_wholeDay width found
      obtain ⟨before, after, rfl⟩ := List.append_of_mem member
      have none : after = [] := by
        by_contra nonempty
        obtain ⟨entry, rest, rfl⟩ := List.exists_cons_of_ne_nil nonempty
        have behind := (List.pairwise_append.mp archived.ordered).2.1
        have later := (List.pairwise_cons.mp behind).1 entry List.mem_cons_self
        have reached := upTo entry (by simp)
        refine absurd reached (not_le_of_gt ?_)
        cases shape : entry.1 with
        | segment day ordinal =>
            rw [shape] at later
            exact later
        | wholeDay day =>
            rw [shape] at later
            exact later
      subst none
      rw [archiveByDay_lines archives found content]
      refine ⟨before ++ [(Stem.wholeDay active.mtimeDay, batch ++ current)], ?_, ?_, ?_⟩
      · exact archived.insert_last (.wholeDay active.mtimeDay) (batch ++ current)
      · simp [batches]
      · intro entry present
        rcases List.mem_append.mp present with kept | single
        · exact Or.inl (List.mem_map_of_mem (List.mem_append_left _ kept))
        · rw [List.mem_singleton.mp single]
          exact Or.inr rfl

/-- The next segment of a day that is not over is the last archive. -/
theorem Archived.addSegment {stored : List (Stem × List ε)}
    (archived : Archived codec archives stored) (width : day.length = 10)
    (current : List ε) (upTo : ∀ entry ∈ stored, entry.1.day ≤ day)
    (unfinished : Stem.wholeDay day ∉ stored.map Prod.fst)
    (room : freeOrdinal archives day ≤ 9999) :
    Archived codec
      (archives.insert (sizeArchive day (freeOrdinal archives day)) (codec.lines current))
      (stored ++ [(.segment day (freeOrdinal archives day), current)]) := by
  obtain ⟨unused, _, lower⟩ := freeOrdinal_spec archives day
  refine archived.insert_new (.segment day (freeOrdinal archives day)) current unused
    ⟨width, room⟩ ?_ ?_
  · intro entry member
    rcases eq_or_lt_of_le (upTo entry member) with same | earlier
    · cases shape : entry.1 with
      | segment other ordinal =>
          rw [shape] at same
          change other = day at same
          subst same
          have listed : Stem.segment other ordinal ∈ stored.map Prod.fst :=
            shape ▸ List.mem_map_of_mem member
          refine Or.inr ⟨rfl, lt_of_not_ge fun above => ?_⟩
          have taken : archives.contains (sizeArchive other (freeOrdinal archives other)) = true := by
            rcases eq_or_lt_of_le above with top | below
            · have held := archived.mem_contains member
              rw [shape, Stem.text, ← top] at held
              exact held
            · exact archived.dense other ordinal listed _ (freeOrdinal_spec archives other).2.1 below
          rw [unused] at taken
          exact absurd taken Bool.false_ne_true
      | wholeDay other =>
          rw [shape] at same
          change other = day at same
          exact absurd (same ▸ shape ▸ List.mem_map_of_mem member) unfinished
    · exact Stem.before_of_day_lt earlier
  · intro other ordinal same number positive below
    obtain ⟨rfl, rfl⟩ := Stem.segment.inj same
    exact lower number positive below

/-- The files hold the appended events in order. -/
structure InOrder (codec : Codec ε) (appends : List (AppendCall ε)) (files : LogFiles)
    (stored : List (Stem × List ε)) (current : List ε) : Prop where
  archived : Archived codec files.archives stored
  content : files.content = codec.lines current
  events : batches stored ++ current = appends.map AppendCall.event
  upTo : ∀ active ∈ files.active, ∀ entry ∈ stored, entry.1.day ≤ active.mtimeDay
  written : ∀ active ∈ files.active, ∃ call ∈ appends, active.mtimeDay = call.writtenDay
  passed : ∀ day, Stem.wholeDay day ∈ stored.map Prod.fst →
    ∃ call ∈ appends, day < call.clock.today
  absent : files.active = none → stored = []

theorem inOrder_empty (codec : Codec ε) : InOrder codec [] LogFiles.empty [] [] where
  archived := ⟨rfl, List.Pairwise.nil, by simp, by simp⟩
  content := rfl
  events := rfl
  upTo := by simp
  written := by simp [LogFiles.empty]
  passed := by simp
  absent := fun _ => rfl

/-- The call comes after the appends: its clock has not gone back. -/
def After (appends : List (AppendCall ε)) (call : AppendCall ε) : Prop :=
  ∀ earlier ∈ appends, earlier.clock.today ≤ call.clock.today ∧
    earlier.writtenDay ≤ call.writtenDay ∧ earlier.writtenDay ≤ call.clock.today

/-- What a rotation leaves to the write that follows it. -/
structure Rotated (codec : Codec ε) (appends : List (AppendCall ε)) (call : AppendCall ε)
    (files : LogFiles) (stored : List (Stem × List ε)) (current : List ε) : Prop where
  archived : Archived codec files.archives stored
  content : files.content = codec.lines current
  events : batches stored ++ current = appends.map AppendCall.event
  upTo : ∀ entry ∈ stored, entry.1.day ≤ call.writtenDay
  passed : ∀ day, Stem.wholeDay day ∈ stored.map Prod.fst →
    ∃ other ∈ appends ++ [call], day < other.clock.today

theorem Rotated.write {appends : List (AppendCall ε)} {call : AppendCall ε} {files : LogFiles}
    {stored : List (Stem × List ε)} {current : List ε}
    (rotated : Rotated codec appends call files stored current) :
    InOrder codec (appends ++ [call])
      { files with active := some {
          content := files.content ++ codec.encode call.event ++ [newline]
          mtimeDay := call.writtenDay } } stored (current ++ [call.event]) where
  archived := rotated.archived
  content := by
    rw [Codec.lines_append, ← rotated.content, LogFiles.content, List.append_assoc]
    simp [Codec.lines, Lines.unlines]
  events := by
    rw [← List.append_assoc, rotated.events, List.map_append]
    rfl
  upTo := by
    rintro active ⟨rfl⟩
    exact rotated.upTo
  written := by
    rintro active ⟨rfl⟩
    exact ⟨call, List.mem_append_right _ (List.mem_singleton_self call), rfl⟩
  passed := rotated.passed
  absent := fun impossible => by cases impossible

section Step

variable {appends : List (AppendCall ε)} {files : LogFiles} {stored : List (Stem × List ε)}
  {current : List ε} {call : AppendCall ε}

theorem InOrder.day_le (inOrder : InOrder codec appends files stored current)
    (after : After appends call) : ∀ entry ∈ stored, entry.1.day ≤ call.writtenDay := by
  intro entry member
  cases state : files.active with
  | none =>
      rw [inOrder.absent state] at member
      exact absurd member List.not_mem_nil
  | some active =>
      obtain ⟨earlier, present, same⟩ := inOrder.written active state
      have reached := inOrder.upTo active state entry member
      rw [same] at reached
      exact le_trans reached (after earlier present).2.1

theorem InOrder.passed_later (inOrder : InOrder codec appends files stored current)
    {day : String} (member : Stem.wholeDay day ∈ stored.map Prod.fst) :
    ∃ other ∈ appends ++ [call], day < other.clock.today := by
  obtain ⟨earlier, present, before⟩ := inOrder.passed day member
  exact ⟨earlier, List.mem_append_left _ present, before⟩

theorem InOrder.rotateByDay (inOrder : InOrder codec appends files stored current)
    (days : ∀ earlier ∈ appends, earlier.writtenDay.length = 10) (after : After appends call)
    {active : ActiveFile} (state : files.active = some active)
    (anotherDay : active.mtimeDay ≠ call.clock.today) :
    ∃ later, Rotated codec appends call ⟨none, archiveByDay files.archives active⟩ later [] := by
  obtain ⟨earlier, present, same⟩ := inOrder.written active state
  have content : active.content = codec.lines current := by
    rw [← inOrder.content, LogFiles.content, state]
  have width : active.mtimeDay.length = 10 := same ▸ days earlier present
  have past : active.mtimeDay < call.clock.today :=
    lt_of_le_of_ne (same ▸ (after earlier present).2.2) anotherDay
  obtain ⟨later, archived, events, stems⟩ :=
    inOrder.archived.addDay content width (inOrder.upTo active state)
  refine ⟨later, archived, rfl, ?_, ?_, ?_⟩
  · rw [events, List.append_nil, inOrder.events]
  · intro entry member
    rcases stems entry member with old | new
    · obtain ⟨kept, keptMember, stem⟩ := List.mem_map.mp old
      exact stem ▸ inOrder.day_le after kept keptMember
    · rw [new]
      exact same ▸ (after earlier present).2.1
  · intro day member
    obtain ⟨entry, entryMember, stem⟩ := List.mem_map.mp member
    rcases stems entry entryMember with old | new
    · exact inOrder.passed_later (stem ▸ old)
    · refine ⟨call, List.mem_append_right _ (List.mem_singleton_self call), ?_⟩
      rw [Stem.wholeDay.inj (stem.symm.trans new)]
      exact past

theorem InOrder.rotateBySize (inOrder : InOrder codec appends files stored current)
    (days : ∀ earlier ∈ appends, earlier.writtenDay.length = 10) (after : After appends call)
    {active : ActiveFile} (state : files.active = some active)
    (sameDay : active.mtimeDay = call.clock.today)
    (room : freeOrdinal files.archives active.mtimeDay ≤ 9999) :
    ∃ later, Rotated codec appends call ⟨none, files.archives.insert
      (sizeArchive active.mtimeDay (freeOrdinal files.archives active.mtimeDay))
      active.content⟩ later [] := by
  obtain ⟨earlier, present, same⟩ := inOrder.written active state
  have content : active.content = codec.lines current := by
    rw [← inOrder.content, LogFiles.content, state]
  have width : active.mtimeDay.length = 10 := same ▸ days earlier present
  have unfinished : Stem.wholeDay active.mtimeDay ∉ stored.map Prod.fst := by
    intro member
    obtain ⟨other, otherPresent, before⟩ := inOrder.passed _ member
    have bounded := (after other otherPresent).1
    rw [← sameDay] at bounded
    exact absurd before (not_lt_of_ge bounded)
  have archived := inOrder.archived.addSegment width current (inOrder.upTo active state)
    unfinished room
  rw [content]
  refine ⟨_, archived, rfl, ?_, ?_, ?_⟩
  · rw [← inOrder.events]
    simp [batches]
  · intro entry member
    rcases List.mem_append.mp member with old | single
    · exact inOrder.day_le after entry old
    · rw [List.mem_singleton.mp single]
      exact same ▸ (after earlier present).2.1
  · intro day member
    rw [List.map_append, List.mem_append] at member
    rcases member with old | single
    · exact inOrder.passed_later old
    · exact absurd (List.mem_singleton.mp single) (by simp)

theorem InOrder.step (inOrder : InOrder codec appends files stored current)
    (days : ∀ earlier ∈ appends, earlier.writtenDay.length = 10) (after : After appends call)
    (left : NumberLeft files call) :
    ∃ later rest, InOrder codec (appends ++ [call]) (appendStep codec files call) later rest := by
  suffices rotated : ∃ later rest, Rotated codec appends call (rotate call.clock files) later rest by
    obtain ⟨later, rest, rotated⟩ := rotated
    exact ⟨later, rest ++ [call.event], rotated.write⟩
  rcases rotate_cases call.clock files with stays | ⟨active, state, anotherDay, moved⟩ |
    ⟨active, state, sameDay, outgrown, moved⟩
  · rw [stays]
    exact ⟨stored, current, inOrder.archived, inOrder.content, inOrder.events,
      inOrder.day_le after, fun _ => inOrder.passed_later⟩
  · rw [moved]
    obtain ⟨later, rotated⟩ := inOrder.rotateByDay days after state anotherDay
    exact ⟨later, [], rotated⟩
  · obtain ⟨ordinal, positive, small, free⟩ := left active state sameDay outgrown
    have room := Nat.le_trans (freeOrdinal_le positive free) small
    rw [moved]
    obtain ⟨later, rotated⟩ := inOrder.rotateBySize days after state sameDay room
    exact ⟨later, [], rotated⟩

end Step

theorem inOrder_filesAfter {appends : List (AppendCall ε)}
    (days : ∀ call ∈ appends, call.writtenDay.length = 10) (clock : NonDecreasing appends)
    (left : Runs.Along (appendStep codec) NumberLeft LogFiles.empty appends) :
    ∃ stored current, InOrder codec appends (filesAfter codec appends) stored current := by
  induction appends using List.reverseRecOn with
  | nil => exact ⟨[], [], inOrder_empty codec⟩
  | append_singleton earlier call ih =>
      have clocks := List.pairwise_append.mp clock
      obtain ⟨stored, current, inOrder⟩ :=
        ih (fun other member => days other (List.mem_append_left _ member)) clocks.1 left.initial
      have here := ((Runs.along_append _ _ _).mp left).2.1
      rw [filesAfter, Runs.run_append]
      refine inOrder.step (fun other member => days other (List.mem_append_left _ member)) ?_ here
      intro other member
      exact clocks.2.2 other member call (List.mem_singleton_self call)

/-- The events of a whole read are the appended events, in the order of their
appends, while every cut by size finds a number of four digits. -/
theorem readAll_appends (lawful : codec.Lawful) {appends : List (AppendCall ε)}
    (days : ∀ call ∈ appends, call.writtenDay.length = 10) (clock : NonDecreasing appends)
    (left : Runs.Along (appendStep codec) NumberLeft LogFiles.empty appends) :
    readAll codec (filesAfter codec appends) =
        (appends.map AppendCall.event).filterMap codec.delivered ∧
      ((∀ call ∈ appends, codec.delivered call.event = some call.event) →
        readAll codec (filesAfter codec appends) = appends.map AppendCall.event) := by
  obtain ⟨stored, current, inOrder⟩ := inOrder_filesAfter days clock left
  have read : readAll codec (filesAfter codec appends) =
      (appends.map AppendCall.event).filterMap codec.delivered := by
    rw [← inOrder.events]
    exact inOrder.archived.readAll_eq lawful inOrder.content
  refine ⟨read, fun exact => ?_⟩
  have same : ∀ event ∈ appends.map AppendCall.event,
      codec.delivered event = some event := by
    intro event member
    obtain ⟨call, present, rfl⟩ := List.mem_map.mp member
    exact exact call present
  rw [read, List.filterMap_congr same]
  exact List.filterMap_some

def firstLine : PlainLine := ⟨"\x7b\"type\": \"a\"\x7d".toList, by decide⟩

def otherLine : PlainLine := ⟨"\x7b\"type\": \"b\"\x7d".toList, by decide⟩

/-- Two appends on a day, the second of which cuts the file, and one on the next day. -/
def threeCalls : List (AppendCall PlainLine) :=
  [⟨⟨"2026-01-01", "1"⟩, "2026-01-01", firstLine⟩, ⟨⟨"2026-01-01", "1"⟩, "2026-01-01", otherLine⟩,
    ⟨⟨"2026-01-02", "1"⟩, "2026-01-02", firstLine⟩]

theorem readAll_three_calls :
    readAll plainCodec (filesAfter plainCodec threeCalls) = threeCalls.map AppendCall.event := by
  have days : ∀ call ∈ threeCalls, call.writtenDay.length = 10 := by decide
  have clock : NonDecreasing threeCalls := by
    unfold NonDecreasing
    decide +kernel
  have free : Runs.Along (appendStep plainCodec) (fun files _ => ∀ active ∈ files.active,
      files.archives.contains (sizeArchive active.mtimeDay 2) = false) LogFiles.empty
      threeCalls := by decide +kernel
  have left : Runs.Along (appendStep plainCodec) NumberLeft LogFiles.empty threeCalls :=
    free.mono fun _ _ unused active state _ _ => ⟨2, by decide, by decide, unused active state⟩
  exact (readAll_appends plainCodec_lawful days clock left).2 (by decide +kernel)

/-- Appends on one day, each of which finds that the active file is too large. -/
def cutCalls (day : String) (events : List ε) : List (AppendCall ε) :=
  events.map fun event => ⟨⟨day, "1"⟩, day, event⟩

/-- Each event but the last in a segment of its own. -/
def segments (codec : Codec ε) (day : String) (events : List ε) : List (String × Bytes) :=
  (events.zipIdx 1).map fun entry => (sizeArchive day entry.2, codec.lines [entry.1])

theorem contains_segments {events : List ε}
    (entries : archives.entries = segments codec day events) (ordinal : Nat) :
    archives.contains (sizeArchive day ordinal) = true ↔
      1 ≤ ordinal ∧ ordinal < 1 + events.length := by
  have keys : archives.keys = (List.range' 1 events.length).map (sizeArchive day) := by
    rw [Dict.keys, entries, segments, List.map_map, ← List.zipIdx_map_snd 1 events, List.map_map]
    rfl
  rw [Dict.contains_iff_mem_keys, keys, List.mem_map_of_injective (sizeArchive_injective day),
    List.mem_range'_1]

theorem freeOrdinal_segments {events : List ε}
    (entries : archives.entries = segments codec day events) :
    freeOrdinal archives day = 1 + events.length := by
  obtain ⟨unused, positive, lower⟩ := freeOrdinal_spec archives day
  have above : ¬freeOrdinal archives day < 1 + events.length := by
    intro below
    rw [(contains_segments entries _).mpr ⟨positive, below⟩] at unused
    exact Bool.false_ne_true unused.symm
  have below : ¬1 + events.length < freeOrdinal archives day := by
    intro above
    have taken := lower (1 + events.length) (Nat.le_add_right 1 _) above
    exact absurd ((contains_segments entries _).mp taken).2 (Nat.lt_irrefl _)
  omega

theorem filesAfter_cutCalls (day : String) (events : List ε) (last : ε) :
    (filesAfter codec (cutCalls day (events ++ [last]))).archives.entries =
        segments codec day events ∧
      (filesAfter codec (cutCalls day (events ++ [last]))).active =
        some ⟨codec.lines [last], day⟩ := by
  have limit : sizeLimit "1" = some 1 := by decide
  induction events using List.reverseRecOn generalizing last with
  | nil =>
      have first : rotate ⟨day, "1"⟩ LogFiles.empty = LogFiles.empty := by
        simp [rotate, rotateIfNeeded, rotateBySizeIfNeeded, LogFiles.empty, limit]
      have start : filesAfter codec (cutCalls day [last]) =
          ⟨some ⟨codec.lines [last], day⟩, Dict.empty⟩ := by
        simp only [filesAfter, cutCalls, List.map_cons, List.map_nil, Runs.run_cons, Runs.run_nil,
          appendStep, appendAt, first]
        simp [LogFiles.empty, LogFiles.content, Codec.lines, Lines.unlines]
      rw [List.nil_append, start]
      exact ⟨rfl, rfl⟩
  | append_singleton events event ih =>
      obtain ⟨entries, active⟩ := ih event
      have split : cutCalls day (events ++ [event] ++ [last]) =
          cutCalls day (events ++ [event]) ++ [⟨⟨day, "1"⟩, day, last⟩] := List.map_append
      have cut : rotate ⟨day, "1"⟩ (filesAfter codec (cutCalls day (events ++ [event]))) =
          ⟨none, (filesAfter codec (cutCalls day (events ++ [event]))).archives.insert
            (sizeArchive day (1 + events.length)) (codec.lines [event])⟩ := by
        have large : ¬(codec.lines [event]).length < 1 := by
          simp [Codec.lines, Lines.unlines]
        rw [← freeOrdinal_segments entries]
        simp [rotate, rotateIfNeeded, rotateBySizeIfNeeded, active, limit, large]
      have unused : sizeArchive day (1 + events.length) ∉
          (filesAfter codec (cutCalls day (events ++ [event]))).archives.keys := by
        rw [← Dict.contains_iff_mem_keys, contains_segments entries]
        omega
      rw [split, filesAfter, Runs.run_append]
      change (appendStep codec (filesAfter codec (cutCalls day (events ++ [event]))) _).archives.entries
        = _ ∧ (appendStep codec (filesAfter codec (cutCalls day (events ++ [event]))) _).active = _
      rw [appendStep, appendAt]
      simp only [cut]
      constructor
      · change Dict.put _ _ _ = _
        rw [Dict.put_of_notMem unused, entries, segments, segments, List.zipIdx_append,
          List.map_append]
        rfl
      · simp [LogFiles.content, Codec.lines, Lines.unlines]

/-- One event of another type, in the ten thousandth segment of a day. -/
def manyEvents : List PlainLine := List.replicate 9999 firstLine ++ [otherLine]

/-- The names of the ten thousandth segment and of the one before it. -/
theorem archiveName_overflow :
    archiveName (sizeArchive "2026-01-01" 10000) < archiveName (sizeArchive "2026-01-01" 9999) := by
  decide +kernel

theorem otherLine_last {ordinal : Nat} (member : (otherLine, ordinal) ∈ manyEvents.zipIdx 1) :
    ordinal = 10000 := by
  rw [manyEvents, List.zipIdx_append, List.length_replicate, List.mem_append] at member
  rcases member with early | last
  · have found : otherLine ∈ List.replicate 9999 firstLine := List.fst_mem_of_mem_zipIdx early
    exact absurd (List.eq_of_mem_replicate found) (by decide)
  · exact (Prod.mk.inj (List.mem_singleton.mp last)).2

/-- Where each event is read as itself, the archives of the cut day are read to their events. -/
theorem parse_segments (lawful : codec.Lawful) {events : List ε}
    (exact : ∀ event ∈ events, codec.delivered event = some event)
    {archive : String × Bytes} (member : archive ∈ segments codec day events) :
    ∃ entry ∈ events.zipIdx 1, archive.1 = sizeArchive day entry.2 ∧
      (parseFile codec archive.2).1 = [entry.1] := by
  obtain ⟨entry, listed, rfl⟩ := List.mem_map.mp member
  refine ⟨entry, listed, rfl, ?_⟩
  have delivered := exact entry.1 (List.fst_mem_of_mem_zipIdx listed)
  change (parseFile codec (codec.lines [entry.1])).1 = _
  rw [parseFile_lines lawful]
  simp [delivered]

/-- A day of ten thousand segments is not read in order. -/
theorem ten_thousandth_segment_misread :
    ¬∀ appends : List (AppendCall PlainLine),
      (∀ call ∈ appends, call.writtenDay.length = 10) → NonDecreasing appends →
      (∀ call ∈ appends, plainCodec.delivered call.event = some call.event) →
      readAll plainCodec (filesAfter plainCodec appends) = appends.map AppendCall.event := by
  intro claimed
  let day := "2026-01-01"
  have delivered : ∀ event ∈ manyEvents ++ [firstLine],
      plainCodec.delivered event = some event := by
    have both : plainCodec.delivered firstLine = some firstLine ∧
        plainCodec.delivered otherLine = some otherLine := by decide +kernel
    intro event member
    have either : event = firstLine ∨ event = otherLine := by
      rcases List.mem_append.mp member with many | last
      · rcases List.mem_append.mp many with early | late
        · exact Or.inl (List.eq_of_mem_replicate early)
        · exact Or.inr (List.mem_singleton.mp late)
      · exact Or.inl (List.mem_singleton.mp last)
    rcases either with rfl | rfl
    · exact both.1
    · exact both.2
  have events : (cutCalls day (manyEvents ++ [firstLine])).map AppendCall.event =
      manyEvents ++ [firstLine] := by
    rw [cutCalls, List.map_map]
    exact List.map_id _
  have called : ∀ call ∈ cutCalls day (manyEvents ++ [firstLine]),
      call.clock.today = day ∧ call.writtenDay = day ∧
        plainCodec.delivered call.event = some call.event := by
    intro call member
    obtain ⟨event, listed, rfl⟩ := List.mem_map.mp member
    exact ⟨rfl, rfl, delivered event listed⟩
  have clock : NonDecreasing (cutCalls day (manyEvents ++ [firstLine])) := by
    refine List.pairwise_of_forall_mem_list fun earlier first later second => ?_
    obtain ⟨today, written, _⟩ := called earlier first
    obtain ⟨laterToday, laterWritten, _⟩ := called later second
    rw [today, written, laterToday, laterWritten]
    exact ⟨le_refl _, le_refl _, le_refl _⟩
  have read := claimed (cutCalls day (manyEvents ++ [firstLine]))
    (fun call member => by rw [(called call member).2.1]; decide) clock
    (fun call member => (called call member).2.2)
  obtain ⟨entries, active⟩ := @filesAfter_cutCalls _ plainCodec day manyEvents firstLine
  generalize filesAfter plainCodec (cutCalls day (manyEvents ++ [firstLine])) = files at *
  have content : files.content = plainCodec.lines [firstLine] := by
    rw [LogFiles.content, active]
  have current : [firstLine].filterMap plainCodec.delivered = [firstLine] := by
    rw [List.filterMap_cons_some (delivered firstLine (by simp)), List.filterMap_nil]
  rw [events, readAll, content, parseFile_lines plainCodec_lawful, current] at read
  -- The last archive in the order of the names holds the last event but one.
  have archived := List.append_cancel_right read
  have nonempty : listArchives files ≠ [] := by
    intro empty
    rw [empty, manyEvents] at archived
    exact List.concat_ne_nil _ _ archived.symm
  have sorted := Sorting.sortedBy_pairwise (fun archive : String × Bytes => archiveName archive.1)
    files.archives.entries
  have listed : ∀ archive, archive ∈ listArchives files ↔ archive ∈ files.archives.entries :=
    Sorting.mem_sortedBy _ _
  change (listArchives files).Pairwise _ at sorted
  obtain ⟨before, last, split⟩ := (List.eq_nil_or_concat _).resolve_left nonempty
  rw [List.concat_eq_append] at split
  rw [split] at archived sorted listed
  have lastMember := (listed last).mp (List.mem_append_right _ (List.mem_singleton_self last))
  obtain ⟨entry, entryMember, name, parsed⟩ := parse_segments plainCodec_lawful
    (fun event member => delivered event (List.mem_append_left _ member)) (entries ▸ lastMember)
  rw [List.flatMap_append, List.flatMap_singleton, parsed, manyEvents] at archived
  have event : entry.1 = otherLine := List.singleton_inj.mp (List.append_inj_right' archived rfl)
  have ordinal : entry.2 = 10000 := otherLine_last (event ▸ entryMember)
  have count : manyEvents.length = 10000 := by
    rw [manyEvents, List.length_append, List.length_replicate, List.length_singleton]
  have taken := (contains_segments entries 9999).mpr (by rw [count]; omega)
  rw [Dict.contains_iff_mem_keys] at taken
  obtain ⟨other, otherMember, otherName⟩ := List.mem_map.mp taken
  have below : archiveName other.1 ≤ archiveName last.1 := by
    rcases List.mem_append.mp ((listed other).mpr otherMember) with early | same
    · exact (List.pairwise_append.mp sorted).2.2 other early last (List.mem_singleton_self last)
    · rw [List.mem_singleton.mp same]
  rw [otherName, name, ordinal] at below
  exact absurd archiveName_overflow (not_lt_of_ge below)

end ZaofuFormal.Events
