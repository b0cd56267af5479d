import ZaofuFormal.Foundation.Dict
import ZaofuFormal.Foundation.Padded
import ZaofuFormal.Foundation.Sorting
import ZaofuFormal.Memory.Entries

/-!
# The memory store

Every role has an active file and an archive directory; shared memory has both under the
name `shared`.  A write on a later day first moves the active file into the archive, under
the day of its last write.  A read goes through the archived days in order and then through
the active file.  All paths stand in one name space below the memory directory.
-/

namespace ZaofuFormal.Memory

open Foundation
open TextLines (universalNewlines)

structure StoredFile where
  text : List Char
  /-- the day of the last write -/
  day : List Char

/-- The regular files by the parts of their paths below the memory directory. -/
abbrev Disk := Dict (List (List Char)) StoredFile

/-- `"shared" if role is None else role`. -/
def nameOf (role : Option (List Char)) : List Char := role.getD "shared".toList

def markdown : List Char := ".md".toList

def activeFile (role : Option (List Char)) : List (List Char) := [nameOf role ++ markdown]

def lockFile (role : Option (List Char)) : List (List Char) :=
  [nameOf role ++ markdown ++ ".lock".toList]

/-- `memory_dir / name`: an empty part and `.` leave the directory as it is. -/
def archiveDir (role : Option (List Char)) : List (List Char) :=
  if nameOf role = [] ∨ nameOf role = ['.'] then [] else [nameOf role]

/-- `active.suffix`, which a name that starts with its only dot does not have. -/
def activeSuffix (role : Option (List Char)) : List Char :=
  if nameOf role = [] then [] else markdown

/-- Some file lies below the path. -/
def isDirectory (disk : Disk) (path : List (List Char)) : Bool :=
  disk.keys.any fun key => path.isPrefixOf key && key != path

/-- One call of `add`, with the days on which it looks and on which it writes. -/
structure AddCall where
  role : Option (List Char)
  type : List Char
  content : List Char
  stamp : Stamp
  checkDay : List Char
  writeDay : List Char

/-- The entry of a call whose type is known. -/
def AddCall.entry? (call : AddCall) : Option MemoryEntry :=
  (Dict.find call.type decayDays).map fun days => ⟨call.type, call.content, call.stamp.text, days⟩

/-- The lock file is made once and left in place. -/
def touch (disk : Disk) (path : List (List Char)) (day : List Char) : Disk :=
  if disk.contains path then disk else disk.insert path ⟨[], day⟩

/-- `rotate_if_needed`; no result where a file stands in the place of the directory. -/
def rotateIfNeeded (disk : Disk) (active dir : List (List Char)) (suffix today : List Char) :
    Option Disk :=
  match disk.get? active with
  | none => some disk
  | some file =>
      if file.day = today then some disk
      else if disk.contains dir then none
      else
        let target := dir ++ [file.day ++ suffix]
        match disk.get? target with
        | some old =>
            let first := universalNewlines old.text
            let separator := if first = [] ∨ first.getLast? = some '\n' then [] else ['\n']
            some ((disk.insert target
              ⟨first ++ separator ++ universalNewlines file.text, today⟩).erase active)
        | none => some ((disk.erase active).insert target file)

def appendText (disk : Disk) (path : List (List Char)) (text day : List Char) : Disk :=
  disk.insert path ⟨((disk.get? path).map StoredFile.text).getD [] ++ text, day⟩

/-- `add`, when it does not raise: for an unknown type, or where a directory stands in
the place of a file. -/
def add (disk : Disk) (call : AddCall) : Option Disk :=
  match call.entry? with
  | none => none
  | some entry =>
      if isDirectory disk (lockFile call.role) || isDirectory disk (activeFile call.role) then none
      else
        (rotateIfNeeded (touch disk (lockFile call.role) call.checkDay) (activeFile call.role)
          (archiveDir call.role) (activeSuffix call.role) call.checkDay).map fun disk =>
          appendText disk (activeFile call.role) (block entry) call.writeDay

/-- The store after the calls; one that raises leaves it as it is. -/
def diskAfter (calls : List AddCall) : Disk :=
  calls.foldl (fun disk call => (add disk call).getD disk) ∅

/-- The name of a file in a directory when it matches `*.md`. -/
def archiveName? (dir path : List (List Char)) : Option (List Char) :=
  match path.getLast? with
  | some file => if path.dropLast = dir ∧ markdown.isSuffixOf file then some file else none
  | none => none

def listArchives (disk : Disk) (dir : List (List Char)) : List (List Char) :=
  Sorting.sortedBy id (disk.keys.filterMap (archiveName? dir))

def readFile (classes : CharClasses) (disk : Disk) (path : List (List Char)) :
    List MemoryEntry :=
  match disk.get? path with
  | some file => parseEntries classes (universalNewlines file.text)
  | none => []

/-- `get(role)`; reading a directory in the place of the active file raises. -/
def get (classes : CharClasses) (disk : Disk) (role : Option (List Char)) :
    Option (List MemoryEntry) :=
  if isDirectory disk (activeFile role) then none
  else
    some ((listArchives disk (archiveDir role)).flatMap (fun file =>
        readFile classes disk (archiveDir role ++ [file])) ++
      readFile classes disk (activeFile role))

/-- A role whose archive is a directory of its own below the memory directory. -/
structure PlainRole (role : Option (List Char)) : Prop where
  noSlash : '/' ∉ nameOf role
  filled : nameOf role ≠ []
  notDot : nameOf role ≠ ['.']
  notParent : nameOf role ≠ ['.', '.']

/-- No name of one role is a name that another one uses. -/
structure Apart (roles : List (Option (List Char))) : Prop where
  plain : ∀ role ∈ roles, PlainRole role
  names : ∀ role ∈ roles, ∀ other ∈ roles, nameOf role = nameOf other → role = other
  files : ∀ role ∈ roles, ∀ other ∈ roles, nameOf role ≠ nameOf other ++ markdown
  locks : ∀ role ∈ roles, ∀ other ∈ roles,
    nameOf role ≠ nameOf other ++ markdown ++ ".lock".toList

/-- The paths that a role uses. -/
inductive Uses (role : Option (List Char)) : List (List Char) → Prop
  | active : Uses role (activeFile role)
  | lock : Uses role (lockFile role)
  | archived (file : List Char) : Uses role (archiveDir role ++ [file])

variable {path : List (List Char)} {calls : List AddCall}

theorem Uses.eq_or {role : Option (List Char)} (used : Uses role path) :
    path = activeFile role ∨ path = lockFile role ∨ ∃ file, path = archiveDir role ++ [file] := by
  cases used with
  | active => exact Or.inl rfl
  | lock => exact Or.inr (Or.inl rfl)
  | archived file => exact Or.inr (Or.inr ⟨file, rfl⟩)

theorem PlainRole.archiveDir_eq {role : Option (List Char)} (plain : PlainRole role) :
    archiveDir role = [nameOf role] :=
  if_neg fun either => either.elim plain.filled plain.notDot

theorem touch_frame {disk : Disk} {lock : List (List Char)} {day : List Char}
    (different : path ≠ lock) : (touch disk lock day).get? path = disk.get? path := by
  unfold touch
  split
  · rfl
  · exact Dict.get?_insert_ne disk _ different

theorem rotateIfNeeded_frame {disk after : Disk} {active dir : List (List Char)}
    {suffix today : List Char}
    (rotated : rotateIfNeeded disk active dir suffix today = some after)
    (different : path ≠ active) (outside : ∀ file, path ≠ dir ++ [file]) :
    after.get? path = disk.get? path := by
  unfold rotateIfNeeded at rotated
  cases found : disk.get? active with
  | none =>
      simp only [found, Option.some.injEq] at rotated
      rw [rotated]
  | some file =>
      simp only [found] at rotated
      split at rotated
      · rw [Option.some.inj rotated]
      · split at rotated
        · cases rotated
        · split at rotated
          · obtain rfl := Option.some.inj rotated
            rw [Dict.get?_erase, if_neg different, Dict.get?_insert_ne _ _ (outside _)]
          · obtain rfl := Option.some.inj rotated
            rw [Dict.get?_insert_ne _ _ (outside _), Dict.get?_erase, if_neg different]

/-- What a call that does not raise has done. -/
theorem add_eq_some {disk after : Disk} {call : AddCall} (added : add disk call = some after) :
    ∃ entry rotated, call.entry? = some entry ∧
      rotateIfNeeded (touch disk (lockFile call.role) call.checkDay) (activeFile call.role)
        (archiveDir call.role) (activeSuffix call.role) call.checkDay = some rotated ∧
      after = appendText rotated (activeFile call.role) (block entry) call.writeDay := by
  unfold add at added
  cases known : call.entry? with
  | none => simp [known] at added
  | some entry =>
      simp only [known] at added
      split at added
      · cases added
      · obtain ⟨rotated, done, rfl⟩ := Option.map_eq_some_iff.mp added
        exact ⟨entry, rotated, rfl, done, rfl⟩

theorem add_frame {disk after : Disk} {call : AddCall} (added : add disk call = some after)
    (unused : ¬ Uses call.role path) :
    after.get? path = disk.get? path := by
  obtain ⟨entry, rotated, _, done, rfl⟩ := add_eq_some added
  have notActive : path ≠ activeFile call.role := fun same => unused (same ▸ .active)
  have notLock : path ≠ lockFile call.role := fun same => unused (same ▸ .lock)
  have notArchived (file : List Char) : path ≠ archiveDir call.role ++ [file] := fun same =>
    unused (same ▸ .archived file)
  rw [appendText, Dict.get?_insert_ne _ _ notActive,
    rotateIfNeeded_frame done notActive notArchived, touch_frame notLock]

/-- Every file of the store is one that a role uses. -/
def Placed (roles : List (Option (List Char))) (disk : Disk) : Prop :=
  ∀ path, disk.contains path = true → ∃ role ∈ roles, Uses role path

section Places

variable {roles : List (Option (List Char))} {disk : Disk}

theorem Placed.add (placed : Placed roles disk) {call : AddCall} (member : call.role ∈ roles)
    {after : Disk} (added : Memory.add disk call = some after) : Placed roles after := by
  intro path present
  by_cases used : Uses call.role path
  · exact ⟨call.role, member, used⟩
  · refine placed path ?_
    rwa [Dict.contains, add_frame added used] at present

theorem Placed.not_directory (placed : Placed roles disk) (apart : Apart roles)
    {name : List Char} (free : ∀ role ∈ roles, nameOf role ≠ name) :
    isDirectory disk [name] = false := by
  rw [isDirectory, List.any_eq_false]
  intro key member below
  rw [Bool.and_eq_true, List.isPrefixOf_iff_prefix, bne_iff_ne] at below
  obtain ⟨role, listed, used⟩ :=
    placed key ((Dict.contains_iff_mem_keys disk key).mpr member)
  cases used with
  | active => exact below.2 (below.1.eq_of_length rfl).symm
  | lock => exact below.2 (below.1.eq_of_length rfl).symm
  | archived file =>
      rw [(apart.plain role listed).archiveDir_eq] at below
      obtain ⟨rest, same⟩ := below.1
      exact free role listed (List.cons.inj same).1.symm

theorem Placed.not_contains (placed : Placed roles disk) (apart : Apart roles)
    {role : Option (List Char)} (member : role ∈ roles) :
    disk.contains (archiveDir role) = false := by
  rw [(apart.plain role member).archiveDir_eq, Bool.eq_false_iff]
  intro present
  obtain ⟨other, listed, used⟩ := placed _ present
  rcases used.eq_or with same | same | ⟨file, same⟩
  · exact apart.files role member other listed (List.cons.inj same).1
  · exact apart.locks role member other listed (List.cons.inj same).1
  · rw [(apart.plain other listed).archiveDir_eq] at same
    cases (List.cons.inj same).2

/-- The files of one role are none of another. -/
theorem Uses.elsewhere (apart : Apart roles) {role other : Option (List Char)}
    (member : role ∈ roles) (listed : other ∈ roles) (different : role ≠ other)
    {path : List (List Char)} (used : Uses role path) :
    path ≠ activeFile other ∧ ∀ file, path ≠ archiveDir other ++ [file] := by
  have names : nameOf role ≠ nameOf other := fun same =>
    different (apart.names role member other listed same)
  have ownDir := (apart.plain role member).archiveDir_eq
  have otherDir := (apart.plain other listed).archiveDir_eq
  rw [otherDir]
  rcases used.eq_or with rfl | rfl | ⟨file, rfl⟩
  · refine ⟨fun same => names ?_, fun file same => ?_⟩
    · exact List.append_cancel_right (List.cons.inj same).1
    · cases (List.cons.inj same).2
  · refine ⟨fun same => ?_, fun file same => ?_⟩
    · -- a lock ends with another letter than a text file
      have last := congrArg List.getLast? (List.cons.inj same).1
      rw [List.getLast?_append_of_ne_nil _ (by decide),
        List.getLast?_append_of_ne_nil _ (by decide)] at last
      exact absurd last (by decide)
    · cases (List.cons.inj same).2
  · rw [ownDir]
    refine ⟨fun same => ?_, fun other same => names (List.cons.inj same).1⟩
    cases (List.cons.inj same).2

end Places

/-- The entries of one role on the disk: the archived days in order, and the active file. -/
structure Shelf (disk : Disk) (role : Option (List Char))
    (archived : List (List Char × List MemoryEntry))
    (current : Option (List Char × List MemoryEntry)) : Prop where
  active : disk.get? (activeFile role) =
    current.map fun last => ⟨last.2.flatMap block, last.1⟩
  stored : ∀ file text,
    (disk.get? (archiveDir role ++ [file])).map StoredFile.text = some text ↔
      ∃ kept ∈ archived, file = kept.1 ++ markdown ∧ text = kept.2.flatMap block
  ascending : (archived.map Prod.fst).Pairwise (· < ·)
  before : ∀ kept ∈ archived, ∀ last ∈ current, kept.1 < last.1
  widths : ∀ kept ∈ archived, kept.1.length = 10
  width : ∀ last ∈ current, last.1.length = 10

def entriesOf (archived : List (List Char × List MemoryEntry))
    (current : Option (List Char × List MemoryEntry)) : List MemoryEntry :=
  archived.flatMap Prod.snd ++ (current.map Prod.snd).getD []

section Shelves

variable {disk after : Disk} {role : Option (List Char)}
  {archived : List (List Char × List MemoryEntry)}
  {current : Option (List Char × List MemoryEntry)}

theorem Shelf.congr (shelf : Shelf disk role archived current)
    (active : after.get? (activeFile role) = disk.get? (activeFile role))
    (archives : ∀ file, after.get? (archiveDir role ++ [file]) =
      disk.get? (archiveDir role ++ [file])) : Shelf after role archived current where
  active := active.trans shelf.active
  stored := fun file text => by rw [archives file, shelf.stored]
  ascending := shelf.ascending
  before := shelf.before
  widths := shelf.widths
  width := shelf.width

theorem archived_ne_active (plain : PlainRole role) (file : List Char) :
    archiveDir role ++ [file] ≠ activeFile role := by
  rw [plain.archiveDir_eq]
  intro same
  cases (List.cons.inj same).2

theorem archived_ne_lock (plain : PlainRole role) (file : List Char) :
    archiveDir role ++ [file] ≠ lockFile role := by
  rw [plain.archiveDir_eq]
  intro same
  cases (List.cons.inj same).2

theorem active_ne_lock (role : Option (List Char)) : activeFile role ≠ lockFile role := by
  intro same
  have longer := congrArg List.length (List.cons.inj same).1
  have split := @List.length_append _ (nameOf role ++ markdown) ".lock".toList
  have positive : 0 < ".lock".toList.length := by decide
  omega

/-- A block more in the active file. -/
theorem Shelf.write (shelf : Shelf disk role archived current) (plain : PlainRole role)
    (entry : MemoryEntry) {day : List Char} (width : day.length = 10)
    (later : ∀ kept ∈ archived, kept.1 < day) :
    Shelf (appendText disk (activeFile role) (block entry) day) role archived
      (some (day, (current.map Prod.snd).getD [] ++ [entry])) where
  active := by
    rw [appendText, Dict.get?_insert_self, shelf.active]
    cases current <;> simp
  stored := fun file text => by
    rw [appendText, Dict.get?_insert_ne _ _ (archived_ne_active plain file), shelf.stored]
  ascending := shelf.ascending
  before := by
    rintro kept member last ⟨⟩
    exact later kept member
  widths := shelf.widths
  width := by
    rintro last ⟨⟩
    exact width

/-- The active file of an earlier day becomes the last of the archive. -/
theorem Shelf.rotate {day today : List Char} {entries : List MemoryEntry}
    (shelf : Shelf disk role archived (some (day, entries))) (plain : PlainRole role)
    (free : disk.contains (archiveDir role) = false) (earlier : day ≠ today) :
    ∃ after, rotateIfNeeded disk (activeFile role) (archiveDir role) markdown today =
        some after ∧
      Shelf after role (archived ++ [(day, entries)]) none := by
  have width := shelf.width (day, entries) rfl
  have below (kept : List Char × List MemoryEntry) (member : kept ∈ archived) : kept.1 < day :=
    shelf.before kept member (day, entries) rfl
  have vacant : disk.get? (archiveDir role ++ [day ++ markdown]) = none := by
    cases found : disk.get? (archiveDir role ++ [day ++ markdown]) with
    | none => rfl
    | some old =>
        obtain ⟨kept, member, same, _⟩ :=
          (shelf.stored (day ++ markdown) old.text).mp (by rw [found]; rfl)
        exact absurd (List.append_cancel_right same) (ne_of_gt (below kept member))
  refine ⟨(disk.erase (activeFile role)).insert (archiveDir role ++ [day ++ markdown])
    ⟨entries.flatMap block, day⟩, ?_, ?_⟩
  · rw [rotateIfNeeded, shelf.active]
    simp only [Option.map_some, if_neg earlier, free, Bool.false_eq_true, if_false, vacant]
  · constructor
    · rw [Dict.get?_insert_ne _ _ (archived_ne_active plain _).symm, Dict.get?_erase, if_pos rfl]
      rfl
    · intro file text
      rw [Dict.get?_insert, Dict.get?_erase, if_neg (archived_ne_active plain file)]
      by_cases same : file = day ++ markdown
      · subst same
        rw [if_pos rfl, Option.map_some, Option.some.injEq]
        constructor
        · rintro rfl
          exact ⟨_, List.mem_append_right _ List.mem_cons_self, rfl, rfl⟩
        · rintro ⟨kept, member, named, rfl⟩
          rcases List.mem_append.mp member with old | new
          · exact absurd (List.append_cancel_right named) (ne_of_gt (below kept old))
          · rw [List.mem_singleton.mp new]
      · have other : archiveDir role ++ [file] ≠ archiveDir role ++ [day ++ markdown] :=
          fun equal => same (List.cons.inj (List.append_cancel_left equal)).1
        rw [if_neg other, shelf.stored]
        constructor
        · rintro ⟨kept, member, named⟩
          exact ⟨kept, List.mem_append_left _ member, named⟩
        · rintro ⟨kept, member, named, content⟩
          rcases List.mem_append.mp member with old | new
          · exact ⟨kept, old, named, content⟩
          · rw [List.mem_singleton.mp new] at named
            exact absurd named same
    · rw [List.map_append, List.pairwise_append]
      refine ⟨shelf.ascending, List.pairwise_singleton _ _, ?_⟩
      intro first member second listed
      obtain ⟨kept, old, rfl⟩ := List.mem_map.mp member
      rw [List.mem_singleton.mp listed]
      exact below kept old
    · intro _ _ _ impossible
      cases impossible
    · intro kept member
      rcases List.mem_append.mp member with old | new
      · exact shelf.widths kept old
      · rw [List.mem_singleton.mp new]
        exact width
    · intro _ impossible
      cases impossible

end Shelves

section Calls

variable {roles : List (Option (List Char))} {disk : Disk} {call : AddCall}
  {archived : List (List Char × List MemoryEntry)}
  {current : Option (List Char × List MemoryEntry)}

/-- Among separate roles a call with a known type does not raise, and its entry comes last. -/
theorem Shelf.add (shelf : Shelf disk call.role archived current) (placed : Placed roles disk)
    (apart : Apart roles) (member : call.role ∈ roles) {entry : MemoryEntry}
    (known : call.entry? = some entry) (fresh : current = none → archived = [])
    (width : call.writeDay.length = 10) (within : call.checkDay ≤ call.writeDay)
    (clock : ∀ last ∈ current, last.1 ≤ call.checkDay) :
    ∃ after archived' entries, Memory.add disk call = some after ∧
      Shelf after call.role archived' (some (call.writeDay, entries)) ∧
      entriesOf archived' (some (call.writeDay, entries)) =
        entriesOf archived current ++ [entry] := by
  have plain := apart.plain call.role member
  have noActive : isDirectory disk (activeFile call.role) = false :=
    placed.not_directory apart fun role listed => apart.files role listed call.role member
  have noLock : isDirectory disk (lockFile call.role) = false :=
    placed.not_directory apart fun role listed => apart.locks role listed call.role member
  have suffix : activeSuffix call.role = markdown := if_neg plain.filled
  have touched : Shelf (touch disk (lockFile call.role) call.checkDay) call.role archived
      current :=
    shelf.congr (touch_frame (active_ne_lock call.role))
      fun file => touch_frame (archived_ne_lock plain file)
  have free : (touch disk (lockFile call.role) call.checkDay).contains (archiveDir call.role) =
      false := by
    have different : archiveDir call.role ≠ lockFile call.role := by
      rw [plain.archiveDir_eq]
      exact fun same =>
        apart.locks call.role member call.role member (List.cons.inj same).1
    rw [Dict.contains, touch_frame different]
    exact placed.not_contains apart member
  have opened : Memory.add disk call =
      (rotateIfNeeded (touch disk (lockFile call.role) call.checkDay) (activeFile call.role)
        (archiveDir call.role) markdown call.checkDay).map fun disk =>
        appendText disk (activeFile call.role) (block entry) call.writeDay := by
    simp only [Memory.add, known, noActive, noLock, Bool.or_self, Bool.false_eq_true, if_false,
      suffix]
  cases current with
  | none =>
      have kept : rotateIfNeeded (touch disk (lockFile call.role) call.checkDay)
          (activeFile call.role) (archiveDir call.role) markdown call.checkDay =
          some (touch disk (lockFile call.role) call.checkDay) := by
        rw [rotateIfNeeded, touched.active]
        rfl
      have written := touched.write plain entry width (by simp [fresh rfl])
      refine ⟨_, archived, _, by rw [opened, kept]; rfl, written, ?_⟩
      simp [entriesOf]
  | some last =>
      obtain ⟨day, entries⟩ := last
      have known := clock (day, entries) rfl
      by_cases today : day = call.checkDay
      · have kept : rotateIfNeeded (touch disk (lockFile call.role) call.checkDay)
            (activeFile call.role) (archiveDir call.role) markdown call.checkDay =
            some (touch disk (lockFile call.role) call.checkDay) := by
          rw [rotateIfNeeded, touched.active]
          exact if_pos today
        have written := touched.write plain entry width fun kept listed =>
          (shelf.before kept listed (day, entries) rfl).trans_le (known.trans within)
        refine ⟨_, archived, _, by rw [opened, kept]; rfl, written, ?_⟩
        simp [entriesOf]
      · obtain ⟨moved, rotated, put⟩ := touched.rotate plain free today
        have later : day < call.writeDay := (lt_of_le_of_ne known today).trans_le within
        have written := put.write plain entry width fun kept listed => by
          rcases List.mem_append.mp listed with old | new
          · exact (shelf.before kept old (day, entries) rfl).trans later
          · rw [List.mem_singleton.mp new]
            exact later
        refine ⟨_, archived ++ [(day, entries)], _, by rw [opened, rotated]; rfl, written, ?_⟩
        simp [entriesOf]

/-- A call for another role leaves a shelf as it is. -/
theorem Shelf.add_other {role : Option (List Char)} (shelf : Shelf disk role archived current)
    (apart : Apart roles) (member : call.role ∈ roles) (listed : role ∈ roles)
    (different : call.role ≠ role) {after : Disk} (added : Memory.add disk call = some after) :
    Shelf after role archived current := by
  refine shelf.congr (add_frame added fun used => ?_) fun file => add_frame added fun used => ?_
  · exact (used.elsewhere apart member listed different).1 rfl
  · exact (used.elsewhere apart member listed different).2 file rfl

end Calls

/-- The days of the calls never go back. -/
structure Ordered (calls : List AddCall) : Prop where
  widths : ∀ call ∈ calls, call.writeDay.length = 10
  within : ∀ call ∈ calls, call.checkDay ≤ call.writeDay
  later : calls.Pairwise fun first second => first.writeDay ≤ second.checkDay

/-- The entries that the calls add for a role. -/
def addedFor (role : Option (List Char)) (calls : List AddCall) : List MemoryEntry :=
  calls.filterMap fun call => if call.role = role then call.entry? else none

/-- What a run leaves on the shelf of one role. -/
def Kept (calls : List AddCall) (role : Option (List Char)) : Prop :=
  ∃ archived current, Shelf (diskAfter calls) role archived current ∧
    entriesOf archived current = addedFor role calls ∧ (current = none → archived = []) ∧
    ∀ last ∈ current, ∃ call ∈ calls, last.1 = call.writeDay

theorem diskAfter_concat (calls : List AddCall) (call : AddCall) :
    diskAfter (calls ++ [call]) = (add (diskAfter calls) call).getD (diskAfter calls) := by
  rw [diskAfter, List.foldl_append]
  rfl

theorem kept_empty (role : Option (List Char)) : Kept [] role := by
  refine ⟨[], none, ⟨rfl, ?_, List.Pairwise.nil, nofun, nofun, nofun⟩, rfl, fun _ => rfl, nofun⟩
  intro file text
  exact ⟨nofun, fun ⟨_, impossible, _⟩ => nomatch impossible⟩

theorem Ordered.init {call : AddCall} (ordered : Ordered (calls ++ [call])) :
    Ordered calls ∧ call.writeDay.length = 10 ∧ call.checkDay ≤ call.writeDay ∧
      ∀ earlier ∈ calls, earlier.writeDay ≤ call.checkDay := by
  have own : call ∈ calls ++ [call] := List.mem_append_right _ List.mem_cons_self
  have later := List.pairwise_append.mp ordered.later
  refine ⟨⟨fun other member => ordered.widths other (List.mem_append_left _ member),
    fun other member => ordered.within other (List.mem_append_left _ member), later.1⟩,
    ordered.widths call own, ordered.within call own, fun earlier member => ?_⟩
  exact later.2.2 earlier member call List.mem_cons_self

/-- After a run every role has its own entries, in the order of the calls. -/
theorem kept_diskAfter {roles : List (Option (List Char))} (apart : Apart roles)
    (ordered : Ordered calls) (listed : ∀ call ∈ calls, call.role ∈ roles) :
    Placed roles (diskAfter calls) ∧ ∀ role ∈ roles, Kept calls role := by
  induction calls using List.reverseRecOn with
  | nil => exact ⟨nofun, fun role _ => kept_empty role⟩
  | append_singleton calls call ih =>
      obtain ⟨earlier, width, within, clock⟩ := ordered.init
      obtain ⟨placed, shelves⟩ := ih earlier fun other member =>
        listed other (List.mem_append_left _ member)
      have member := listed call (List.mem_append_right _ List.mem_cons_self)
      constructor
      · rw [diskAfter_concat]
        cases added : add (diskAfter calls) call with
        | none => exact placed
        | some after => exact placed.add member added
      · intro role inside
        obtain ⟨archived, current, shelf, entries, fresh, days⟩ := shelves role inside
        have older (last : List Char × List MemoryEntry) (here : last ∈ current) :
            ∃ other ∈ calls ++ [call], last.1 = other.writeDay := by
          obtain ⟨other, earlier, same⟩ := days last here
          exact ⟨other, List.mem_append_left _ earlier, same⟩
        rw [Kept, diskAfter_concat, addedFor, List.filterMap_append]
        by_cases same : call.role = role
        · subst same
          cases known : call.entry? with
          | none =>
              have raised : add (diskAfter calls) call = none := by simp [add, known]
              refine ⟨archived, current, ?_, ?_, fresh, older⟩
              · rw [raised]
                exact shelf
              · rw [entries, addedFor]
                simp [known]
          | some entry =>
              obtain ⟨after, archived', kept, added, written, order⟩ :=
                shelf.add placed apart member known fresh width within fun last here => by
                  obtain ⟨other, earlier, day⟩ := days last here
                  exact day ▸ clock other earlier
              refine ⟨archived', some (call.writeDay, kept), ?_, ?_, nofun, ?_⟩
              · rw [added]
                exact written
              · rw [order, entries, addedFor]
                simp [known]
              · rintro last ⟨⟩
                exact ⟨call, List.mem_append_right _ List.mem_cons_self, rfl⟩
        · refine ⟨archived, current, ?_, ?_, fresh, older⟩
          · cases added : add (diskAfter calls) call with
            | none => exact shelf
            | some after => exact shelf.add_other apart member inside same added
          · rw [entries, addedFor]
            simp [same]

theorem archiveName?_eq_some {dir : List (List Char)} {file : List Char} :
    archiveName? dir path = some file ↔ path = dir ++ [file] ∧ markdown <:+ file := by
  unfold archiveName?
  cases last : path.getLast? with
  | none =>
      rw [List.getLast?_eq_none_iff.mp last]
      exact ⟨nofun, fun both => by simp at both⟩
  | some other =>
      have whole : path = path.dropLast ++ [other] :=
        (List.dropLast_append_getLast? other last).symm
      simp only [List.isSuffixOf_iff_suffix]
      constructor
      · intro named
        split at named
        · rename_i both
          obtain rfl := Option.some.inj named
          exact ⟨by rw [← both.1]; exact whole, both.2⟩
        · cases named
      · rintro ⟨rfl, ends⟩
        rw [List.getLast?_concat, Option.some.injEq] at last
        subst last
        rw [if_pos ⟨List.dropLast_concat, ends⟩]

section Shelves

variable {classes : CharClasses} {disk : Disk} {role : Option (List Char)}
  {archived : List (List Char × List MemoryEntry)}
  {current : Option (List Char × List MemoryEntry)}

/-- The archived files are listed in the order of their days. -/
theorem Shelf.listArchives_eq (shelf : Shelf disk role archived current) :
    listArchives disk (archiveDir role) = archived.map fun kept => kept.1 ++ markdown := by
  have sorted : (archived.map fun kept => kept.1 ++ markdown).Pairwise (· < ·) := by
    rw [List.pairwise_map]
    have days := List.pairwise_map.mp shelf.ascending
    refine days.imp_of_mem fun {first second} firstIn secondIn before => ?_
    exact Padded.append_lt_append
      ((shelf.widths first firstIn).trans (shelf.widths second secondIn).symm) before _ _
  have distinct : (disk.keys.filterMap (archiveName? (archiveDir role))).Nodup :=
    disk.nodupKeys.filterMap fun first second file firstNamed secondNamed => by
      rw [(archiveName?_eq_some.mp firstNamed).1, (archiveName?_eq_some.mp secondNamed).1]
  have same : (disk.keys.filterMap (archiveName? (archiveDir role))).Perm
      (archived.map fun kept => kept.1 ++ markdown) := by
    refine (List.perm_ext_iff_of_nodup distinct (sorted.imp ne_of_lt)).mpr fun file => ?_
    rw [List.mem_filterMap, List.mem_map]
    constructor
    · rintro ⟨path, member, named⟩
      obtain ⟨rfl, _⟩ := archiveName?_eq_some.mp named
      have present := (Dict.contains_iff_mem_keys disk _).mpr member
      obtain ⟨stored, found⟩ := Option.isSome_iff_exists.mp present
      obtain ⟨kept, inside, same, _⟩ :=
        (shelf.stored file stored.text).mp (by rw [found]; rfl)
      exact ⟨kept, inside, same.symm⟩
    · rintro ⟨kept, inside, rfl⟩
      have found := (shelf.stored (kept.1 ++ markdown) _).mpr ⟨kept, inside, rfl, rfl⟩
      obtain ⟨stored, here, _⟩ := Option.map_eq_some_iff.mp found
      refine ⟨archiveDir role ++ [kept.1 ++ markdown], ?_,
        archiveName?_eq_some.mpr ⟨rfl, List.suffix_append _ _⟩⟩
      exact (Dict.contains_iff_mem_keys disk _).mp (by rw [Dict.contains, here]; rfl)
  have keys : ((disk.keys.filterMap (archiveName? (archiveDir role))).map id).Nodup := by
    rw [List.map_id]
    exact distinct
  rw [listArchives, Sorting.sortedBy_eq_of_perm same keys, Sorting.sortedBy]
  exact (sorted.imp le_of_lt).insertionSort_eq

theorem readFile_blocks (lawful : classes.Lawful) {path : List (List Char)}
    {entries : List MemoryEntry} (written : ∀ entry ∈ entries, Written entry)
    (found : (disk.get? path).map StoredFile.text = some (entries.flatMap block)) :
    readFile classes disk path = entries.map readBack := by
  obtain ⟨file, here, text⟩ := Option.map_eq_some_iff.mp found
  have plain : '\r' ∉ entries.flatMap block := by
    intro member
    obtain ⟨entry, inside, within⟩ := List.mem_flatMap.mp member
    exact notMem_block (written entry inside) within
  simp only [readFile, here, text, TextLines.universalNewlines_eq_self plain]
  exact parseEntries_blocks lawful written

/-- A read of a shelf returns its entries, the archived ones first. -/
theorem Shelf.get_eq (shelf : Shelf disk role archived current) (lawful : classes.Lawful)
    (opens : isDirectory disk (activeFile role) = false)
    (written : ∀ entry ∈ entriesOf archived current, Written entry) :
    get classes disk role = some ((entriesOf archived current).map readBack) := by
  have archives : ∀ kept ∈ archived,
      readFile classes disk (archiveDir role ++ [kept.1 ++ markdown]) = kept.2.map readBack := by
    intro kept member
    refine readFile_blocks lawful (fun entry inside => written entry ?_)
      ((shelf.stored _ _).mpr ⟨kept, member, rfl, rfl⟩)
    exact List.mem_append_left _ (List.mem_flatMap.mpr ⟨kept, member, inside⟩)
  have last : readFile classes disk (activeFile role) =
      ((current.map Prod.snd).getD []).map readBack := by
    cases current with
    | none => simp [readFile, shelf.active]
    | some last =>
        refine readFile_blocks lawful (fun entry inside => written entry ?_) (by
          rw [shelf.active]
          rfl)
        exact List.mem_append_right _ inside
  rw [get, opens, shelf.listArchives_eq, last, List.flatMap_map, entriesOf, List.map_append,
    List.map_flatMap]
  simp only [Bool.false_eq_true, if_false]
  rw [List.flatMap_congr archives]

end Shelves

theorem written_of_addedFor {role : Option (List Char)}
    (clean : ∀ call ∈ calls, Clean call.content) :
    ∀ entry ∈ addedFor role calls, Written entry := by
  intro entry member
  obtain ⟨call, inside, made⟩ := List.mem_filterMap.mp member
  by_cases same : call.role = role
  · rw [if_pos same] at made
    obtain ⟨days, known, rfl⟩ := Option.map_eq_some_iff.mp made
    have distinct : (decayDays.map Prod.fst).Nodup := by decide
    exact ⟨(Dict.find_eq_some_iff distinct _ _).mp known, clean call inside, call.stamp, rfl⟩
  · rw [if_neg same] at made
    cases made

/-- Among separate roles, and with contents in which nothing looks like the next comment,
a role reads the entries that were added for it, in order, whatever days pass. -/
theorem get_added {classes : CharClasses} (lawful : classes.Lawful) {calls : List AddCall}
    {role : Option (List Char)} (ordered : Ordered calls)
    (apart : Apart (role :: calls.map AddCall.role))
    (clean : ∀ call ∈ calls, Clean call.content) :
    get classes (diskAfter calls) role = some ((addedFor role calls).map readBack) := by
  have own : role ∈ role :: calls.map AddCall.role := List.mem_cons_self
  obtain ⟨placed, shelves⟩ := kept_diskAfter apart ordered fun call member =>
    List.mem_cons_of_mem _ (List.mem_map_of_mem member)
  obtain ⟨archived, current, shelf, entries, _⟩ := shelves role own
  have opens : isDirectory (diskAfter calls) (activeFile role) = false :=
    placed.not_directory apart fun other listed => apart.files other listed role own
  rw [← entries]
  exact shelf.get_eq lawful opens (entries ▸ written_of_addedFor clean)

/-- The classes of the pattern on ASCII texts. -/
def asciiClasses : CharClasses where
  isWord char := char.isAlphanum || char == '_'
  decimal? char := if char.isDigit then some (char.toNat - 48) else none

theorem asciiClasses_lawful : asciiClasses.Lawful where
  letters char lower := by
    have alphanumeric : char.isAlphanum = true := by
      change (char.isUpper || char.isLower || char.isDigit) = true
      rw [lower, Bool.or_true, Bool.true_or]
    simp [asciiClasses, alphanumeric]
  digits := by decide
  notWord := by decide
  notDecimal := by decide

def sampleStamp : Stamp where
  text := "2026-04-12T09:00".toList
  filled := by decide
  noClosing := by decide
  noReturn := by decide

def sampleCall (role : Option String) (type content day : String) : AddCall :=
  ⟨role.map String.toList, type.toList, content.toList, sampleStamp, day.toList, day.toList⟩

def sampleCalls : List AddCall :=
  [sampleCall none "decision" "use sqlite\nfor state" "2026-04-10",
    sampleCall (some "dev") "fix" "retry" "2026-04-10",
    sampleCall none "pattern" "  small steps " "2026-04-12"]

theorem sample_added :
    get asciiClasses (diskAfter sampleCalls) none =
      some ((addedFor none sampleCalls).map readBack) := by
  refine get_added asciiClasses_lawful ⟨?_, ?_, ?_⟩ ⟨?_, ?_, ?_, ?_⟩ ?_
  · decide +kernel
  · decide +kernel
  · decide +kernel
  · have plain : ∀ role ∈ none :: sampleCalls.map AddCall.role,
        '/' ∉ nameOf role ∧ nameOf role ≠ [] ∧ nameOf role ≠ ['.'] ∧ nameOf role ≠ ['.', '.'] := by
      decide +kernel
    exact fun role member =>
      have facts := plain role member
      ⟨facts.1, facts.2.1, facts.2.2.1, facts.2.2.2⟩
  · decide +kernel
  · decide +kernel
  · decide +kernel
  · have clean : ∀ call ∈ sampleCalls, ¬ marker <:+: call.content ∧ '\r' ∉ call.content := by
      decide +kernel
    exact fun call member => ⟨(clean call member).1, (clean call member).2⟩

/-- A content that holds the comment of an entry of its own. -/
def forgedCalls : List AddCall :=
  [sampleCall none "decision"
    "plan\n<!-- type: fix; max_days: 7; last_updated: now -->\n## forged\ndone" "2026-04-10"]

def sharedCalls : List AddCall := [sampleCall none "fix" "retry" "2026-04-10"]

/-- The one entry that holds a comment is read as two, and the role `shared` reads what was
added for no role. -/
theorem entries_split_and_shared :
    get asciiClasses (diskAfter forgedCalls) none ≠
        some ((addedFor none forgedCalls).map readBack) ∧
      get asciiClasses (diskAfter sharedCalls) (some "shared".toList) ≠
        some ((addedFor (some "shared".toList) sharedCalls).map readBack) := by
  have forged : (get asciiClasses (diskAfter forgedCalls) none).map List.length = some 2 ∧
      (addedFor none forgedCalls).length = 1 := by decide +kernel
  have shared : (get asciiClasses (diskAfter sharedCalls) (some "shared".toList)).map
      List.length = some 1 ∧ (addedFor (some "shared".toList) sharedCalls).length = 0 := by
    decide +kernel
  constructor
  · intro same
    rw [same, Option.map_some, List.length_map, forged.2] at forged
    exact absurd forged.1 (by decide)
  · intro same
    rw [same, Option.map_some, List.length_map, shared.2] at shared
    exact absurd shared.1 (by decide)

end ZaofuFormal.Memory
