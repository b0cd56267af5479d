import Mathlib.Data.Nat.Find
import ZaofuFormal.Foundation.Fnmatch
import ZaofuFormal.Foundation.PosixPath
import ZaofuFormal.Foundation.PyString

/-!
# The write-scope gate of task refs

A task ref is refused when its commit changes files outside the paths that the
task's contract allows.  Changed files and allowed paths pass through one
normaliser, which also recognises references that are no files; a file is
looked up with and without its first component, and when every file fails, once
more below each leading directory that all files share.
-/

namespace ZaofuFormal.Refs.WriteScope

open Foundation Foundation.PosixPath

abbrev Path := List Char

/-! ## The normaliser -/

def nonFileEvidenceRefPrefixes : List String :=
  ["git:", "branch:", "commit:", "briefing:", "event:", "task:", "trace:", "dispatch:"]

def eventRefPrefixes : List String := ["arch.proposal.done:", "dev.build.done:", "review."]

def startsWithAny (stems : List String) (text : Path) : Bool :=
  stems.any fun stem => stem.toList.isPrefixOf text

/-- `_normalize_artifact_path`; the empty text stands for what is no path of the repository. -/
def normalizeArtifactPath (value : Path) : Path :=
  let text := PyString.stripChars value
  if text = [] then []
  else if startsWithAny nonFileEvidenceRefPrefixes text then []
  else if isAbsolute text ∨ "..".toList ∈ parts text then []
  else if startsWithAny eventRefPrefixes text then []
  else asPosix text

/-! ## The gate -/

/-- One allowed path holds one spelling of the file. -/
def allows (allowed : Path) (candidate : Path) : Bool :=
  let directory := allowed.rdropWhile (· == '/')
  candidate == allowed || Fnmatch.fnmatch candidate allowed ||
    (directory ≠ [] && (directory ++ ['/']).isPrefixOf candidate)

/-- `_path_allowed_by_scope`. -/
def pathAllowedByScope (path : Path) (scope : List Path) : Bool :=
  let normalized := normalizeArtifactPath path
  if normalized = [] then true
  else
    let candidates := normalized :: (afterSlash normalized).toList
    scope.any fun rawAllowed =>
      let allowed := normalizeArtifactPath rawAllowed
      if allowed = [] then false
      else if allowed = "*".toList ∨ allowed = "**".toList then true
      else candidates.any (allows allowed)

def tryDepths (split : List (List Path)) (scope : List Path) : List Nat → Bool
  | [] => false
  | depth :: rest =>
      let head := (split.headD []).take depth
      if split.tail.any fun components => components.take depth ≠ head then false
      else if split.all fun components =>
        pathAllowedByScope (joined (components.drop depth)) scope then true
      else tryDepths split scope rest

/-- `_scope_matches_under_common_root`. -/
def scopeMatchesUnderCommonRoot (paths scope : List Path) : Bool :=
  if paths = [] ∨ scope = [] then false
  else
    let split := paths.map fun path => path.splitOn '/'
    let common := ((split.map List.length).min?).getD 0 - 1
    tryDepths split scope (List.range' 1 common)

structure Rejection where
  reason : String
  scope : List Path
  changedFiles : List Path
  outOfScopeFiles : List Path
deriving DecidableEq

/-- `_reject_out_of_scope_paths` with the allowed paths of the contract. -/
def rejectOutOfScopePaths (changedFiles allowed : List Path) : Option Rejection :=
  if allowed = [] then none
  else
    let normalized := (changedFiles.map normalizeArtifactPath).filter (· ≠ [])
    if normalized = [] then none
    else
      let outOfScope := normalized.filter fun path => !pathAllowedByScope path allowed
      if outOfScope = [] then none
      else if outOfScope.length = normalized.length ∧
          scopeMatchesUnderCommonRoot normalized allowed then none
      else
        some ⟨"source_commit changes outside task contract scope", allowed, normalized, outOfScope⟩

/-! ## What acceptance should mean -/

/-- The directory lies at the start of the components, or one component later. -/
def Holds (directory components : List Path) : Prop :=
  directory <+: components ∨ directory <+: components.tail

/-- Below one leading directory that all changed files share, every one of them is in an
allowed path, up to one further component. -/
def Covered (changed allowed : List Path) : Prop :=
  ∃ root : List Path,
    (∀ path ∈ changed, root <+: parts path ∧ (root = [] ∨ root.length < (parts path).length)) ∧
    ∀ path ∈ changed, ∃ scope ∈ allowed,
      Holds (parts (PyString.stripChars scope)) ((parts path).drop root.length)

/-- A path of the repository. -/
structure Relative (path : Path) : Prop where
  nonempty : path ≠ []
  notAbsolute : isAbsolute path = false
  noParent : "..".toList ∉ parts path

/-- A name that the normaliser takes for something else or reads without its blanks. -/
def guarded (part : Path) : Bool :=
  startsWithAny (nonFileEvidenceRefPrefixes ++ eventRefPrefixes) part ||
    part.head?.any PyString.isSpace

/-- The components lie in an allowed path that the normaliser keeps. -/
def InScope (allowed : List Path) (components : List Path) : Prop :=
  ∃ scope ∈ allowed, normalizeArtifactPath scope ≠ [] ∧ parts (PyString.stripChars scope) ≠ [] ∧
    Holds (parts (PyString.stripChars scope)) components

/-- Below the directory the file starts with a guarded name. -/
def guardedBelow (root : List Path) (path : Path) : Bool :=
  ((parts path).drop root.length).head?.any guarded

/-- Below the directory the file is looked up by its name, and lies in no allowed path. -/
def OutOfScope (allowed : List Path) (root : List Path) (path : Path) : Prop :=
  guardedBelow root path = false ∧ ¬ InScope allowed ((parts path).drop root.length)

/-- The gate gets to a directory that all changed files share when no file is in scope as it
stands and some file is out of scope below every shorter one. -/
structure Reached (changed allowed : List Path) (root : List Path) : Prop where
  shared : ∀ path ∈ changed, root <+: parts path ∧ root.length < (parts path).length
  outside : ∀ path ∈ changed, ¬ InScope allowed (parts path)
  shorter : ∀ start, start ≠ [] → start <+: root → start ≠ root →
    ∃ path ∈ changed, OutOfScope allowed start path

/-- No changed file starts with a guarded name, neither as it stands nor below a directory to
which the gate gets and where every other file is in scope; and none ends in a blank. -/
structure Plain (changed allowed : List Path) : Prop where
  first : ∀ path ∈ changed, guardedBelow [] path = false
  below : ∀ root, root ≠ [] → Reached changed allowed root →
    (∃ path ∈ changed, guardedBelow root path = true) →
      ∃ path ∈ changed, OutOfScope allowed root path
  last : ∀ path ∈ changed, ∀ part, (parts path).getLast? = some part →
    part.getLast?.any PyString.isSpace = false

/-! ## The normaliser on plain paths -/

theorem stems_shape : ∀ stem ∈ nonFileEvidenceRefPrefixes ++ eventRefPrefixes,
    '/' ∉ stem.toList ∧ stem.toList ≠ [] ∧ stem.toList.head? ≠ some '.' := by
  decide

variable {text : Path}

/-- A text that starts like a reference has a guarded first component. -/
theorem not_startsWithAny
    (first : ∀ part, (parts text).head? = some part → guarded part = false) {stems : List String}
    (known : ∀ stem ∈ stems, stem ∈ nonFileEvidenceRefPrefixes ++ eventRefPrefixes) :
    startsWithAny stems text = false := by
  by_contra starts
  rw [Bool.not_eq_false, startsWithAny, List.any_eq_true] at starts
  obtain ⟨stem, listed, stemStarts⟩ := starts
  obtain ⟨noSlash, nonempty, notDot⟩ := stems_shape stem (known stem listed)
  obtain ⟨part, head, starts⟩ :=
    head?_parts_of_start (List.isPrefixOf_iff_prefix.mp stemStarts) noSlash nonempty notDot
  have free := first part head
  rw [guarded, Bool.or_eq_false_iff] at free
  have taken : startsWithAny (nonFileEvidenceRefPrefixes ++ eventRefPrefixes) part = true :=
    List.any_eq_true.mpr ⟨stem, known stem listed, List.isPrefixOf_iff_prefix.mpr starts⟩
  rw [taken] at free
  cases free.1

theorem head?_of_plain (first : ∀ part, (parts text).head? = some part → guarded part = false) :
    text.head?.any PyString.isSpace = false := by
  cases text with
  | nil => rfl
  | cons char rest =>
      by_contra space
      have space : PyString.isSpace char = true := by simpa using space
      have special : PyString.isSpace '/' = false ∧ PyString.isSpace '.' = false := by decide
      have notSlash : '/' ∉ [char] := by
        rw [List.mem_singleton]
        rintro rfl
        rw [space] at special
        cases special.1
      have notDot : [char].head? ≠ some '.' := by
        intro same
        rw [Option.some.inj same, special.2] at space
        cases space
      obtain ⟨part, head, starts⟩ := head?_parts_of_start
        (show [char] <+: char :: rest from List.prefix_append [char] rest) notSlash
        (List.cons_ne_nil char []) notDot
      obtain ⟨tail, rfl⟩ := starts
      have free := first _ head
      rw [guarded, Bool.or_eq_false_iff] at free
      have blank : PyString.isSpace char = false := by simpa using free.2
      rw [space] at blank
      cases blank

theorem getLast?_of_plain (last : ∀ part, (parts text).getLast? = some part →
      part.getLast?.any PyString.isSpace = false) :
    text.getLast?.any PyString.isSpace = false := by
  cases ends : text.getLast? with
  | none => rfl
  | some char =>
      by_contra space
      have space : PyString.isSpace char = true := by simpa using space
      have special : PyString.isSpace '/' = false ∧ PyString.isSpace '.' = false := by decide
      have notSlash : char ≠ '/' := by
        rintro rfl
        rw [special.1] at space
        cases space
      have notDot : char ≠ '.' := by
        rintro rfl
        rw [special.2] at space
        cases space
      obtain ⟨part, final, tail⟩ := getLast?_parts ends notSlash notDot
      have free := last part final
      rw [tail] at free
      have blank : PyString.isSpace char = false := by simpa using free
      rw [space] at blank
      cases blank

/-- The normaliser gives a plain path its canonical spelling. -/
theorem normalize_of_plain (relative : Relative text)
    (first : ∀ part, (parts text).head? = some part → guarded part = false)
    (last : ∀ part, (parts text).getLast? = some part →
      part.getLast?.any PyString.isSpace = false) :
    normalizeArtifactPath text = asPosix text := by
  have stripped : PyString.stripChars text = text :=
    PyString.stripChars_eq_self (head?_of_plain first) (getLast?_of_plain last)
  have files := not_startsWithAny first fun stem member => List.mem_append_left eventRefPrefixes member
  have events := not_startsWithAny first fun stem member =>
    List.mem_append_right nonFileEvidenceRefPrefixes member
  have inside : ¬(isAbsolute text = true ∨ "..".toList ∈ parts text) := by
    rintro (absolute | parent)
    · rw [relative.notAbsolute] at absolute
      cases absolute
    · exact relative.noParent parent
  unfold normalizeArtifactPath
  dsimp only
  rw [stripped, if_neg relative.nonempty, if_neg (by rw [files]; decide), if_neg inside,
    if_neg (by rw [events]; decide)]

/-- What the normaliser keeps is a canonical spelling. -/
theorem normalize_eq {value : Path} (kept : normalizeArtifactPath value ≠ []) :
    normalizeArtifactPath value = asPosix (PyString.stripChars value) := by
  unfold normalizeArtifactPath at kept ⊢
  dsimp only at kept ⊢
  by_cases empty : PyString.stripChars value = []
  · rw [if_pos empty] at kept
    exact absurd rfl kept
  · rw [if_neg empty] at kept ⊢
    by_cases reference : startsWithAny nonFileEvidenceRefPrefixes (PyString.stripChars value) = true
    · rw [if_pos reference] at kept
      exact absurd rfl kept
    · rw [if_neg reference] at kept ⊢
      by_cases outside : isAbsolute (PyString.stripChars value) = true ∨
          "..".toList ∈ parts (PyString.stripChars value)
      · rw [if_pos outside] at kept
        exact absurd rfl kept
      · rw [if_neg outside] at kept ⊢
        by_cases event : startsWithAny eventRefPrefixes (PyString.stripChars value) = true
        · rw [if_pos event] at kept
          exact absurd rfl kept
        · rw [if_neg event]

/-! ## What one check accepts -/

theorem plain_joined_of_plain {components : List Path}
    (plain : ∀ part ∈ components, ∀ char ∈ part, Fnmatch.isGlob char = false) :
    ∀ char ∈ joined components, Fnmatch.isGlob char = false := by
  have slash : ∀ char ∈ ['/'], Fnmatch.isGlob char = false :=
    List.forall_mem_singleton.mpr rfl
  exact Lists.forall_mem_intercalate slash plain

theorem rdropWhile_joined {components : List Path}
    (clean : ∀ part ∈ components, Component part) :
    (joined components).rdropWhile (· == '/') = joined components := by
  rcases List.eq_nil_or_concat components with rfl | ⟨initial, last, rfl⟩
  · rfl
  · rw [List.concat_eq_append] at clean ⊢
    have component := clean last (by simp)
    have ends := getLast?_joined initial component.nonempty
    rw [List.rdropWhile_eq_self_iff]
    intro nonempty slash
    rw [List.getLast?_eq_some_getLast nonempty,
      List.getLast?_eq_some_getLast component.nonempty] at ends
    rw [Option.some.inj ends] at slash
    apply component.noSlash
    rw [← beq_iff_eq.mp slash]
    exact List.getLast_mem component.nonempty

/-- An allowed path without patterns holds itself and what lies below it. -/
theorem allows_joined {directory components : List Path}
    (directoryClean : ∀ part ∈ directory, Component part)
    (clean : ∀ part ∈ components, Component part) (nonempty : directory ≠ [])
    (plain : ∀ part ∈ directory, ∀ char ∈ part, Fnmatch.isGlob char = false) :
    allows (joined directory) (joined components) = true ↔ directory <+: components := by
  unfold allows
  dsimp only
  rw [rdropWhile_joined directoryClean, Fnmatch.fnmatch_of_plain (plain_joined_of_plain plain),
    Bool.or_self, Bool.or_eq_true, Bool.and_eq_true, beq_iff_eq, decide_eq_true_iff,
    List.isPrefixOf_iff_prefix]
  constructor
  · rintro (same | ⟨_, below⟩)
    · rw [joined_injective clean directoryClean same]
    · exact isPrefix_of_joined directoryClean clean nonempty below
  · rintro ⟨rest, rfl⟩
    cases rest with
    | nil => exact Or.inl (by rw [List.append_nil])
    | cons first rest =>
        refine Or.inr ⟨joined_ne_nil directoryClean nonempty, joined (first :: rest), ?_⟩
        rw [joined_append nonempty (List.cons_ne_nil first rest), List.append_assoc,
          List.singleton_append]

/-- No path lies in the directory that is spelled by a dot. -/
theorem allows_dot {components : List Path} (clean : ∀ part ∈ components, Component part)
    (nonempty : components ≠ []) : allows ['.'] (joined components) = false := by
  have literal : ∀ char ∈ ['.'], Fnmatch.isGlob char = false :=
    List.forall_mem_singleton.mpr rfl
  have bare : (['.'] : Path).rdropWhile (· == '/') = ['.'] := rfl
  rw [allows, bare, Fnmatch.fnmatch_of_plain literal, Bool.or_self, Bool.or_eq_false_iff,
    Bool.and_eq_false_iff]
  refine ⟨beq_eq_false_iff_ne.mpr (joined_ne_dot clean), Or.inr (Bool.eq_false_iff.mpr ?_)⟩
  intro below
  obtain ⟨rest, shape⟩ := List.isPrefixOf_iff_prefix.mp below
  have listed : ['.'] ∈ components := by
    have first : (['.'] ++ '/' :: rest).splitOn '/' = [['.']] ++ rest.splitOn '/' :=
      List.splitOn_append_cons_self ['.'] rest
    rw [← splitOn_joined clean nonempty, ← shape]
    exact first ▸ List.mem_append_left _ (List.mem_singleton_self _)
  exact (clean _ listed).notDot rfl

/-- An allowed path that the normaliser keeps is the repository itself, or a plain directory. -/
theorem normalize_cases {raw : Path} (globFree : ∀ char ∈ raw, Fnmatch.isGlob char = false)
    (kept : normalizeArtifactPath raw ≠ []) :
    let directory := parts (PyString.stripChars raw)
    directory = [] ∧ normalizeArtifactPath raw = ['.'] ∨
      directory ≠ [] ∧ (∀ part ∈ directory, Component part) ∧
        (∀ part ∈ directory, ∀ char ∈ part, Fnmatch.isGlob char = false) ∧
          normalizeArtifactPath raw = joined directory := by
  dsimp only
  rw [normalize_eq kept, asPosix]
  by_cases root : parts (PyString.stripChars raw) = []
  · exact Or.inl ⟨root, if_pos root⟩
  · exact Or.inr ⟨root, fun _ => component_of_mem_parts, fun part member char inside =>
      globFree char (PyString.mem_of_mem_stripChars (mem_of_mem_parts member inside)),
      if_neg root⟩

theorem not_star {directory : List Path}
    (plain : ∀ part ∈ directory, ∀ char ∈ part, Fnmatch.isGlob char = false) :
    ¬(joined directory = "*".toList ∨ joined directory = "**".toList) := by
  have star : '*' ∉ joined directory := fun inside =>
    absurd (plain_joined_of_plain plain '*' inside) (by decide)
  rintro (same | same) <;> exact star (same ▸ by decide)

theorem dot_not_star : ¬ ((['.'] : Path) = "*".toList ∨ (['.'] : Path) = "**".toList) := by
  decide

section Check

variable {components : List Path} (clean : ∀ part ∈ components, Component part)

include clean

/-- What the candidates of a path are looked up for, in one allowed path. -/
theorem any_candidates (allowed : Path) :
    ((joined components :: (afterSlash (joined components)).toList).any (allows allowed)) = true ↔
      allows allowed (joined components) = true ∨
        components.tail ≠ [] ∧ allows allowed (joined components.tail) = true := by
  rw [List.any_cons, Bool.or_eq_true, afterSlash_joined clean]
  by_cases short : components.tail = [] <;> simp [short]

/-- A path that keeps its spelling passes the check just when it lies in an allowed path, up to
its first component. -/
theorem pathAllowed_iff {scope : List Path} (nonempty : components ≠ [])
    (normal : normalizeArtifactPath (joined components) = joined components)
    (globFree : ∀ allowed ∈ scope, ∀ char ∈ allowed, Fnmatch.isGlob char = false) :
    pathAllowedByScope (joined components) scope = true ↔ InScope scope components := by
  unfold pathAllowedByScope InScope
  dsimp only
  rw [normal, if_neg (joined_ne_nil clean nonempty), List.any_eq_true]
  refine exists_congr fun raw => and_congr_right fun listed => ?_
  by_cases kept : normalizeArtifactPath raw = []
  · rw [if_pos kept]
    exact ⟨nofun, fun both => absurd kept both.1⟩
  have cleanTail : ∀ part ∈ components.tail, Component part := fun part member =>
    clean part (List.mem_of_mem_tail member)
  rw [if_neg kept]
  rcases normalize_cases (globFree raw listed) kept with
    ⟨root, spelled⟩ | ⟨root, directoryClean, literal, spelled⟩
  · rw [spelled, if_neg dot_not_star, any_candidates clean, allows_dot clean nonempty]
    refine ⟨?_, fun both => absurd root both.2.1⟩
    rintro (impossible | ⟨more, impossible⟩)
    · cases impossible
    · rw [allows_dot cleanTail more] at impossible
      cases impossible
  · rw [spelled, if_neg (not_star literal), any_candidates clean,
      allows_joined directoryClean clean root literal,
      allows_joined directoryClean cleanTail root literal]
    refine ⟨fun found => ⟨joined_ne_nil directoryClean root, root, found.imp_right And.right⟩, ?_⟩
    rintro ⟨_, _, here | later⟩
    · exact Or.inl here
    · exact Or.inr ⟨fun short => root (List.prefix_nil.mp (short ▸ later)), later⟩

end Check

/-- Only the repository itself contains the path that is spelled by a dot. -/
theorem root_of_pathAllowed_dot {scope : List Path}
    (globFree : ∀ allowed ∈ scope, ∀ char ∈ allowed, Fnmatch.isGlob char = false)
    (passed : pathAllowedByScope ['.'] scope = true) :
    ∃ allowed ∈ scope, parts (PyString.stripChars allowed) = [] := by
  have normal : normalizeArtifactPath ['.'] = ['.'] := by decide +kernel
  have alone : afterSlash ['.'] = none := by decide
  unfold pathAllowedByScope at passed
  dsimp only at passed
  rw [normal, if_neg (List.cons_ne_nil _ _), alone, List.any_eq_true] at passed
  obtain ⟨raw, listed, passed⟩ := passed
  refine ⟨raw, listed, ?_⟩
  by_cases kept : normalizeArtifactPath raw = []
  · rw [if_pos kept] at passed
    cases passed
  rcases normalize_cases (globFree raw listed) kept with
    ⟨root, _⟩ | ⟨root, directoryClean, literal, spelled⟩
  · exact root
  · rw [if_neg kept, spelled, if_neg (not_star literal)] at passed
    have found : allows (joined (parts (PyString.stripChars raw))) ['.'] = true := by
      simpa using passed
    have long := List.length_pos_iff.mpr (joined_ne_nil directoryClean root)
    unfold allows at found
    dsimp only at found
    rw [rdropWhile_joined directoryClean, Fnmatch.fnmatch_of_plain (plain_joined_of_plain literal),
      Bool.or_self, Bool.or_eq_true, Bool.and_eq_true, beq_iff_eq,
      List.isPrefixOf_iff_prefix] at found
    rcases found with same | ⟨_, below⟩
    · exact absurd same.symm (joined_ne_dot directoryClean)
    · have short := below.length_le
      rw [List.length_append, List.length_singleton, List.length_singleton] at short
      omega

/-! ## What the gate accepts -/

theorem tryDepths_true {split : List (List Path)} {scope : List Path} {depths : List Nat}
    (found : tryDepths split scope depths = true) :
    ∃ depth ∈ depths, (∀ components ∈ split,
        components.take depth = (split.headD []).take depth) ∧
      ∀ components ∈ split, pathAllowedByScope (joined (components.drop depth)) scope = true := by
  induction depths with
  | nil => cases found
  | cons depth rest ih =>
      rw [tryDepths] at found
      split at found
      · cases found
      · rename_i shared
        split at found
        · rename_i passed
          refine ⟨depth, List.mem_cons_self, ?_, List.all_eq_true.mp passed⟩
          intro components member
          cases split with
          | nil => cases member
          | cons first others =>
              rcases List.mem_cons.mp member with rfl | later
              · rfl
              · by_contra different
                apply shared
                exact List.any_eq_true.mpr ⟨components, later, decide_eq_true different⟩
        · obtain ⟨other, member, holds⟩ := ih found
          exact ⟨other, List.mem_cons_of_mem depth member, holds⟩

/-- The gate looks below a leading directory that is shorter than every path. -/
theorem depth_lt_of_mem {split : List (List Path)} {depth : Nat}
    (member : depth ∈ List.range' 1 (((split.map List.length).min?).getD 0 - 1)) :
    ∀ components ∈ split, depth < components.length := by
  intro components listed
  have some : (split.map List.length) ≠ [] := by
    intro empty
    rw [List.map_eq_nil_iff.mp empty] at listed
    cases listed
  obtain ⟨least, isLeast⟩ := Option.isSome_iff_exists.mp (List.isSome_min?_iff.mpr some)
  have bound : least ≤ components.length :=
    (List.min?_eq_some_iff.mp isLeast).2 _ (List.mem_map_of_mem listed)
  rw [isLeast, Option.getD_some, List.mem_range'_1] at member
  omega

section Gate

variable {changed allowed : List Path} (plain : Plain changed allowed)
  (relative : ∀ path ∈ changed, Relative path)

include plain relative

/-- A changed file keeps its spelling. -/
theorem Plain.normal {path : Path} (member : path ∈ changed) :
    normalizeArtifactPath path = asPosix path ∧
      normalizeArtifactPath (asPosix path) = asPosix path := by
  have first : ∀ part, (parts path).head? = some part → guarded part = false := by
    intro part head
    have free := plain.first path member
    rwa [guardedBelow, List.length_nil, List.drop_zero, head, Option.any_some] at free
  have last := plain.last path member
  refine ⟨normalize_of_plain (relative path member) first last, ?_⟩
  have again := @normalize_of_plain (asPosix path)
    ⟨asPosix_ne_nil path, not_isAbsolute_asPosix path, by
      rw [parts_asPosix]
      exact (relative path member).noParent⟩
    (by rw [parts_asPosix]; exact first) (by rw [parts_asPosix]; exact last)
  rw [again, asPosix_asPosix]

/-- Below a directory a file passes just when it is in scope, if its name is not guarded. -/
theorem Plain.pathAllowed_iff
    (globFree : ∀ path ∈ allowed, ∀ char ∈ path, Fnmatch.isGlob char = false)
    {root : List Path} {path : Path} (member : path ∈ changed)
    (short : root.length < (parts path).length) (free : guardedBelow root path = false) :
    pathAllowedByScope (joined ((parts path).drop root.length)) allowed = true ↔
      InScope allowed ((parts path).drop root.length) := by
  have clean : ∀ part ∈ (parts path).drop root.length, Component part := fun part inside =>
    component_of_mem_parts (List.mem_of_mem_drop inside)
  have nonempty : (parts path).drop root.length ≠ [] := fun empty =>
    absurd (List.drop_eq_nil_iff.mp empty) (not_le.mpr short)
  have same := parts_joined clean
  refine WriteScope.pathAllowed_iff clean nonempty ?_ globFree
  have normal := @normalize_of_plain (joined ((parts path).drop root.length))
    ⟨joined_ne_nil clean nonempty, not_isAbsolute_joined clean, by
      rw [same]
      exact fun inside => (relative path member).noParent (List.mem_of_mem_drop inside)⟩
    (by
      rw [same]
      intro part head
      rwa [guardedBelow, head, Option.any_some] at free)
    (by
      rw [same]
      intro part final
      apply plain.last path member part
      rw [← List.take_append_drop root.length (parts path), List.getLast?_append, final]
      rfl)
  rw [normal, asPosix, same, if_neg nonempty]

/-- Where the gate gets to a directory and some file fails, some file is out of scope. -/
theorem Plain.outOfScope
    (globFree : ∀ path ∈ allowed, ∀ char ∈ path, Fnmatch.isGlob char = false)
    {root : List Path} (some : root ≠ []) (reached : Reached changed allowed root)
    (fails : ∃ path ∈ changed,
      pathAllowedByScope (joined ((parts path).drop root.length)) allowed ≠ true) :
    ∃ path ∈ changed, OutOfScope allowed root path := by
  by_cases exempted : ∃ path ∈ changed, guardedBelow root path = true
  · exact plain.below root some reached exempted
  · obtain ⟨path, member, failed⟩ := fails
    have free : guardedBelow root path = false :=
      Bool.eq_false_iff.mpr fun named => exempted ⟨path, member, named⟩
    have looked := plain.pathAllowed_iff relative globFree member (reached.shared path member).2 free
    exact ⟨path, member, free, fun inside => failed (looked.mpr inside)⟩

/-- Where smaller depths and the files as they stand fail, the gate gets to a directory. -/
theorem Plain.reached
    (globFree : ∀ path ∈ allowed, ∀ char ∈ path, Fnmatch.isGlob char = false)
    {root : List Path}
    (shared : ∀ path ∈ changed, root <+: parts path ∧ root.length < (parts path).length)
    (outside : ∀ path ∈ changed, ¬ InScope allowed (parts path))
    (failed : ∀ depth, 0 < depth → depth < root.length → ∃ path ∈ changed,
      pathAllowedByScope (joined ((parts path).drop depth)) allowed ≠ true)
    {start : List Path} (below : start <+: root) : Reached changed allowed start := by
  induction length : start.length using Nat.strong_induction_on generalizing start with
  | _ length ih =>
      subst length
      have lower : ∀ path ∈ changed, start <+: parts path ∧ start.length < (parts path).length :=
        fun path member => ⟨below.trans (shared path member).1,
          below.length_le.trans_lt (shared path member).2⟩
      refine ⟨lower, outside, fun shorter some under proper => ?_⟩
      have less : shorter.length < start.length :=
        lt_of_le_of_ne under.length_le fun same => proper (under.eq_of_length same)
      exact plain.outOfScope relative globFree some (ih _ less (under.trans below) rfl)
        (failed _ (List.length_pos_iff.mpr some) (less.trans_le below.length_le))

/-- Where every file passes, they are in scope. -/
theorem Plain.inScope
    (globFree : ∀ path ∈ allowed, ∀ char ∈ path, Fnmatch.isGlob char = false)
    {root : List Path} (some : root ≠ []) (reached : Reached changed allowed root)
    (passed : ∀ path ∈ changed,
      pathAllowedByScope (joined ((parts path).drop root.length)) allowed = true) :
    ∀ path ∈ changed, InScope allowed ((parts path).drop root.length) := by
  have looked := fun path member =>
    plain.pathAllowed_iff relative globFree member (reached.shared path member).2
  have free : ∀ path ∈ changed, guardedBelow root path = false := by
    refine fun path member => Bool.eq_false_iff.mpr fun named => ?_
    obtain ⟨other, listed, unguarded, outside⟩ := plain.below root some reached ⟨path, member, named⟩
    exact outside ((looked other listed unguarded).mp (passed other listed))
  exact fun path member => (looked path member (free path member)).mp (passed path member)

end Gate

theorem splitOn_asPosix (nonempty : parts text ≠ []) : (asPosix text).splitOn '/' = parts text := by
  rw [asPosix, if_neg nonempty]
  exact splitOn_joined (fun _ => component_of_mem_parts) nonempty

/-- A file passes as it stands when it is in scope. -/
theorem Plain.pathAllowed {changed allowed : List Path} (plain : Plain changed allowed)
    (relative : ∀ path ∈ changed, Relative path)
    (globFree : ∀ path ∈ allowed, ∀ char ∈ path, Fnmatch.isGlob char = false) {path : Path}
    (member : path ∈ changed) (nonempty : parts path ≠ []) :
    pathAllowedByScope (asPosix path) allowed = true ↔ InScope allowed (parts path) := by
  have looked := @Plain.pathAllowed_iff changed allowed plain relative globFree [] path member
    (List.length_pos_iff.mpr nonempty) (plain.first path member)
  rw [List.length_nil, List.drop_zero] at looked
  rwa [asPosix, if_neg nonempty]

/-- The gate accepts when every file passes, or when none does and all pass below a directory
that they share. -/
theorem accepted_cases {changed allowed : List Path} (someChanged : changed ≠ [])
    (someAllowed : allowed ≠ []) (normal : ∀ path ∈ changed, normalizeArtifactPath path =
      asPosix path) (accepted : rejectOutOfScopePaths changed allowed = none) :
    (∀ path ∈ changed, pathAllowedByScope (asPosix path) allowed = true) ∨
      (∀ path ∈ changed, pathAllowedByScope (asPosix path) allowed ≠ true) ∧
        scopeMatchesUnderCommonRoot (changed.map asPosix) allowed = true := by
  have normalized : (changed.map normalizeArtifactPath).filter (· ≠ []) =
      changed.map asPosix := by
    rw [List.map_congr_left normal, List.filter_eq_self]
    intro text listed
    obtain ⟨path, _, rfl⟩ := List.mem_map.mp listed
    exact decide_eq_true (asPosix_ne_nil path)
  unfold rejectOutOfScopePaths at accepted
  dsimp only at accepted
  rw [if_neg someAllowed, normalized, if_neg (by simpa using someChanged)] at accepted
  split at accepted
  · rename_i inScope
    refine Or.inl fun path member => ?_
    have kept := List.filter_eq_nil_iff.mp inScope _ (List.mem_map_of_mem member)
    simpa using kept
  · split at accepted
    · rename_i matched
      refine Or.inr ⟨fun path member passed => ?_, matched.2⟩
      have all := List.length_filter_eq_length_iff.mp matched.1 _ (List.mem_map_of_mem member)
      simp [passed] at all
    · cases accepted

/-- Acceptance below a shared directory: the shortest one where every file passes. -/
theorem shared_of_matched {changed allowed : List Path} (someChanged : changed ≠ [])
    (someAllowed : allowed ≠ [])
    (matched : scopeMatchesUnderCommonRoot (changed.map asPosix) allowed = true) :
    ∃ root, root ≠ [] ∧
      (∀ path ∈ changed, root <+: parts path ∧ root.length < (parts path).length) ∧
      (∀ path ∈ changed,
        pathAllowedByScope (joined ((parts path).drop root.length)) allowed = true) ∧
      ∀ depth, 0 < depth → depth < root.length → ∃ path ∈ changed,
        pathAllowedByScope (joined ((parts path).drop depth)) allowed ≠ true := by
  classical
  unfold scopeMatchesUnderCommonRoot at matched
  rw [if_neg (by simp [someChanged, someAllowed])] at matched
  obtain ⟨depth, inRange, shared, passed⟩ := tryDepths_true matched
  have deep := depth_lt_of_mem inRange
  have positive : 0 < depth := (List.mem_range'_1.mp inRange).1
  have shape : ∀ path ∈ changed, (asPosix path).splitOn '/' = parts path := by
    intro path member
    apply splitOn_asPosix
    intro empty
    have long := deep _ (List.mem_map_of_mem (List.mem_map_of_mem member))
    rw [asPosix, if_pos empty] at long
    have single : (['.'] : Path).splitOn '/' = [['.']] := by decide
    rw [single, List.length_singleton] at long
    omega
  have split : (changed.map asPosix).map (fun path => path.splitOn '/') = changed.map parts := by
    rw [List.map_map]
    exact List.map_congr_left shape
  rw [split] at shared passed deep
  simp only [List.forall_mem_map] at shared passed deep
  have found : ∃ depth, 0 < depth ∧ ∀ path ∈ changed,
      pathAllowedByScope (joined ((parts path).drop depth)) allowed = true :=
    ⟨depth, positive, passed⟩
  have short : Nat.find found ≤ depth := Nat.find_min' found ⟨positive, passed⟩
  have spec := Nat.find_spec found
  have minimal := fun less => @Nat.find_min _ _ found less
  generalize Nat.find found = least at short spec minimal
  have same : ∀ path ∈ changed, ((changed.map parts).headD []).take least =
      (parts path).take least := fun path member => by
    rw [← min_eq_left short, ← List.take_take, ← shared path member, List.take_take]
  have length : ∀ path ∈ changed, (((changed.map parts).headD []).take least).length = least := by
    intro path member
    have long := deep path member
    rw [same path member, List.length_take]
    omega
  obtain ⟨witness, listed⟩ := List.exists_mem_of_ne_nil changed someChanged
  refine ⟨((changed.map parts).headD []).take least, ?_, fun path member => ?_, ?_, ?_⟩
  · intro empty
    have zero := length witness listed
    rw [empty, List.length_nil] at zero
    omega
  · have long := deep path member
    rw [length path member, same path member]
    exact ⟨List.take_prefix _ _, by omega⟩
  · rw [length witness listed]
    exact spec.2
  · intro smaller above below
    rw [length witness listed] at below
    by_contra all
    exact minimal smaller below ⟨above, fun path member => by
      by_contra failed
      exact all ⟨path, member, failed⟩⟩

/-- Acceptance of plain changed files means that they are covered. -/
theorem accepted_covered (changed allowed : List Path) (someChanged : changed ≠ [])
    (someAllowed : allowed ≠ []) (relative : ∀ path ∈ changed, Relative path)
    (globFree : ∀ path ∈ allowed, ∀ char ∈ path, Fnmatch.isGlob char = false)
    (plain : Plain changed allowed) (accepted : rejectOutOfScopePaths changed allowed = none) :
    Covered changed allowed := by
  have covers : ∀ {components : List Path}, InScope allowed components →
      ∃ scope ∈ allowed, Holds (parts (PyString.stripChars scope)) components :=
    fun ⟨scope, listed, _, _, held⟩ => ⟨scope, listed, held⟩
  rcases accepted_cases someChanged someAllowed (fun path member =>
    (plain.normal relative member).1) accepted with passed | ⟨failed, matched⟩
  · -- every file passes as it stands
    refine ⟨[], fun path _ => ⟨List.nil_prefix, Or.inl rfl⟩, fun path member => ?_⟩
    rw [List.length_nil, List.drop_zero]
    by_cases dot : parts path = []
    · have spelled := passed path member
      rw [asPosix, if_pos dot] at spelled
      obtain ⟨scope, listed, root⟩ := root_of_pathAllowed_dot globFree spelled
      exact ⟨scope, listed, Or.inl (root ▸ List.nil_prefix)⟩
    · exact covers ((plain.pathAllowed relative globFree member dot).mp (passed path member))
  · -- every file passes below a shared directory
    obtain ⟨root, some, shared, below, shorter⟩ :=
      shared_of_matched someChanged someAllowed matched
    have outside : ∀ path ∈ changed, ¬ InScope allowed (parts path) := by
      intro path member inside
      have nonempty : parts path ≠ [] := fun empty => by
        have long := (shared path member).2
        rw [empty] at long
        cases long
      exact failed path member ((plain.pathAllowed relative globFree member nonempty).mpr inside)
    have reached := plain.reached relative globFree shared outside shorter List.prefix_rfl
    exact ⟨root, fun path member => ⟨(shared path member).1, Or.inr (shared path member).2⟩,
      fun path member => covers (plain.inScope relative globFree some reached below path member)⟩

/-- A file in a directory that is allowed, whatever its own name. -/
theorem review_in_docs_covered :
    rejectOutOfScopePaths ["docs/review.md".toList] ["docs".toList] = none ∧
      Covered ["docs/review.md".toList] ["docs".toList] := by
  have accepted : rejectOutOfScopePaths ["docs/review.md".toList] ["docs".toList] = none := by
    decide +kernel
  have globFree : ∀ path ∈ ["docs".toList], ∀ char ∈ path, Fnmatch.isGlob char = false :=
    List.forall_mem_singleton.mpr (Lists.forall_mem_of_all (by decide +kernel))
  refine ⟨accepted, accepted_covered _ _ (by simp) (by simp) ?_ globFree ⟨?_, ?_, ?_⟩ accepted⟩
  · intro path member
    rw [List.mem_singleton.mp member]
    exact ⟨by decide +kernel, by decide +kernel, by decide +kernel⟩
  · decide +kernel
  · intro root _ reached
    refine absurd ?_ (reached.outside _ (List.mem_singleton_self _))
    exact ⟨"docs".toList, List.mem_singleton_self _, by decide +kernel, by decide +kernel,
      Or.inl (by decide +kernel)⟩
  · intro path member part final
    rw [List.mem_singleton.mp member] at final
    obtain rfl : "review.md".toList = part := Option.some.inj final
    decide +kernel

/-- A file whose name starts like an event reference passes every scope. -/
theorem review_file_uncovered :
    rejectOutOfScopePaths ["review.md".toList] ["src".toList] = none ∧
      ¬Covered ["review.md".toList] ["src".toList] := by
  refine ⟨by decide +kernel, ?_⟩
  rintro ⟨root, below, inside⟩
  have file : parts "review.md".toList = ["review.md".toList] := by decide +kernel
  have directory : parts (PyString.stripChars "src".toList) = ["src".toList] := by decide +kernel
  obtain ⟨_, short⟩ := below _ List.mem_cons_self
  obtain ⟨scope, listed, holds⟩ := inside _ List.mem_cons_self
  rw [List.mem_singleton.mp listed, file, directory] at holds
  rw [file] at short
  have top : root = [] := by
    rcases short with empty | short
    · exact empty
    · exact List.length_eq_zero_iff.mp (by simpa using short)
  rw [top] at holds
  unfold Holds at holds
  revert holds
  decide +kernel

end ZaofuFormal.Refs.WriteScope
