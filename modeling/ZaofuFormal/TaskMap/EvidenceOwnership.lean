import ZaofuFormal.Foundation.Fnmatch
import ZaofuFormal.TaskMap.ScopeContainment

/-!
# Owners of evidence paths

A producer owns an evidence path when one of its patterns matches it.  Both texts lose all
dots and slashes in front, and not just a leading `./`: what is compared are the names
behind them, and the fronts are forgotten.
-/

namespace ZaofuFormal.TaskMap

open Foundation
open Fnmatch (fnmatch isGlob matchItems items)
open PosixPath (parts isAbsolute Component)

/-- `lstrip("./")`. -/
def stripFront (chars : List Char) : List Char := chars.dropWhile (· ∈ ['.', '/'])

def pathOwned (path pattern : String) : Bool :=
  let normalizedPath := stripFront (PyString.strip path).toList
  let normalizedPattern := stripFront (PyString.strip pattern).toList
  if normalizedPath = [] ∨ normalizedPattern = [] then false
  else
    fnmatch normalizedPath normalizedPattern ||
      normalizedPath == normalizedPattern.rdropWhile (· ∈ ['/']) ||
      (normalizedPattern.rdropWhile (· ∈ ['/', '*']) ++ ['/']).isPrefixOf normalizedPath

theorem matchItems_star (rest : List Fnmatch.Item) (text : List Char) :
    matchItems (.star :: rest) text = text.tails.any (matchItems rest) := by
  cases text <;> rfl

theorem matchItems_stars (text : List Char) : matchItems [.star, .star] text = true := by
  rw [matchItems_star]
  refine List.any_eq_true.mpr ⟨[], (List.mem_tails _ _).mpr (List.nil_suffix), ?_⟩
  rfl

/-- Two stars behind a plain text match what starts with the text. -/
theorem fnmatch_stars {front : List Char} (plain : ∀ char ∈ front, isGlob char = false)
    (text : List Char) :
    fnmatch text (front ++ ['*', '*']) = true ↔ front <+: text := by
  unfold fnmatch
  induction front generalizing text with
  | nil => exact iff_of_true (matchItems_stars text) List.nil_prefix
  | cons char rest ih =>
      have here := plain char List.mem_cons_self
      simp only [isGlob, Bool.or_eq_false_iff, beq_eq_false_iff_ne] at here
      have literal : items ((rest ++ ['*', '*']).length + 1) (char :: (rest ++ ['*', '*'])) =
          .literal char :: items (rest ++ ['*', '*']).length (rest ++ ['*', '*']) := by
        rw [items]
        · exact here.1.1
        · exact here.1.2
        · exact here.2
      rw [List.cons_append, List.length_cons, literal]
      cases text with
      | nil => exact iff_of_false Bool.false_ne_true fun prefixed => by simp at prefixed
      | cons first chars =>
          rw [matchItems, Fnmatch.accepts, Bool.and_eq_true, beq_iff_eq,
            ih (fun other member => plain other (List.mem_cons_of_mem char member)),
            List.cons_prefix_cons]
          · exact and_congr_left fun _ => eq_comm
          · simp

def stars : List Char := ['/', '*', '*']

/-- The base of a pattern without the dots and slashes in front and the slashes behind. -/
def baseNames (base : List Char) : List Char := (stripFront base).rdropWhile (· ∈ ['/'])

/-- Behind the fronts, the path is the base or lies below it; a base of dots and slashes
with two stars behind has every path below it. -/
def NamesReach (path : List Char) (base suffix : List Char) : Prop :=
  stripFront path ≠ [] ∧
    if stripFront base = [] then suffix = stars
    else stripFront path = baseNames base ∧ suffix ≠ stars ∨
      baseNames base ++ ['/'] <+: stripFront path

theorem stripFront_suffix (text : List Char) : stripFront text <:+ text :=
  List.dropWhile_suffix _

variable {base text suffix : List Char} {rest : List (List Char)}

theorem stripFront_append (named : stripFront base ≠ [])
    (suffix : List Char) : stripFront (base ++ suffix) = stripFront base ++ suffix := by
  induction base with
  | nil => exact absurd rfl named
  | cons char rest ih =>
      by_cases front : char ∈ ['.', '/']
      · have skip : ∀ chars, stripFront (char :: chars) = stripFront chars := fun chars =>
          List.dropWhile_cons_of_pos (decide_eq_true front)
        rw [List.cons_append, skip, skip]
        rw [skip] at named
        exact ih named
      · have keep : ∀ chars, stripFront (char :: chars) = char :: chars := fun chars =>
          List.dropWhile_cons_of_neg (by simpa using front)
        rw [List.cons_append, keep, keep, List.cons_append]

theorem stripFront_append_of_empty (bare : stripFront base = [])
    (suffix : List Char) : stripFront (base ++ suffix) = stripFront suffix := by
  have every := List.dropWhile_eq_nil_iff.mp bare
  exact List.dropWhile_append_of_pos every

theorem head_of_stripFront {rest : List Char} {char : Char}
    (shape : stripFront text = char :: rest) : char ≠ '.' ∧ char ≠ '/' := by
  have front := List.head?_dropWhile_not (· ∈ ['.', '/']) text
  rw [← stripFront, shape] at front
  simpa using front

/-- A text is what is left without the slashes behind, or continues it with a slash. -/
theorem eq_or_slash_prefix (text : List Char) :
    text = text.rdropWhile (· ∈ ['/']) ∨ text.rdropWhile (· ∈ ['/']) ++ ['/'] <+: text := by
  induction text using List.reverseRecOn with
  | nil => exact Or.inl rfl
  | append_singleton front last ih =>
      by_cases slash : last = '/'
      · rw [List.rdropWhile_concat_pos _ _ _ (by simpa using slash), slash]
        rcases ih with same | below
        · rw [← same]
          exact Or.inr List.prefix_rfl
        · exact Or.inr (below.trans (List.prefix_append _ _))
      · rw [List.rdropWhile_concat_neg _ _ _ (by simpa using slash)]
        exact Or.inl rfl

theorem rdropWhile_stars_of_notMem (plain : '*' ∉ text) :
    text.rdropWhile (· ∈ ['/', '*']) = text.rdropWhile (· ∈ ['/']) := by
  induction text using List.reverseRecOn with
  | nil => rfl
  | append_singleton front last ih =>
      rw [List.mem_append, not_or] at plain
      have other : last ≠ '*' := fun same => plain.2 (same ▸ List.mem_singleton_self last)
      by_cases slash : last = '/'
      · rw [List.rdropWhile_concat_pos _ _ _ (by simp [slash]),
          List.rdropWhile_concat_pos _ _ _ (by simp [slash]), ih plain.1]
      · rw [List.rdropWhile_concat_neg _ _ _ (by simp [slash, other]),
          List.rdropWhile_concat_neg _ _ _ (by simp [slash])]

theorem rdropWhile_append_stars (plain : '*' ∉ text) :
    (text ++ stars).rdropWhile (· ∈ ['/', '*']) = text.rdropWhile (· ∈ ['/']) := by
  have shape : text ++ stars = ((text ++ ['/']) ++ ['*']) ++ ['*'] := by
    simp [stars]
  rw [shape, List.rdropWhile_concat_pos _ _ _ (by decide),
    List.rdropWhile_concat_pos _ _ _ (by decide), List.rdropWhile_concat_pos _ _ _ (by decide),
    rdropWhile_stars_of_notMem plain]

/-- A plain pattern, with slashes behind or not, owns its base and what lies below. -/
theorem owned_plain_iff {names pattern : List Char}
    (plain : ∀ char ∈ pattern, isGlob char = false) :
    (fnmatch names pattern || names == pattern.rdropWhile (· ∈ ['/']) ||
      (pattern.rdropWhile (· ∈ ['/', '*']) ++ ['/']).isPrefixOf names) = true ↔
        names = pattern.rdropWhile (· ∈ ['/']) ∨
          pattern.rdropWhile (· ∈ ['/']) ++ ['/'] <+: names := by
  have star : '*' ∉ pattern := fun member => absurd (plain '*' member) (by decide)
  rw [Fnmatch.fnmatch_of_plain plain, rdropWhile_stars_of_notMem star, Bool.or_eq_true,
    Bool.or_eq_true, beq_iff_eq, beq_iff_eq, List.isPrefixOf_iff_prefix]
  constructor
  · rintro ((rfl | same) | below)
    · exact eq_or_slash_prefix names
    · exact Or.inl same
    · exact Or.inr below
  · exact Or.imp Or.inr id

/-- A pattern with two stars behind owns what lies below its base. -/
theorem owned_stars_iff {names front : List Char}
    (plain : ∀ char ∈ front, isGlob char = false) :
    (fnmatch names (front ++ stars) || names == (front ++ stars).rdropWhile (· ∈ ['/']) ||
      ((front ++ stars).rdropWhile (· ∈ ['/', '*']) ++ ['/']).isPrefixOf names) = true ↔
        front.rdropWhile (· ∈ ['/']) ++ ['/'] <+: names := by
  have star : '*' ∉ front := fun member => absurd (plain '*' member) (by decide)
  have shape : front ++ stars = (front ++ ['/']) ++ ['*', '*'] := by simp [stars]
  have slashed : ∀ char ∈ front ++ ['/'], isGlob char = false := by
    intro char member
    rcases List.mem_append.mp member with inside | last
    · exact plain char inside
    · rw [List.mem_singleton.mp last]
      decide
  have below : front.rdropWhile (· ∈ ['/']) ++ ['/'] <+: front ++ ['/'] := by
    rcases eq_or_slash_prefix front with same | longer
    · rw [← same]
    · exact longer.trans (List.prefix_append _ _)
  have whole : (front ++ stars).rdropWhile (· ∈ ['/']) = front ++ stars := by
    have last : front ++ stars = (front ++ ['/', '*']) ++ ['*'] := by simp [stars]
    rw [last, List.rdropWhile_concat_neg _ _ _ (by decide)]
  rw [rdropWhile_append_stars star, whole, Bool.or_eq_true, Bool.or_eq_true, beq_iff_eq,
    List.isPrefixOf_iff_prefix]
  constructor
  · rintro ((matched | rfl) | prefixed)
    · rw [shape] at matched
      exact below.trans ((fnmatch_stars slashed names).mp matched)
    · rw [shape]
      exact below.trans (List.prefix_append _ _)
    · exact prefixed
  · exact Or.inr

theorem pathOwned_iff {path pattern : String}
    (shape : (PyString.strip pattern).toList = base ++ suffix)
    (plain : ∀ char ∈ base, isGlob char = false) (ending : suffix ∈ [[], ['/'], stars]) :
    pathOwned path pattern = true ↔ NamesReach (PyString.strip path).toList base suffix := by
  rw [pathOwned, shape, NamesReach]
  generalize (PyString.strip path).toList = text
  by_cases none : stripFront text = []
  · simp [none]
  by_cases bare : stripFront base = []
  · rw [stripFront_append_of_empty bare, if_pos bare]
    simp only [List.mem_cons, List.not_mem_nil, or_false] at ending
    rcases ending with rfl | rfl | rfl
    · exact iff_of_false (by simp [stripFront]) fun both => absurd both.2 (by decide)
    · have gone : stripFront ['/'] = [] := by decide
      rw [gone]
      exact iff_of_false (by simp) fun both => absurd both.2 (by decide)
    · have left : stripFront stars = ['*', '*'] := by decide
      have every := (@fnmatch_stars [] (fun _ member => absurd member List.not_mem_nil)
        (stripFront text)).mpr List.nil_prefix
      rw [List.nil_append] at every
      rw [left, every]
      simp [none]
  · have names : ∀ char ∈ stripFront base, isGlob char = false := fun char member =>
      plain char ((stripFront_suffix base).subset member)
    rw [stripFront_append bare, if_neg bare]
    have filled : stripFront base ++ suffix ≠ [] := fun empty =>
      bare (List.append_eq_nil_iff.mp empty).1
    rw [if_neg (not_or.mpr ⟨none, filled⟩)]
    simp only [List.mem_cons, List.not_mem_nil, or_false] at ending
    rcases ending with rfl | rfl | rfl
    · rw [List.append_nil, owned_plain_iff names, baseNames]
      have other : ([] : List Char) ≠ stars := by decide
      simp [none, other]
    · have slashed : ∀ char ∈ stripFront base ++ ['/'], isGlob char = false := by
        intro char member
        rcases List.mem_append.mp member with inside | last
        · exact names char inside
        · rw [List.mem_singleton.mp last]
          decide
      rw [owned_plain_iff slashed, List.rdropWhile_concat_pos _ _ _ (by decide), ← baseNames]
      have other : ['/'] ≠ stars := by decide
      simp [none, other]
    · rw [owned_stars_iff names, ← baseNames]
      simp [none]

/-- A component of dots only, as those are that climb. -/
def dotted (part : List Char) : Bool := part.all (· == '.')

/-- The components of dots in front of the first name. -/
def climbsOf (text : List Char) : List (List Char) := (parts text).takeWhile dotted

/-- The dots that the first name starts with. -/
def dotsOf (text : List Char) : List Char :=
  (((parts text).dropWhile dotted).headD []).takeWhile (· == '.')

/-- The components of a text and of what `stripFront` leaves of it. -/
structure Split (text : List Char) (climbs : List (List Char)) (dots name : List Char)
    (rest : List (List Char)) : Prop where
  whole : parts text = climbs ++ (dots ++ name) :: rest
  names : parts (stripFront text) = name :: rest
  climbs : ∀ part ∈ climbs, dotted part = true
  dots : dotted dots = true
  name : ∃ char others, name = char :: others ∧ char ≠ '.'

theorem parts_of_noSlash {part : List Char} (noSlash : '/' ∉ part) (filled : part ≠ [])
    (notDot : part ≠ ['.']) : parts part = [part] := by
  have clean : ∀ other ∈ [part], Component other := by
    intro other member
    rw [List.mem_singleton.mp member]
    exact ⟨filled, notDot, noSlash⟩
  have only : PosixPath.joined [part] = part := List.intercalate_singleton
  rw [← only, PosixPath.parts_joined clean, only]

theorem dotted_of_mem_parts {part : List Char} (front : ∀ char ∈ text, char ∈ ['.', '/'])
    (member : part ∈ parts text) : dotted part = true := by
  refine List.all_eq_true.mpr fun char inside => ?_
  have noSlash := (PosixPath.component_of_mem_parts member).noSlash
  have listed := front char (PosixPath.mem_of_mem_parts member inside)
  simp only [List.mem_cons, List.not_mem_nil, or_false] at listed
  rcases listed with rfl | rfl
  · rfl
  · exact absurd inside noSlash

theorem Split.front {climbs : List (List Char)} {dots name : List Char}
    (split : Split text climbs dots name rest) :
    climbsOf text = climbs ∧ dotsOf text = dots := by
  obtain ⟨char, others, rfl, other⟩ := split.name
  have named : dotted (dots ++ char :: others) = false := by
    rw [dotted, List.all_append, List.all_cons, beq_eq_false_iff_ne.mpr other]
    simp
  constructor
  · rw [climbsOf, split.whole, List.takeWhile_append_of_pos split.climbs,
      List.takeWhile_cons_of_neg (by rw [named]; exact Bool.false_ne_true), List.append_nil]
  · rw [dotsOf, split.whole, List.dropWhile_append_of_pos split.climbs,
      List.dropWhile_cons_of_neg (by rw [named]; exact Bool.false_ne_true), List.headD_cons,
      List.takeWhile_append_of_pos (List.all_eq_true.mp split.dots),
      List.takeWhile_cons_of_neg (by simpa using other), List.append_nil]

/-- The first component of a text, and the text behind the slash that follows it. -/
theorem first_component (text : List Char) :
    ∃ first, '/' ∉ first ∧ (text = first ∨ ∃ later, text = first ++ '/' :: later) := by
  refine ⟨text.takeWhile (· ≠ '/'), fun member => ?_, ?_⟩
  · have kept := List.mem_takeWhile_imp member
    exact of_decide_eq_true kept rfl
  · have whole := @List.takeWhile_append_dropWhile Char (· ≠ '/') text
    cases shape : text.dropWhile (· ≠ '/') with
    | nil =>
        rw [shape, List.append_nil] at whole
        exact Or.inl whole.symm
    | cons char later =>
        have stops := List.head?_dropWhile_not (· ≠ '/') text
        rw [shape] at stops
        have slash : char = '/' := by simpa using stops
        rw [shape, slash] at whole
        exact Or.inr ⟨later, whole.symm⟩

/-- A first component with a name in it: its dots, and the name behind them. -/
theorem split_named {first : List Char} (noSlash : '/' ∉ first) (named : dotted first = false)
    (tail : List Char)
    (appended : ∀ part, parts (part ++ tail) = parts part ++ rest) :
    ∃ dots name, Split (first ++ tail) [] dots name rest := by
  have front : ∀ char ∈ first, char ∉ ['.', '/'] ↔ char ≠ '.' := by
    intro char member
    have other : char ≠ '/' := fun same => noSlash (same ▸ member)
    simp [other]
  have whole := @List.takeWhile_append_dropWhile Char (· ∈ ['.', '/']) first
  have filled : stripFront first ≠ [] := by
    intro none
    have every := List.dropWhile_eq_nil_iff.mp none
    have all : dotted first = true := List.all_eq_true.mpr fun char member => by
      have listed := of_decide_eq_true (every char member)
      by_contra other
      exact (front char member).mpr (by simpa using other) listed
    rw [all] at named
    cases named
  obtain ⟨char, others, shape⟩ := List.exists_cons_of_ne_nil filled
  have notDot := (head_of_stripFront shape).1
  have inside : char ∈ first := by
    refine (stripFront_suffix first).subset ?_
    rw [shape]
    exact List.mem_cons_self
  have nameClean : '/' ∉ stripFront first := fun member =>
    noSlash ((stripFront_suffix first).subset member)
  have one : ∀ part, '/' ∉ part → char ∈ part → parts part = [part] := by
    intro part clean member
    refine parts_of_noSlash clean (List.ne_nil_of_mem member) fun dot => notDot ?_
    rw [dot] at member
    exact List.mem_singleton.mp member
  refine ⟨first.takeWhile (· ∈ ['.', '/']), stripFront first, ?_, ?_, ?_, ?_, ?_⟩
  · rw [List.nil_append, stripFront, whole, appended, one first noSlash inside]
    rfl
  · rw [stripFront_append filled, appended, one _ nameClean (by rw [shape]; exact List.mem_cons_self)]
    rfl
  · exact fun part member => absurd member List.not_mem_nil
  · refine List.all_eq_true.mpr fun other member => ?_
    have kept := List.mem_takeWhile_imp member
    have listed := of_decide_eq_true kept
    by_contra different
    exact (front other ((List.takeWhile_prefix _).subset member)).mpr (by simpa using different)
      listed
  · exact ⟨char, others, shape, notDot⟩

theorem exists_split (text : List Char) (named : stripFront text ≠ []) :
    ∃ climbs dots name rest, Split text climbs dots name rest := by
  obtain ⟨first, noSlash, whole⟩ := first_component text
  cases dots : dotted first with
  | false =>
      rcases whole with rfl | ⟨later, rfl⟩
      · obtain ⟨dots, name, split⟩ := split_named noSlash dots [] (fun part => by
          rw [List.append_nil, List.append_nil])
        rw [List.append_nil] at split
        exact ⟨[], dots, name, [], split⟩
      · obtain ⟨dots, name, split⟩ := split_named noSlash dots ('/' :: later)
          (fun part => parts_append_slash part later)
        exact ⟨[], dots, name, parts later, split⟩
  | true =>
      have front : ∀ char ∈ first, char ∈ ['.', '/'] := by
        intro char member
        rw [beq_iff_eq.mp (List.all_eq_true.mp dots char member)]
        exact List.mem_cons_self
      have bare : stripFront first = [] := List.dropWhile_eq_nil_iff.mpr fun char member =>
        decide_eq_true (front char member)
      rcases whole with rfl | ⟨later, rfl⟩
      · exact absurd bare named
      · -- a component of dots is dropped with its slash
        have skipped : stripFront (first ++ '/' :: later) = stripFront later := by
          rw [stripFront_append_of_empty bare]
          exact List.dropWhile_cons_of_pos (by decide)
        rw [skipped] at named
        obtain ⟨climbs, dots', name, rest, split⟩ := exists_split later named
        refine ⟨parts first ++ climbs, dots', name, rest, ?_, ?_, ?_, split.dots, split.name⟩
        · rw [parts_append_slash, split.whole, List.append_assoc]
        · rw [skipped, split.names]
        · intro part member
          rcases List.mem_append.mp member with inside | behind
          · exact dotted_of_mem_parts front inside
          · exact split.climbs part behind
termination_by text.length
decreasing_by
  rename_i shape
  rw [shape, List.length_append, List.length_cons]
  omega

/-- Components with dots in front are continued by others where the dots are the same. -/
theorem split_prefix_iff {climbs others : List (List Char)} {dots otherDots name : List Char}
    {otherRest : List (List Char)} (climbsDotted : ∀ part ∈ climbs, dotted part = true)
    (othersDotted : ∀ part ∈ others, dotted part = true)
    (named : ∃ char behind, name = char :: behind ∧ char ≠ '.') :
    climbs ++ (dots ++ name) :: rest <+: others ++ (otherDots ++ name) :: otherRest ↔
      (climbs = others ∧ dots = otherDots) ∧ rest <+: otherRest := by
  have notDotted : ∀ front, dotted (front ++ name) ≠ true := by
    obtain ⟨char, behind, rfl, other⟩ := named
    intro front
    rw [dotted, List.all_append, List.all_cons, beq_eq_false_iff_ne.mpr other]
    simp
  induction climbs generalizing others with
  | nil =>
      cases others with
      | nil =>
          rw [List.nil_append, List.nil_append, List.cons_prefix_cons, List.append_left_inj]
          exact and_congr_left fun _ => (and_iff_right rfl).symm
      | cons first others =>
          rw [List.nil_append, List.cons_append, List.cons_prefix_cons]
          refine iff_of_false (fun both => notDotted dots ?_) fun both => ?_
          · rw [both.1]
            exact othersDotted first List.mem_cons_self
          · exact List.cons_ne_nil _ _ both.1.1.symm
  | cons climb climbs ih =>
      cases others with
      | nil =>
          rw [List.nil_append, List.cons_append, List.cons_prefix_cons]
          refine iff_of_false (fun both => notDotted otherDots ?_) fun both => ?_
          · rw [← both.1]
            exact climbsDotted climb List.mem_cons_self
          · exact List.cons_ne_nil _ _ both.1.1
      | cons first others =>
          have later : climbs ++ (dots ++ name) :: rest <+:
              others ++ (otherDots ++ name) :: otherRest ↔
                (climbs = others ∧ dots = otherDots) ∧ rest <+: otherRest :=
            ih (fun part member => climbsDotted part (List.mem_cons_of_mem _ member))
              fun part member => othersDotted part (List.mem_cons_of_mem _ member)
          rw [List.cons_append, List.cons_append, List.cons_prefix_cons, later, List.cons_eq_cons,
            and_assoc, and_assoc, and_assoc]

/-- The path is the base of the pattern or lies below it, component by component. -/
def LiesBelow (path pattern : String) (base : List Char) : Prop :=
  isAbsolute (PyString.strip path).toList = isAbsolute (PyString.strip pattern).toList ∧
    parts base <+: parts (PyString.strip path).toList

/-- What stands in front of the names says the same: both texts start with a slash or none
does, and the dots are the same. -/
def FrontsAgree (path pattern : String) (base : List Char) : Prop :=
  isAbsolute (PyString.strip path).toList = isAbsolute (PyString.strip pattern).toList ∧
    if stripFront base = [] then parts base <+: climbsOf (PyString.strip path).toList
    else climbsOf base = climbsOf (PyString.strip path).toList ∧
      dotsOf base = dotsOf (PyString.strip path).toList

theorem reached_parts {path : List Char} (named : stripFront base ≠ [])
    (reach : NamesReach path base suffix) :
    parts (stripFront base) <+: parts (stripFront path) := by
  have below := reach.2
  have trimmed : parts (baseNames base) = parts (stripFront base) := parts_rdropWhile _
  rw [if_neg named] at below
  rcases below with ⟨same, _⟩ | ⟨rest, shape⟩
  · rw [same, trimmed]
  · rw [← shape, List.append_assoc, List.singleton_append, parts_append_slash, trimmed]
    exact List.prefix_append _ _

/-- Where the names reach, the fronts decide whether the path lies below the base. -/
theorem liesBelow_iff {path pattern : String}
    (reach : NamesReach (PyString.strip path).toList base suffix) :
    LiesBelow path pattern base ↔ FrontsAgree path pattern base := by
  refine and_congr_right fun _ => ?_
  generalize (PyString.strip path).toList = text at reach
  by_cases bare : stripFront base = []
  · rw [if_pos bare]
    have front : ∀ char ∈ base, char ∈ ['.', '/'] := fun char member =>
      of_decide_eq_true (List.dropWhile_eq_nil_iff.mp bare char member)
    constructor
    · rintro ⟨rest, shape⟩
      rw [climbsOf, ← shape, List.takeWhile_append_of_pos fun part member =>
        dotted_of_mem_parts front member]
      exact List.prefix_append _ _
    · exact fun inside => inside.trans (List.takeWhile_prefix _)
  · rw [if_neg bare]
    obtain ⟨climbs, dots, name, rest, split⟩ := exists_split base bare
    obtain ⟨others, otherDots, otherName, otherRest, otherSplit⟩ := exists_split text reach.1
    have below := reached_parts bare reach
    rw [split.names, otherSplit.names, List.cons_prefix_cons] at below
    obtain ⟨rfl, later⟩ := below
    rw [split.whole, otherSplit.whole, split.front.1, split.front.2, otherSplit.front.1,
      otherSplit.front.2, split_prefix_iff split.climbs otherSplit.climbs split.name]
    exact and_iff_left later

/-- For a pattern without wildcards but two stars behind a slash, an owned path is the base of
the pattern or lies below it, exactly when the fronts agree wherever the names behind them
reach. -/
theorem path_owned_iff {path pattern : String} {base suffix : List Char}
    (shape : (PyString.strip pattern).toList = base ++ suffix)
    (plain : ∀ char ∈ base, isGlob char = false) (ending : suffix ∈ [[], ['/'], stars]) :
    (pathOwned path pattern = true → LiesBelow path pattern base) ↔
      (NamesReach (PyString.strip path).toList base suffix → FrontsAgree path pattern base) := by
  rw [pathOwned_iff shape plain ending]
  exact ⟨fun lies reach => (liesBelow_iff reach).mp (lies reach),
    fun agree reach => (liesBelow_iff reach).mpr (agree reach)⟩

theorem report_owned :
    pathOwned "./docs/report.md" "docs/**" = true ∧
      LiesBelow "./docs/report.md" "docs/**" "docs".toList := by
  have owned : pathOwned "./docs/report.md" "docs/**" = true := by decide +kernel
  have plain : ∀ char ∈ "docs".toList, isGlob char = false :=
    Lists.forall_mem_of_all (by decide)
  have shape : (PyString.strip "docs/**").toList = "docs".toList ++ stars := by decide +kernel
  refine ⟨owned, (path_owned_iff shape plain (by decide)).mpr (fun _ => ?_) owned⟩
  exact ⟨by decide +kernel, by decide +kernel⟩

/-- A directory of dots and a path above, owned by patterns for other paths. -/
theorem dot_directory_owned :
    pathOwned ".zf/x" "zf/**" = true ∧ pathOwned "../x" "x" = true ∧
      ¬ (∀ path pattern base suffix, (PyString.strip pattern).toList = base ++ suffix →
        (∀ char ∈ base, isGlob char = false) → suffix ∈ [[], ['/'], stars] →
          pathOwned path pattern = true → LiesBelow path pattern base) := by
  have owned : pathOwned ".zf/x" "zf/**" = true := by decide +kernel
  refine ⟨owned, by decide +kernel, fun every => ?_⟩
  have plain : ∀ char ∈ "zf".toList, isGlob char = false := Lists.forall_mem_of_all (by decide)
  have below := (every ".zf/x" "zf/**" "zf".toList stars (by decide +kernel) plain (by decide)
    owned).2
  exact absurd below (by decide +kernel)

end ZaofuFormal.TaskMap
