import ZaofuFormal.Foundation.LexicalPaths
import ZaofuFormal.Foundation.PosixPath
import ZaofuFormal.TaskMap.Validation

/-!
# Scopes of verification commands

A path that a verification command refers to has to lie in the scope of its task.  It is
compared with the scopes without being resolved: components that climb stay in it, and
everything from the first wildcard on is dropped.  A path that does not start with a slash
or with dots is also read from every declared root.

A leading slash stands for the root of the repository, as it does in a scope.
-/

namespace ZaofuFormal.TaskMap

open Foundation
open LexicalPaths (Resolved Reading resolve)
open PosixPath (parts joined Component)

/-- The text without blanks and quotes around it. -/
def unquoted (path : String) : List Char :=
  trimChars [Json.singleQuote, Json.doubleQuote] (PyString.stripChars path.toList)

def components (path : String) : List (List Char) := parts (unquoted path)

def climb : List Char := ['.', '.']

def wild (part : List Char) : Bool := part.any (· ∈ ['*', '?', '['])

/-- The components before the first wildcard. -/
def cut (path : String) : List (List Char) := (components path).takeWhile fun part => !wild part

theorem parts_append_slash (front back : List Char) :
    parts (front ++ '/' :: back) = parts front ++ parts back := by
  rw [parts, List.splitOn_append_cons_self, List.filter_append]
  rfl

theorem parts_slash (back : List Char) : parts ('/' :: back) = parts back :=
  parts_append_slash [] back

theorem parts_dropWhile (chars : List Char) :
    parts (chars.dropWhile (· ∈ ['/'])) = parts chars := by
  induction chars with
  | nil => rfl
  | cons char rest ih =>
      by_cases slash : char = '/'
      · rw [slash, parts_slash, ← ih]
        rfl
      · rw [List.dropWhile_cons_of_neg]
        simpa using slash

theorem parts_rdropWhile (chars : List Char) :
    parts (chars.rdropWhile (· ∈ ['/'])) = parts chars := by
  induction chars using List.reverseRecOn with
  | nil => rfl
  | append_singleton front last ih =>
      by_cases slash : last = '/'
      · rw [List.rdropWhile_concat_pos _ _ _ (by simpa using slash), ih, slash,
          parts_append_slash front []]
        exact (List.append_nil _).symm
      · rw [List.rdropWhile_concat_neg _ _ _ (by simpa using slash)]

theorem parts_trimChars (chars : List Char) : parts (trimChars ['/'] chars) = parts chars := by
  rw [trimChars, parts_rdropWhile, parts_dropWhile]

theorem parts_dropDotSlashes (chars : List Char) : parts (dropDotSlashes chars) = parts chars := by
  induction chars using dropDotSlashes.induct with
  | case1 rest ih =>
      rw [dropDotSlashes, ih]
      exact (parts_append_slash ['.'] rest).symm
  | case2 chars other => rw [dropDotSlashes.eq_2 chars other]

/-- The normal form of a path joins its components before the first wildcard. -/
theorem normalizeScopePath_eq (path : String) :
    normalizeScopePath path = String.ofList (joined (cut path)) := by
  have same : parts (trimChars ['/'] (dropDotSlashes (unquoted path))) = components path := by
    rw [parts_trimChars, parts_dropDotSlashes, components]
  rw [cut, ← same]
  rfl

theorem component_of_mem {path : String} {part : List Char} (member : part ∈ components path) :
    Component part :=
  PosixPath.component_of_mem_parts member

theorem cut_prefix_components (path : String) :
    cut path <+: components path := List.takeWhile_prefix _

theorem component_of_mem_cut {path : String} : ∀ part ∈ cut path, Component part :=
  fun _ member => component_of_mem ((cut_prefix_components path).subset member)

theorem normalizeScopePath_eq_empty_iff {path : String} :
    normalizeScopePath path = "" ↔ cut path = [] := by
  rw [normalizeScopePath_eq]
  constructor
  · intro empty
    by_contra filled
    exact PosixPath.joined_ne_nil component_of_mem_cut filled
      (by simpa using congrArg String.toList empty)
  · intro empty
    rw [empty]
    rfl

attribute [irreducible] components

theorem joined_append {front : List (List Char)} (filled : front ≠ []) (first : List Char)
    (rest : List (List Char)) :
    joined (front ++ first :: rest) = joined front ++ '/' :: joined (first :: rest) := by
  induction front with
  | nil => exact absurd rfl filled
  | cons part others ih =>
      cases others with
      | nil =>
          have only : joined [part] = part := List.intercalate_singleton
          rw [List.singleton_append, PosixPath.joined_cons_cons, only]
      | cons next others =>
          rw [List.cons_append, List.cons_append, PosixPath.joined_cons_cons,
            PosixPath.joined_cons_cons, ← List.cons_append, ih (List.cons_ne_nil _ _),
            List.append_assoc, List.cons_append]

/-- The text of a path starts with that of a directory and a slash where the path continues
the directory. -/
theorem startsWith_joined_iff {directory path : List (List Char)}
    (directoryClean : ∀ part ∈ directory, Component part)
    (pathClean : ∀ part ∈ path, Component part) (filled : directory ≠ []) :
    PyString.startsWith (String.ofList (joined path)) (String.ofList (joined directory) ++ "/") =
      true ↔ directory <+: path ∧ directory ≠ path := by
  rw [PyString.startsWith, List.isPrefixOf_iff_prefix, String.toList_append]
  simp only [String.toList_ofList]
  constructor
  · intro below
    refine ⟨PosixPath.isPrefix_of_joined directoryClean pathClean filled below, ?_⟩
    rintro rfl
    have shorter := below.length_le
    rw [List.length_append] at shorter
    exact absurd shorter (by simp)
  · rintro ⟨⟨rest, rfl⟩, different⟩
    cases rest with
    | nil => exact absurd (List.append_nil directory).symm different
    | cons first rest =>
        rw [joined_append filled]
        exact ⟨joined (first :: rest), List.append_assoc _ _ _⟩

variable {scope : List (List Char)}

theorem scopeCovers_iff {ref : List (List Char)}
    (scopeClean : ∀ part ∈ scope, Component part) (refClean : ∀ part ∈ ref, Component part)
    (scopeFilled : scope ≠ []) (refFilled : ref ≠ []) :
    scopeCovers (String.ofList (joined scope)) (String.ofList (joined ref)) = true ↔
      scope <+: ref ∨ ref <+: scope := by
  rw [scopeCovers, Bool.or_eq_true, Bool.or_eq_true, beq_iff_eq,
    startsWith_joined_iff scopeClean refClean scopeFilled,
    startsWith_joined_iff refClean scopeClean refFilled]
  constructor
  · rintro ((same | ⟨below, _⟩) | ⟨above, _⟩)
    · rw [PosixPath.joined_injective refClean scopeClean (String.ofList_injective same)]
      exact Or.inl List.prefix_rfl
    · exact Or.inl below
    · exact Or.inr above
  · intro related
    by_cases same : scope = ref
    · exact Or.inl (Or.inl (by rw [same]))
    · rcases related with below | above
      · exact Or.inl (Or.inr ⟨below, same⟩)
      · exact Or.inr ⟨above, Ne.symm same⟩

/-- The reference, and the reference read from the declared roots where they apply. -/
def baseTexts (pathRef : String) (relativeRoots : List String) : List String :=
  pathRef :: if canApplyRelativeRoot pathRef then
    relativeRoots.map fun root => root ++ "/" ++ pathRef else []

/-- Those that are compared with the scopes. -/
def comparedTexts (pathRef : String) (relativeRoots : List String) : List String :=
  pathRef :: if canApplyRelativeRoot pathRef then
    (relativeRoots.map fun root => root ++ "/" ++ pathRef).filter fun text => cut text ≠ []
  else []

theorem rooted_eq (pathRef : String) (relativeRoots : List String) :
    (if canApplyRelativeRoot pathRef then
      (relativeRoots.map fun root => normalizeScopePath (root ++ "/" ++ pathRef)).filter
        fun candidate => candidate ≠ ""
    else []) = (comparedTexts pathRef relativeRoots).tail.map normalizeScopePath := by
  rw [comparedTexts, List.tail_cons]
  split
  · induction relativeRoots with
    | nil => rfl
    | cons root rest ih =>
        rw [List.map_cons, List.map_cons, List.filter_cons, List.filter_cons, ih]
        by_cases empty : cut (root ++ "/" ++ pathRef) = []
        · rw [if_neg, if_neg]
          · simpa using empty
          · simpa using normalizeScopePath_eq_empty_iff.mpr empty
        · rw [if_pos, if_pos, List.map_cons]
          · exact decide_eq_true empty
          · exact decide_eq_true fun none => empty (normalizeScopePath_eq_empty_iff.mp none)
  · rfl

/-- A reference is covered where one of the compared paths holds or is held by a scope, both
cut at their first wildcard. -/
theorem pathRefCovered_iff {pathRef : String} {scopePaths relativeRoots : List String}
    (given : scopePaths ≠ []) :
    pathRefCovered pathRef scopePaths relativeRoots = true ↔
      ∃ text ∈ comparedTexts pathRef relativeRoots, ∃ scope ∈ scopePaths,
        cut scope <+: cut text ∨ cut text <+: cut scope := by
  have one : ∀ text scope, cut text ≠ [] →
      ((normalizeScopePath scope == "" ||
        scopeCovers (normalizeScopePath scope) (normalizeScopePath text)) = true ↔
          cut scope <+: cut text ∨ cut text <+: cut scope) := by
    intro text scope filled
    rw [Bool.or_eq_true, beq_iff_eq, normalizeScopePath_eq_empty_iff]
    by_cases empty : cut scope = []
    · rw [empty]
      exact iff_of_true (Or.inl rfl) (Or.inl List.nil_prefix)
    · rw [normalizeScopePath_eq, normalizeScopePath_eq,
        scopeCovers_iff component_of_mem_cut component_of_mem_cut empty filled]
      exact or_iff_right empty
  have shape : pathRefCovered pathRef scopePaths relativeRoots =
      (normalizeScopePath pathRef == "" ||
        ((comparedTexts pathRef relativeRoots).map normalizeScopePath).any fun candidate =>
          scopePaths.any fun scope =>
            normalizeScopePath scope == "" || scopeCovers (normalizeScopePath scope) candidate) := by
    have texts : (comparedTexts pathRef relativeRoots).map normalizeScopePath =
        normalizeScopePath pathRef ::
          (comparedTexts pathRef relativeRoots).tail.map normalizeScopePath := by
      rw [comparedTexts, List.map_cons, List.tail_cons]
    rw [texts, ← rooted_eq]
    rfl
  rw [shape, Bool.or_eq_true, beq_iff_eq, normalizeScopePath_eq_empty_iff, List.any_map,
    List.any_eq_true]
  by_cases empty : cut pathRef = []
  · obtain ⟨scope, rest, rfl⟩ := List.exists_cons_of_ne_nil given
    refine iff_of_true (Or.inl empty) ⟨pathRef, List.mem_cons_self, scope, List.mem_cons_self, ?_⟩
    rw [empty]
    exact Or.inr List.nil_prefix
  · have filled : ∀ text ∈ comparedTexts pathRef relativeRoots, cut text ≠ [] := by
      intro text member
      rcases List.mem_cons.mp member with rfl | later
      · exact empty
      · split at later
        · exact of_decide_eq_true (List.mem_filter.mp later).2
        · cases later
    rw [or_iff_right empty]
    constructor
    · rintro ⟨text, member, covered⟩
      obtain ⟨scope, inside, holds⟩ := List.any_eq_true.mp covered
      exact ⟨text, member, scope, inside, (one text scope (filled text member)).mp holds⟩
    · rintro ⟨text, member, scope, inside, related⟩
      exact ⟨text, member, List.any_eq_true.mpr
        ⟨scope, inside, (one text scope (filled text member)).mpr related⟩⟩

/-- A component of a scope: it neither climbs nor holds a wildcard. -/
def Plain (part : List Char) : Prop :=
  part ≠ [] ∧ part ≠ ['.'] ∧ '/' ∉ part ∧ wild part = false ∧ part ≠ climb

instance : DecidablePred Plain := fun part => (inferInstance :
  Decidable (part ≠ [] ∧ part ≠ ['.'] ∧ '/' ∉ part ∧ wild part = false ∧ part ≠ climb))

def PlainScope (scope : String) : Prop :=
  ∀ part ∈ components scope, wild part = false ∧ part ≠ climb

def resolved (text : String) : Resolved (List Char) := resolve climb (components text)

/-- What is compared of a text, up to the first component that climbs. -/
def reading (text : String) : Reading (List Char) where
  head := (cut text).takeWhile fun part => decide (part ≠ climb)
  climbs := climb ∈ cut text

theorem Plain.component {part : List Char} (plain : Plain part) : Component part :=
  ⟨plain.1, plain.2.1, plain.2.2.1⟩

theorem plain_of_scope {scope : String} (plain : PlainScope scope) :
    ∀ part ∈ components scope, Plain part := fun part member =>
  have component := component_of_mem member
  ⟨component.nonempty, component.notDot, component.noSlash, plain part member⟩

theorem cut_of_plain {scope : String} (plain : PlainScope scope) :
    cut scope = components scope := by
  refine List.takeWhile_eq_self_iff.mpr fun part member => ?_
  rw [(plain part member).1]
  rfl

theorem reading_head (text : String) :
    (reading text).head = (cut text).takeWhile fun part => decide (part ≠ climb) := by
  rw [reading]

theorem reading_head_prefix_components (text : String) : (reading text).head <+: cut text := by
  rw [reading_head]
  exact List.takeWhile_prefix _

theorem wild_of_mem_cut {text : String} {part : List Char} (member : part ∈ cut text) :
    wild part = false := by
  rw [cut] at member
  have named := List.mem_takeWhile_imp member
  rwa [Bool.not_eq_true'] at named

theorem reading_plain (text : String) : ∀ part ∈ (reading text).head, Plain part := by
  intro part member
  have inside : part ∈ cut text := (reading_head_prefix_components text).subset member
  have component := component_of_mem_cut part inside
  rw [reading_head] at member
  have level := List.mem_takeWhile_imp member
  exact ⟨component.nonempty, component.notDot, component.noSlash, wild_of_mem_cut inside,
    of_decide_eq_true level⟩

/-- With a plain scope, what is compared is what was read. -/
theorem accepts_iff {text : String} (plain : ∀ part ∈ scope, Plain part) :
    (scope <+: cut text ∨ cut text <+: scope) ↔ (reading text).Accepts scope := by
  have head := reading_head_prefix_components text
  constructor
  · rintro (⟨rest, shape⟩ | above)
    · refine Or.inl ?_
      rw [reading_head, ← shape, List.takeWhile_append_of_pos fun part member =>
        decide_eq_true (plain part member).2.2.2.2]
      exact List.prefix_append _ _
    · have level : climb ∉ cut text := fun member =>
        (plain climb (above.subset member)).2.2.2.2 rfl
      exact Or.inr ⟨level, head.trans above⟩
  · rintro (below | ⟨level, above⟩)
    · exact Or.inl (below.trans head)
    · have stays : climb ∉ cut text := level
      have whole : (reading text).head = cut text := by
        rw [reading_head]
        exact List.takeWhile_eq_self_iff.mpr fun part member =>
          decide_eq_true fun same => stays (same ▸ member)
      rw [whole] at above
      exact Or.inr above

/-- The spelling of a scope with the given components. -/
def spell (scope : List (List Char)) : String := String.ofList ('.' :: '/' :: joined scope ++ ['/'])

theorem components_spell (plain : ∀ part ∈ scope, Plain part) :
    components (spell scope) = scope := by
  have ends : ('.' :: '/' :: joined scope ++ ['/']).getLast? = some '/' := List.getLast?_concat
  have stripped : PyString.stripChars ('.' :: '/' :: joined scope ++ ['/']) =
      '.' :: '/' :: joined scope ++ ['/'] :=
    PyString.stripChars_eq_self (by decide : PyString.isSpace '.' = false) (by rw [ends]; decide)
  have kept : unquoted (spell scope) = '.' :: '/' :: joined scope ++ ['/'] := by
    rw [unquoted, spell, String.toList_ofList, stripped, trimChars, List.cons_append,
      List.dropWhile_cons_of_neg (by decide), ← List.cons_append, List.rdropWhile_concat_neg]
    decide
  rw [components, kept]
  change parts (['.'] ++ '/' :: (joined scope ++ ['/'])) = scope
  rw [parts_append_slash, parts_append_slash,
    PosixPath.parts_joined fun part member => (plain part member).component]
  exact List.append_nil scope

/-- There is a plain component outside any list of components. -/
theorem exists_fresh (taken : List (List Char)) : ∃ part, Plain part ∧ part ∉ taken := by
  refine ⟨'a' :: List.replicate taken.flatten.length 'a', ?_, fun member => ?_⟩
  · have every : ∀ char ∈ 'a' :: List.replicate taken.flatten.length 'a', char = 'a' := by
      intro char member
      rcases List.mem_cons.mp member with same | later
      · exact same
      · exact List.eq_of_mem_replicate later
    refine ⟨List.cons_ne_nil _ _, fun same => ?_, fun member => ?_, ?_, fun same => ?_⟩
    · exact absurd (List.cons.inj same).1 (by decide)
    · exact absurd (every _ member) (by decide)
    · refine List.any_eq_false.mpr fun char member => ?_
      rw [every char member]
      decide
    · exact absurd (List.cons.inj same).1 (by decide)
  · have short := (List.sublist_flatten_of_mem member).length_le
    rw [List.length_cons, List.length_replicate] at short
    omega

/-- An accepted reference lies at, inside or above a scope, read from the root of the
repository or from a declared root; and a reference at or inside a scope is accepted. -/
def Contained (pathRef : String) (scopePaths relativeRoots : List String) : Prop :=
  (pathRefCovered pathRef scopePaths relativeRoots = true →
    ∃ text ∈ baseTexts pathRef relativeRoots, ∃ scope ∈ scopePaths,
      (resolved text).Related (components scope)) ∧
  ∀ text ∈ baseTexts pathRef relativeRoots, ∀ scope ∈ scopePaths,
    (resolved text).AtOrBelow (components scope) →
      pathRefCovered pathRef scopePaths relativeRoots = true

/-- Every compared text is resolved, by itself or from another base, to what is read of it or
to a directory above, or, where it was read to a component that climbs, to something inside;
and every text that stays in the repository is resolved, up to its first wildcard, to
something that is accepted. -/
def Straight (pathRef : String) (relativeRoots : List String) : Prop :=
  (∀ text ∈ comparedTexts pathRef relativeRoots, ∃ other ∈ baseTexts pathRef relativeRoots,
    (resolved other).AtOrAbove (reading text).head ∨
      (reading text).climbs ∧ (resolved other).AtOrBelow (reading text).head) ∧
  ∀ other ∈ baseTexts pathRef relativeRoots, (resolved other).up = 0 →
    ∃ text ∈ comparedTexts pathRef relativeRoots,
      (reading text).Accepts ((resolved other).down.takeWhile fun part => Plain part)

theorem covered_singleton_iff {pathRef : String} {relativeRoots : List String}
    (plain : ∀ part ∈ scope, Plain part) :
    pathRefCovered pathRef [spell scope] relativeRoots = true ↔
      ∃ text ∈ comparedTexts pathRef relativeRoots, (reading text).Accepts scope := by
  have plainScope : PlainScope (spell scope) := by
    rw [PlainScope, components_spell plain]
    exact fun part member => (plain part member).2.2.2
  rw [pathRefCovered_iff (List.cons_ne_nil _ _)]
  simp only [List.mem_singleton, exists_eq_left, cut_of_plain plainScope, components_spell plain,
    accepts_iff plain]

/-- For one reference and the declared roots, the references that are accepted lie in the
scopes, whatever plain scopes are given, exactly when the condition holds. -/
theorem path_ref_covered_iff (pathRef : String) (relativeRoots : List String) :
    (∀ scopePaths, scopePaths ≠ [] → (∀ scope ∈ scopePaths, PlainScope scope) →
      Contained pathRef scopePaths relativeRoots) ↔ Straight pathRef relativeRoots := by
  have related := @LexicalPaths.accepts_related_iff (List Char) Plain
    ((comparedTexts pathRef relativeRoots).map reading)
    ((baseTexts pathRef relativeRoots).map resolved) exists_fresh
  have below := @LexicalPaths.below_accepts_iff (List Char) Plain
    ((comparedTexts pathRef relativeRoots).map reading)
    ((baseTexts pathRef relativeRoots).map resolved) _
  simp only [List.mem_map, forall_exists_index, and_imp, forall_apply_eq_imp_iff₂,
    exists_exists_and_eq_and] at related below
  rw [Straight, ← related fun text _ => reading_plain text, ← below]
  constructor
  · intro contained
    have single : ∀ scope : List (List Char), (∀ part ∈ scope, Plain part) →
        Contained pathRef [spell scope] relativeRoots := by
      intro scope plain
      refine contained _ (List.cons_ne_nil _ _) fun other member => ?_
      rw [List.mem_singleton.mp member, PlainScope, components_spell plain]
      exact fun part listed => (plain part listed).2.2.2
    refine ⟨fun scope plain text member accepts => ?_, fun scope plain text member inside => ?_⟩
    · obtain ⟨other, listed, found, only, lies⟩ := (single scope plain).1
        ((covered_singleton_iff plain).mpr ⟨text, member, accepts⟩)
      rw [List.mem_singleton.mp only, components_spell plain] at lies
      exact ⟨other, listed, lies⟩
    · refine (covered_singleton_iff plain).mp ((single scope plain).2 text member _
        (List.mem_singleton_self _) ?_)
      rw [components_spell plain]
      exact inside
  · rintro ⟨sound, complete⟩ scopePaths given plain
    have covered := @pathRefCovered_iff pathRef scopePaths relativeRoots given
    refine ⟨fun holds => ?_, fun text member scope listed inside => ?_⟩
    · obtain ⟨text, member, scope, listed, near⟩ := covered.mp holds
      have clean := plain_of_scope (plain scope listed)
      rw [cut_of_plain (plain scope listed)] at near
      obtain ⟨other, base, lies⟩ := sound _ clean text member ((accepts_iff clean).mp near)
      exact ⟨other, base, scope, listed, lies⟩
    · have clean := plain_of_scope (plain scope listed)
      obtain ⟨other, compared, accepts⟩ := complete _ clean text member inside
      refine covered.mpr ⟨other, compared, scope, listed, ?_⟩
      rw [cut_of_plain (plain scope listed)]
      exact (accepts_iff clean).mpr accepts

/-- A reference that leaves its scope, with the scope. -/
theorem climbing_reference_covered :
    pathRefCovered "src/../etc/passwd" ["src"] [] = true ∧
      resolved "src/../etc/passwd" = ⟨0, ["etc".toList, "passwd".toList]⟩ ∧
      ¬ (∀ pathRef scopePaths relativeRoots, scopePaths ≠ [] →
        (∀ scope ∈ scopePaths, PlainScope scope) →
          Contained pathRef scopePaths relativeRoots) := by
  have covered : pathRefCovered "src/../etc/passwd" ["src"] [] = true := by decide +kernel
  refine ⟨covered, by decide +kernel, fun every => ?_⟩
  have plain : ∀ scope ∈ ["src"], PlainScope scope := by
    intro scope member
    rw [List.mem_singleton.mp member]
    exact Lists.forall_mem_of_all (by decide +kernel)
  obtain ⟨text, base, scope, listed, related⟩ :=
    (every "src/../etc/passwd" ["src"] [] (List.cons_ne_nil _ _) plain).1 covered
  have alone : baseTexts "src/../etc/passwd" [] = ["src/../etc/passwd"] := by decide +kernel
  rw [alone] at base
  rw [List.mem_singleton.mp base, List.mem_singleton.mp listed] at related
  exact absurd related (by decide +kernel)

end ZaofuFormal.TaskMap
