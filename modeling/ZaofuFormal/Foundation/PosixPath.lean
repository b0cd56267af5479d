import Mathlib.Data.List.Infix
import ZaofuFormal.Foundation.Lists

/-!
# Relative paths

A path is a text whose components are separated by slashes.  Empty components
and single dots are dropped, as the path class of the source language does when
it parses a path; the canonical spelling joins what is left.
-/

namespace ZaofuFormal.Foundation.PosixPath

instance lawfulBEqChars : LawfulBEq (List Char) := inferInstance

/-- The components of a relative path. -/
def parts (text : List Char) : List (List Char) :=
  (text.splitOn '/').filter fun part => part ≠ [] ∧ part ≠ ['.']

def isAbsolute (text : List Char) : Bool := text.head? == some '/'

/-- Components with slashes between them. -/
def joined (components : List (List Char)) : List Char := ['/'].intercalate components

/-- The canonical spelling of a relative path. -/
def asPosix (text : List Char) : List Char :=
  if parts text = [] then ['.'] else joined (parts text)

/-- What follows the first slash. -/
def afterSlash (text : List Char) : Option (List Char) :=
  if '/' ∈ text then some ((text.dropWhile (· ≠ '/')).drop 1) else none

/-- A component as it occurs in a parsed path. -/
structure Component (part : List Char) : Prop where
  nonempty : part ≠ []
  notDot : part ≠ ['.']
  noSlash : '/' ∉ part

variable {text : List Char}

theorem noSlash_of_mem_splitOn {part : List Char} (member : part ∈ text.splitOn '/') :
    '/' ∉ part := by
  induction text generalizing part with
  | nil =>
      rw [List.splitOn_nil, List.mem_singleton] at member
      rw [member]
      exact List.not_mem_nil
  | cons char rest ih =>
      rw [List.splitOn_cons_eq_if_modifyHead] at member
      split at member
      · rcases List.mem_cons.mp member with rfl | later
        · exact List.not_mem_nil
        · exact ih later
      · rename_i notSlash
        cases shape : rest.splitOn '/' with
        | nil => exact absurd shape (List.splitOn_ne_nil '/' rest)
        | cons first others =>
            rw [shape, List.modifyHead_cons] at member
            rcases List.mem_cons.mp member with rfl | later
            · rw [List.mem_cons, not_or]
              refine ⟨fun same => notSlash (beq_iff_eq.mpr same.symm), ih ?_⟩
              rw [shape]
              exact List.mem_cons_self
            · apply ih
              rw [shape]
              exact List.mem_cons_of_mem first later

theorem component_of_mem_parts {part : List Char} (member : part ∈ parts text) :
    Component part := by
  obtain ⟨listed, kept⟩ := List.mem_filter.mp member
  have kept : part ≠ [] ∧ part ≠ ['.'] := of_decide_eq_true kept
  exact ⟨kept.1, kept.2, noSlash_of_mem_splitOn listed⟩

section Joined

variable {components : List (List Char)} (clean : ∀ part ∈ components, Component part)
include clean

theorem splitOn_joined (nonempty : components ≠ []) :
    (joined components).splitOn '/' = components :=
  List.splitOn_intercalate '/' (fun part member => (clean part member).noSlash) nonempty

/-- Joining components and parsing the result gives them back. -/
theorem parts_joined : parts (joined components) = components := by
  cases components with
  | nil => rfl
  | cons first rest =>
      rw [parts, splitOn_joined clean (List.cons_ne_nil first rest), List.filter_eq_self]
      intro part member
      exact decide_eq_true ⟨(clean part member).nonempty, (clean part member).notDot⟩

theorem joined_ne_nil (nonempty : components ≠ []) : joined components ≠ [] := by
  intro empty
  apply nonempty
  rw [← parts_joined clean, empty]
  rfl

theorem joined_ne_dot : joined components ≠ ['.'] := by
  intro dot
  have none : components = [] := by
    rw [← parts_joined clean, dot]
    rfl
  rw [none] at dot
  cases dot

/-- A relative path that is not just a dot does not start with a slash. -/
theorem not_isAbsolute_joined : isAbsolute (joined components) = false := by
  cases components with
  | nil => rfl
  | cons first rest =>
      have component := clean first List.mem_cons_self
      cases first with
      | nil => exact absurd rfl component.nonempty
      | cons char chars =>
          have head : (joined ((char :: chars) :: rest)).head? = some char := by
            cases rest <;> rfl
          rw [isAbsolute, head]
          have notSlash : char ≠ '/' := fun same =>
            component.noSlash (same ▸ List.mem_cons_self)
          simpa using notSlash

end Joined

theorem joined_cons_cons (first second : List Char) (rest : List (List Char)) :
    joined (first :: second :: rest) = first ++ '/' :: joined (second :: rest) := by
  rw [joined, List.intercalate_cons_cons, List.append_assoc]
  rfl

theorem joined_append {first second : List (List Char)} (some : first ≠ []) (more : second ≠ []) :
    joined (first ++ second) = joined first ++ '/' :: joined second := by
  obtain ⟨next, others, rfl⟩ := List.exists_cons_of_ne_nil more
  induction first with
  | nil => exact absurd rfl some
  | cons head rest ih =>
      cases rest with
      | nil =>
          have single : joined [head] = head := List.intercalate_singleton
          rw [List.singleton_append, joined_cons_cons, single]
      | cons second rest =>
          rw [List.cons_append, List.cons_append, joined_cons_cons, joined_cons_cons,
            ← List.cons_append, ih (List.cons_ne_nil second rest), List.append_assoc,
            List.cons_append]

theorem joined_injective {first second : List (List Char)}
    (firstClean : ∀ part ∈ first, Component part) (secondClean : ∀ part ∈ second, Component part)
    (same : joined first = joined second) : first = second := by
  rw [← parts_joined firstClean, same, parts_joined secondClean]

/-- A path below a directory continues the directory's components. -/
theorem isPrefix_of_joined {directory path : List (List Char)}
    (directoryClean : ∀ part ∈ directory, Component part)
    (pathClean : ∀ part ∈ path, Component part) (nonempty : directory ≠ [])
    (below : joined directory ++ ['/'] <+: joined path) : directory <+: path := by
  obtain ⟨rest, shape⟩ := below
  have some : path ≠ [] := by
    rintro rfl
    simp [joined] at shape
  refine ⟨rest.splitOn '/', ?_⟩
  rw [← splitOn_joined pathClean some, ← shape, List.append_assoc, List.singleton_append,
    List.splitOn_append_cons_self, splitOn_joined directoryClean nonempty]

/-- The part after the first slash has one component less. -/
theorem afterSlash_joined {components : List (List Char)}
    (clean : ∀ part ∈ components, Component part) :
    afterSlash (joined components) =
      if components.tail = [] then none else some (joined components.tail) := by
  unfold afterSlash
  match components with
  | [] => rfl
  | [only] =>
      rw [joined, List.intercalate_singleton, if_neg (clean only List.mem_cons_self).noSlash]
      rfl
  | first :: second :: others =>
      have noSlash := (clean first List.mem_cons_self).noSlash
      rw [joined_cons_cons, if_pos (by simp), List.tail_cons, if_neg (List.cons_ne_nil _ _),
        List.dropWhile_append_of_pos]
      · simp
      · intro char member
        refine decide_eq_true fun same => noSlash ?_
        rw [← same]
        exact member

/-- A text without slashes starts the first component. -/
theorem splitOn_append_of_noSlash {start : List Char} (noSlash : '/' ∉ start) (rest : List Char) :
    (start ++ rest).splitOn '/' = (rest.splitOn '/').modifyHead (start ++ ·) := by
  induction start with
  | nil =>
      rw [List.nil_append]
      cases rest.splitOn '/' <;> rfl
  | cons char start ih =>
      rw [List.mem_cons, not_or] at noSlash
      rw [List.cons_append, List.splitOn_cons_eq_if_modifyHead,
        if_neg (by simpa using Ne.symm noSlash.1), ih noSlash.2]
      cases rest.splitOn '/' <;> rfl

/-- The component in which a path starts, when it starts with a name. -/
theorem head?_parts_of_start {start : List Char} (starts : start <+: text)
    (noSlash : '/' ∉ start) (nonempty : start ≠ []) (notDot : start.head? ≠ some '.') :
    ∃ first, (parts text).head? = some first ∧ start <+: first := by
  obtain ⟨rest, rfl⟩ := starts
  obtain ⟨head, tail, rfl⟩ := List.exists_cons_of_ne_nil nonempty
  cases shape : rest.splitOn '/' with
  | nil => exact absurd shape (List.splitOn_ne_nil '/' rest)
  | cons component others =>
      refine ⟨head :: tail ++ component, ?_, List.prefix_append _ _⟩
      have kept : head :: tail ++ component ≠ [] ∧ head :: tail ++ component ≠ ['.'] := by
        refine ⟨by simp, fun dot => notDot ?_⟩
        rw [List.cons_append] at dot
        rw [(List.cons.inj dot).1]
        rfl
      rw [parts, splitOn_append_of_noSlash noSlash, shape, List.modifyHead_cons,
        List.filter_cons_of_pos]
      · rfl
      · exact decide_eq_true kept

theorem getLast?_joined (components : List (List Char)) {last : List Char} (nonempty : last ≠ []) :
    (joined (components ++ [last])).getLast? = last.getLast? := by
  induction components with
  | nil =>
      rw [List.nil_append, joined, List.intercalate_singleton]
  | cons first rest ih =>
      obtain ⟨second, others, shape⟩ :=
        List.exists_cons_of_ne_nil (List.append_ne_nil_of_right_ne_nil rest
          (List.cons_ne_nil last []))
      rw [List.cons_append, shape, joined_cons_cons, ← shape]
      rw [List.getLast?_append, List.getLast?_cons, ih]
      simp [List.getLast?_eq_some_getLast nonempty]

/-- The component in which a path ends, when it does not end in a slash or a dot. -/
theorem getLast?_parts {char : Char} (ends : text.getLast? = some char)
    (notSlash : char ≠ '/') (notDot : char ≠ '.') :
    ∃ last, (parts text).getLast? = some last ∧ last.getLast? = some char := by
  obtain ⟨initial, last, shape⟩ :=
    (List.eq_nil_or_concat (text.splitOn '/')).resolve_left (List.splitOn_ne_nil '/' text)
  rw [List.concat_eq_append] at shape
  have text_eq : text = joined (initial ++ [last]) := by
    rw [← shape]
    exact (List.intercalate_splitOn '/').symm
  have nonempty : last ≠ [] := by
    rintro rfl
    rw [text_eq] at ends
    cases initial with
    | nil => cases ends
    | cons first rest =>
        have slash : ∀ components : List (List Char), components ≠ [] →
            (joined (components ++ [[]])).getLast? = some '/' := by
          intro components
          induction components with
          | nil => exact fun absent => absurd rfl absent
          | cons component later ih =>
              intro _
              cases later with
              | nil => simp [joined, List.intercalate_cons_cons]
              | cons next later =>
                  have inner := ih (List.cons_ne_nil next later)
                  rw [List.cons_append, List.cons_append, joined_cons_cons, ← List.cons_append,
                    List.getLast?_append, List.getLast?_cons, inner]
                  rfl
        rw [slash _ (List.cons_ne_nil first rest)] at ends
        exact notSlash (Option.some.inj ends).symm
  have tail : last.getLast? = some char := by
    rw [← getLast?_joined initial nonempty, ← text_eq]
    exact ends
  refine ⟨last, ?_, tail⟩
  have kept : last ≠ [] ∧ last ≠ ['.'] := by
    refine ⟨nonempty, ?_⟩
    rintro rfl
    exact notDot (Option.some.inj tail).symm
  rw [parts, shape, List.filter_append, List.filter_cons_of_pos]
  · simp
  · exact decide_eq_true kept

theorem mem_of_mem_parts {part : List Char} (member : part ∈ parts text) {char : Char}
    (inside : char ∈ part) : char ∈ text := by
  have listed := (List.mem_filter.mp member).1
  rw [← @List.intercalate_splitOn Char text _ _ '/']
  exact Lists.mem_intercalate_of_mem listed inside

theorem asPosix_ne_nil (text : List Char) : asPosix text ≠ [] := by
  unfold asPosix
  split
  · simp
  · rename_i nonempty
    exact joined_ne_nil (fun _ => component_of_mem_parts) nonempty

theorem parts_asPosix (text : List Char) : parts (asPosix text) = parts text := by
  unfold asPosix
  split
  · rename_i empty
    rw [empty]
    rfl
  · exact parts_joined fun _ => component_of_mem_parts

theorem asPosix_asPosix (text : List Char) : asPosix (asPosix text) = asPosix text := by
  rw [asPosix, parts_asPosix]
  rfl

theorem not_isAbsolute_asPosix (text : List Char) : isAbsolute (asPosix text) = false := by
  unfold asPosix
  split
  · rfl
  · exact not_isAbsolute_joined fun _ => component_of_mem_parts

end ZaofuFormal.Foundation.PosixPath
