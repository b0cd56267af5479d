import Mathlib.Data.List.Infix

/-!
# Texts that a marker separates

A reader takes a fixed text off the front, a run of characters of one kind, or all up to
the next occurrence of a marker.  A part in which the marker does not occur is read back
whole, whatever follows, when the first character of the marker does not come back in it.
-/

namespace ZaofuFormal.Foundation.Delimited

variable {α : Type}

/-- The longest run of one kind at the front, when it is not empty. -/
def run? (kind : α → Bool) (chars : List α) : Option (List α × List α) :=
  if (chars.takeWhile kind).isEmpty then none
  else some (chars.takeWhile kind, chars.dropWhile kind)

theorem run?_append {kind : α → Bool} {body rest : List α} {stop : α} (filled : body ≠ [])
    (all : ∀ char ∈ body, kind char = true) (stops : kind stop = false) :
    run? kind (body ++ stop :: rest) = some (body, stop :: rest) := by
  have taken : (body ++ stop :: rest).takeWhile kind = body := by
    rw [List.takeWhile_append_of_pos all, List.takeWhile_cons, stops]
    exact List.append_nil body
  have left : (body ++ stop :: rest).dropWhile kind = stop :: rest := by
    rw [List.dropWhile_append_of_pos all, List.dropWhile_cons, stops]
    rfl
  rw [run?, taken, left, if_neg fun none => filled (List.isEmpty_iff.mp none)]

variable [DecidableEq α]

/-- What stands behind a fixed text. -/
def after? (text chars : List α) : Option (List α) :=
  if text.isPrefixOf chars then some (chars.drop text.length) else none

@[simp] theorem after?_append (text rest : List α) : after? text (text ++ rest) = some rest := by
  rw [after?, if_pos (List.isPrefixOf_iff_prefix.mpr (List.prefix_append text rest)),
    List.drop_left]

/-- What stands before a fixed text at the end, when it is not empty. -/
def before? (text chars : List α) : Option (List α) :=
  if text.isSuffixOf chars ∧ text.length < chars.length then
    some (chars.take (chars.length - text.length))
  else none

theorem before?_append {body : List α} (filled : body ≠ []) (text : List α) :
    before? text (body ++ text) = some body := by
  have long : text.length < (body ++ text).length := by
    have positive := List.length_pos_iff.mpr filled
    rw [List.length_append]
    omega
  rw [before?, if_pos ⟨List.isSuffixOf_iff_suffix.mpr (List.suffix_append body text), long⟩,
    List.length_append, Nat.add_sub_cancel, List.take_left]

/-- The text up to the next occurrence of a marker, and what starts there. -/
def cutBefore (marker : List α) : List α → List α × List α
  | [] => ([], [])
  | char :: rest =>
      if marker.isPrefixOf (char :: rest) then ([], char :: rest)
      else
        let later := cutBefore marker rest
        (char :: later.1, later.2)

/-- A tail that ends the text, or at which the marker stands. -/
def StartsAt (marker tail : List α) : Prop := tail = [] ∨ marker <+: tail

theorem cutBefore_startsAt {marker tail : List α} (start : StartsAt marker tail) :
    cutBefore marker tail = ([], tail) := by
  rcases start with rfl | here
  · rfl
  · cases tail with
    | nil => rfl
    | cons char rest => rw [cutBefore, if_pos (List.isPrefixOf_iff_prefix.mpr here)]

theorem cutBefore_append {marker body tail : List α} (start : StartsAt marker tail)
    (free : ∀ back, back ≠ [] → back <:+ body → ¬ marker <+: back ++ tail) :
    cutBefore marker (body ++ tail) = (body, tail) := by
  induction body with
  | nil => exact cutBefore_startsAt start
  | cons char rest ih =>
      have here := free (char :: rest) (List.cons_ne_nil _ _) (List.suffix_refl _)
      have later := ih fun back filled suffix =>
        free back filled (suffix.trans (List.suffix_cons char rest))
      have skip : ¬ marker.isPrefixOf (char :: (rest ++ tail)) = true := fun found =>
        here (List.isPrefixOf_iff_prefix.mp found)
      rw [List.cons_append, cutBefore, if_neg skip, later]

/-- A part that ends with the first character of the marker is read up to its end when
the marker does not occur before. -/
theorem cutBefore_part {mark : α} {others body tail : List α} (fresh : mark ∉ others)
    (more : others ≠ []) (free : ¬ mark :: others <:+: body)
    (start : StartsAt (mark :: others) tail) :
    cutBefore (mark :: others) (body ++ mark :: tail) = (body ++ [mark], tail) := by
  rw [List.append_cons]
  refine cutBefore_append start fun back filled suffix ⟨rest, same⟩ => ?_
  -- the part behind some place of the body, and the mark
  obtain ⟨inner, rfl⟩ : ∃ inner, back = inner ++ [mark] := by
    obtain ⟨front, split⟩ := suffix
    have last : back.getLast? = some mark := by
      have whole := congrArg List.getLast? split
      rwa [List.getLast?_append_of_ne_nil _ filled, List.getLast?_concat] at whole
    exact ⟨back.dropLast, (List.dropLast_append_getLast? mark last).symm⟩
  have inside : inner <:+ body := by
    obtain ⟨front, split⟩ := suffix
    rw [← List.append_assoc] at split
    exact ⟨front, (List.append_inj' split rfl).1⟩
  have occurs (whole : mark :: others <+: inner) : False :=
    free (whole.isInfix.trans inside.isInfix)
  rw [List.append_assoc, List.singleton_append, List.append_eq_append_iff] at same
  rcases same with ⟨between, rfl, _⟩ | ⟨between, split, cut⟩
  · exact occurs (List.prefix_append _ _)
  · cases between with
    | nil => exact occurs (by rw [split, List.append_nil])
    | cons first between =>
        obtain ⟨rfl, behind⟩ := List.cons.inj cut
        cases inner with
        | cons char inner =>
            -- the mark would come back in the marker
            obtain ⟨rfl, repeated⟩ := List.cons.inj split
            exact fresh (repeated ▸ List.mem_append_right inner List.mem_cons_self)
        | nil =>
            obtain ⟨_, rfl⟩ := List.cons.inj split
            rcases start with rfl | ⟨after, marked⟩
            · exact more (List.append_eq_nil_iff.mp behind.symm).1
            · cases others with
              | nil => exact more rfl
              | cons other others =>
                  rw [behind] at marked
                  obtain ⟨rfl, _⟩ := List.cons.inj marked
                  exact fresh List.mem_cons_self

end ZaofuFormal.Foundation.Delimited
