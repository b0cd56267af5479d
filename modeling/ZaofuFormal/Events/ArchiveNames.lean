import ZaofuFormal.Events.ReadAll

/-!
# Archive names

An archive holds a day or a numbered segment of a day.  Its name is compared
with other names as a text, and the comparison agrees with the time order as
long as no number takes a fifth digit.
-/

namespace ZaofuFormal.Events

open Foundation

/-- What the stem of an archive name stands for. -/
inductive Stem where
  | segment (day : String) (ordinal : Nat)
  | wholeDay (day : String)
  deriving DecidableEq

def Stem.text : Stem → String
  | segment day ordinal => sizeArchive day ordinal
  | wholeDay day => day

def Stem.day : Stem → String
  | segment day _ => day
  | wholeDay day => day

/-- A day text of ten characters, and a number of four digits. -/
def Stem.Fits : Stem → Prop
  | segment day ordinal => day.length = 10 ∧ ordinal ≤ 9999
  | wholeDay day => day.length = 10

/-- The segments of a day come before the rest of the day, by number. -/
def Stem.Before : Stem → Stem → Prop
  | segment day first, segment other second => day < other ∨ day = other ∧ first < second
  | segment day _, wholeDay other => day ≤ other
  | wholeDay day, segment other _ => day < other
  | wholeDay day, wholeDay other => day < other

theorem Stem.Fits.length_day {stem : Stem} (fits : stem.Fits) : stem.day.length = 10 := by
  cases stem with
  | segment day ordinal => exact fits.1
  | wholeDay day => exact fits

variable {first second : Stem}

theorem Stem.before_of_day_lt (earlier : first.day < second.day) : first.Before second := by
  cases first with
  | segment day ordinal =>
      cases second with
      | segment other number => exact Or.inl earlier
      | wholeDay other => exact le_of_lt earlier
  | wholeDay day => cases second <;> exact earlier

theorem Stem.Before.day_le (before : first.Before second) : first.day ≤ second.day := by
  cases first with
  | segment day ordinal =>
      cases second with
      | segment other number =>
          rcases before with earlier | ⟨same, _⟩
          · exact le_of_lt earlier
          · exact le_of_eq same
      | wholeDay other => exact before
  | wholeDay day => cases second <;> exact le_of_lt before

theorem toList_ordinalText (ordinal : Nat) :
    (ordinalText ordinal).toList = Padded.digits 4 ordinal := by
  rw [ordinalText, String.toList_append, String.toList_ofList, Nat.toString_eq_repr,
    Nat.toList_repr, Padded.digits, ← String.length_toList, Nat.toList_repr]

theorem sizeArchive_injective (day : String) : Function.Injective (sizeArchive day) := by
  intro first second same
  apply Padded.digits_injective 4
  rw [← toList_ordinalText, ← toList_ordinalText, String.append_right_inj (day ++ "-") |>.mp same]

/-- What follows the day in the name of an archive. -/
def Stem.rest : Stem → List Char
  | segment _ ordinal => '-' :: Padded.digits 4 ordinal ++ ".jsonl".toList
  | wholeDay _ => ".jsonl".toList

theorem Stem.toList_archiveName (stem : Stem) :
    (archiveName stem.text).toList = stem.day.toList ++ stem.rest := by
  cases stem with
  | segment day ordinal =>
      rw [archiveName, text, sizeArchive, String.toList_append, String.toList_append,
        String.toList_append, toList_ordinalText, List.append_assoc, List.append_assoc]
      rfl
  | wholeDay day => exact String.toList_append

theorem Stem.rest_lt (fits : second.Fits) (same : first.day = second.day)
    (before : first.Before second) : first.rest < second.rest := by
  cases first with
  | segment day ordinal =>
      cases second with
      | segment other number =>
          have less : ordinal < number := by
            rcases before with earlier | ⟨_, less⟩
            · exact absurd same (ne_of_lt earlier)
            · exact less
          have bound : number < 10 ^ 4 := Nat.lt_succ_of_le fits.2
          apply List.Lex.cons
          apply Padded.append_lt_append
          · rw [Padded.length_digits (by decide) (Nat.lt_trans less bound),
              Padded.length_digits (by decide) bound]
          · exact Padded.digits_lt (by decide) less bound
      | wholeDay other => exact Padded.cons_lt_cons (by decide) _ _
  | wholeDay day => cases second <;> exact absurd same (ne_of_lt before)

/-- The names of archives are in the order of their times. -/
theorem Stem.archiveName_lt (firstFits : first.Fits)
    (secondFits : second.Fits) (before : first.Before second) :
    archiveName first.text < archiveName second.text := by
  rw [String.lt_iff_toList_lt, toList_archiveName, toList_archiveName]
  by_cases same : first.day = second.day
  · rw [same]
    exact List.append_left_lt (rest_lt secondFits same before)
  · have earlier : first.day < second.day := lt_of_le_of_ne before.day_le same
    apply Padded.append_lt_append
    · rw [String.length_toList, String.length_toList, firstFits.length_day,
        secondFits.length_day]
    · exact String.lt_iff_toList_lt.mp earlier

/-- More numbers than archives cannot all be taken. -/
theorem exists_free_ordinal (archives : Dict String Bytes) (day : String) :
    ∃ ordinal ∈ List.range' 1 (archives.entries.length + 1),
      archives.contains (sizeArchive day ordinal) = false := by
  by_contra taken
  have inside : (List.range' 1 (archives.entries.length + 1)).map (sizeArchive day) ⊆
      archives.keys := by
    intro stem listed
    obtain ⟨ordinal, member, rfl⟩ := List.mem_map.mp listed
    rw [← Dict.contains_iff_mem_keys]
    exact Bool.eq_true_of_not_eq_false fun free => taken ⟨ordinal, member, free⟩
  have distinct := (List.nodup_range' (s := 1) (n := archives.entries.length + 1)).map
    (sizeArchive_injective day)
  have count := (List.subperm_of_subset distinct inside).length_le
  rw [List.length_map, List.length_range', Dict.keys, List.length_map] at count
  exact Nat.not_succ_le_self _ count

theorem freeOrdinal_spec (archives : Dict String Bytes) (day : String) :
    archives.contains (sizeArchive day (freeOrdinal archives day)) = false ∧
      1 ≤ freeOrdinal archives day ∧
      ∀ ordinal, 1 ≤ ordinal → ordinal < freeOrdinal archives day →
        archives.contains (sizeArchive day ordinal) = true := by
  obtain ⟨ordinal, listed, free⟩ := exists_free_ordinal archives day
  cases search : (List.range' 1 (archives.entries.length + 1)).find? fun ordinal =>
      !archives.contains (sizeArchive day ordinal) with
  | none =>
      have taken := List.find?_eq_none.mp search ordinal listed
      exact absurd free (by simpa using taken)
  | some found =>
      obtain ⟨unused, member, earlier⟩ := List.find?_range'_eq_some.mp search
      rw [freeOrdinal, search, Option.getD_some]
      refine ⟨by simpa using unused, (List.mem_range'_1.mp member).1, ?_⟩
      intro other positive below
      simpa using earlier other positive below

/-- A free number is not below the one that is taken next. -/
theorem freeOrdinal_le {archives : Dict String Bytes} {day : String} {ordinal : Nat}
    (positive : 1 ≤ ordinal) (free : archives.contains (sizeArchive day ordinal) = false) :
    freeOrdinal archives day ≤ ordinal := by
  by_contra above
  have taken := (freeOrdinal_spec archives day).2.2 ordinal positive (Nat.not_le.mp above)
  rw [free] at taken
  exact absurd taken Bool.false_ne_true

end ZaofuFormal.Events
