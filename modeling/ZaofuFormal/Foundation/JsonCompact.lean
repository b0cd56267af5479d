import ZaofuFormal.Foundation.JsonText

/-!
# JSON texts with members in their own order

The serializer with given separators, and the reader on what the compact one has
written: values whose objects have distinct names and whose floats are read back
from their own text are read back as they were.
-/

namespace ZaofuFormal.Foundation.JsonText

open Json (doubleQuote)

mutual

/-- `json.dumps(value, ensure_ascii=False, separators=(comma, colon))`. -/
def write (comma colon : List Char) : Json → List Char
  | .null => "null".toList
  | .bool true => "true".toList
  | .bool false => "false".toList
  | .int value => intText value
  | .float _ repr => repr.toList
  | .str value => quoted value
  | .arr items => '[' :: (comma.intercalate (writeItems comma colon items) ++ [']'])
  | .obj fields =>
      openBrace :: (comma.intercalate (writeFields comma colon fields) ++ [closeBrace])

def writeItems (comma colon : List Char) : List Json → List (List Char)
  | [] => []
  | item :: rest => write comma colon item :: writeItems comma colon rest

def writeFields (comma colon : List Char) : List (String × Json) → List (List Char)
  | [] => []
  | (key, value) :: rest =>
      (quoted key ++ (colon ++ write comma colon value)) :: writeFields comma colon rest

end

/-- Without white space. -/
def compact : Json → List Char := write [','] [':']

/-- With the separators of the serializer. -/
def spaced : Json → List Char := write [',', ' '] [':', ' ']

section ReadBack

variable (float : String → Json)

/-- The text of a float is read as this float, whatever follows it. -/
def ReadsBack (value : Rat) (repr : String) : Prop :=
  ∀ fuel stop rest, numeric stop = false →
    readValue float (fuel + 1) (repr.toList ++ stop :: rest) =
      some (.float value repr, stop :: rest)

mutual

/-- Names are distinct and floats are read back. -/
def Plain : Json → Prop
  | .float value repr => ReadsBack float value repr
  | .arr items => PlainItems items
  | .obj fields => (fields.map Prod.fst).Nodup ∧ PlainFields fields
  | _ => True

def PlainItems : List Json → Prop
  | [] => True
  | item :: rest => Plain item ∧ PlainItems rest

def PlainFields : List (String × Json) → Prop
  | [] => True
  | (_, value) :: rest => Plain value ∧ PlainFields rest

end

mutual

/-- Enough fuel for a value. -/
def size : Json → Nat
  | .arr items => 1 + sizeItems items
  | .obj fields => 1 + sizeFields fields
  | _ => 0

def sizeItems : List Json → Nat
  | [] => 0
  | item :: rest => 1 + size item + sizeItems rest

def sizeFields : List (String × Json) → Nat
  | [] => 0
  | (_, value) :: rest => 1 + size value + sizeFields rest

end

theorem plainItems_iff (items : List Json) :
    PlainItems float items ↔ ∀ item ∈ items, Plain float item := by
  induction items with
  | nil => simp [PlainItems]
  | cons item rest ih => simp [PlainItems, ih]

theorem plainFields_iff (fields : List (String × Json)) :
    PlainFields float fields ↔ ∀ entry ∈ fields, Plain float entry.2 := by
  induction fields with
  | nil => simp [PlainFields]
  | cons entry rest ih => simp [PlainFields, ih]

/-- Nothing is read where a value is neither begun. -/
theorem readValue_none {char : Char} (other : char = ']' ∨ isBlank char = true) (fuel : Nat)
    (rest : List Char) : readValue float fuel (char :: rest) = none := by
  have apart : char ≠ doubleQuote ∧ char ≠ openBrace ∧ char ≠ '[' ∧ char ≠ 'n' ∧ char ≠ 't' ∧
      char ≠ 'f' ∧ char ≠ 'N' ∧ char ≠ '-' ∧ char ≠ '0' ∧ char.isDigit = false ∧ char ≠ 'I' := by
    rcases other with rfl | blank
    · decide
    · simp only [isBlank, Bool.or_eq_true, beq_iff_eq] at blank
      rcases blank with ((rfl | code) | code) | code
      · decide
      all_goals
        rw [← ofNat_of_toNat code]
        decide
  obtain ⟨quote, brace, bracket, null, true', false', nan, minus, zero, digit, infinity⟩ := apart
  have literal : literal? float char = none := by
    rw [literal?, if_neg null, if_neg true', if_neg false', if_neg nan]
  have notInfinity : "Infinity".toList.isPrefixOf (char :: rest) = false := by
    simp [List.isPrefixOf, Ne.symm infinity]
  cases fuel with
  | zero => rw [readValue]
  | succ fuel =>
      rw [readValue, if_neg quote, if_neg brace, if_neg bracket, readAtom, literal]
      change readNumber float (char :: rest) = none
      rw [readNumber, readMinus, if_neg minus]
      have integer : readInteger (char :: rest) = none := by
        rw [readInteger, if_neg zero, if_neg (by simp [digit])]
      unfold readUnsigned
      simp only [integer, notInfinity, Bool.false_eq_true, if_false]

variable {fuel : Nat} {items : List Json} {fields : List (String × Json)}

/-- What is read starts with a character that is neither white space nor a closing bracket. -/
theorem head_of_read {chars : List Char} {found : Json × List Char}
    (read : readValue float fuel chars = some found) :
    ∃ head rest, chars = head :: rest ∧ isBlank head = false ∧ head ≠ ']' := by
  cases chars with
  | nil => cases fuel <;> cases read
  | cons head rest =>
      refine ⟨head, rest, rfl, ?_, ?_⟩
      · by_contra blank
        rw [readValue_none float (.inr (by simpa using blank))] at read
        cases read
      · rintro rfl
        rw [readValue_none float (.inl rfl)] at read
        cases read

/-- White space after the comma and the colon. -/
def Gap (gap : List Char) : Prop := ∀ char ∈ gap, isBlank char = true

/-- Items after a comma and members' values after a colon, each with the gap between. -/
abbrev gapped (gap : List Char) : Json → List Char := write (',' :: gap) (':' :: gap)

theorem compact_eq : compact = gapped [] := rfl

theorem gap_nil : Gap [] := fun _ none => absurd none List.not_mem_nil

theorem gap_space : Gap [' '] := by
  intro char member
  rw [List.mem_singleton.mp member]
  decide

theorem skip_gap {gap : List Char} (blank : Gap gap) (rest : List Char) :
    skip (gap ++ rest) = skip rest := by
  rw [skip, List.dropWhile_append_of_pos blank]
  rfl

variable {gap : List Char}

theorem gapped_head (gap : List Char) {value : Json} (plain : Plain float value) :
    ∃ head rest, gapped gap value = head :: rest ∧ isBlank head = false ∧ head ≠ ']' := by
  cases value with
  | null => exact ⟨'n', _, rfl, by decide, by decide⟩
  | bool value => cases value <;> exact ⟨_, _, rfl, by decide, by decide⟩
  | str value => exact ⟨doubleQuote, _, rfl, by decide, by decide⟩
  | arr items => exact ⟨'[', _, rfl, by decide, by decide⟩
  | obj fields => exact ⟨openBrace, _, rfl, by decide, by decide⟩
  | int value =>
      have read := readValue_scalar float 0 (.int value) (show numeric ',' = false by decide) []
      obtain ⟨head, rest, shape, solid, other⟩ := head_of_read float read
      obtain ⟨first, tail, text, _⟩ := intText_head value
      refine ⟨first, tail, text, ?_⟩
      change intText value ++ _ = _ at shape
      rw [text, List.cons_append] at shape
      rw [(List.cons.inj shape).1]
      exact ⟨solid, other⟩
  | float value repr =>
      have back : ReadsBack float value repr := plain
      change ∃ head rest, repr.toList = head :: rest ∧ _
      cases text : repr.toList with
      | nil =>
          have read := back 0 ']' [] (by decide)
          rw [text, List.nil_append, readValue_none float (.inl rfl)] at read
          cases read
      | cons head tail =>
          have read := back 0 ']' [] (by decide)
          obtain ⟨first, rest, shape, solid, other⟩ := head_of_read float read
          rw [text, List.cons_append] at shape
          exact ⟨head, tail, rfl, (List.cons.inj shape).1 ▸ solid, (List.cons.inj shape).1 ▸ other⟩

theorem skip_gapped (gap : List Char) {value : Json} (plain : Plain float value)
    (rest : List Char) :
    skip (gapped gap value ++ rest) = gapped gap value ++ rest := by
  obtain ⟨head, tail, shape, solid, _⟩ := gapped_head float gap plain
  rw [shape, List.cons_append, skip_head solid]

theorem intercalate_cons (separator text : List Char) (others : List (List Char)) :
    ∃ more, separator.intercalate (text :: others) = text ++ more := by
  cases others with
  | nil => exact ⟨[], by rw [List.intercalate_singleton, List.append_nil]⟩
  | cons other others =>
      exact ⟨separator ++ separator.intercalate (other :: others),
        by rw [List.intercalate_cons_cons, List.append_assoc]⟩

/-- The items of an array, up to its end. -/
theorem readItems_written (blank : Gap gap) (nonempty : items ≠ [])
    (plain : PlainItems float items) (enough : sizeItems items < fuel)
    (back : ∀ item ∈ items, ∀ fuel stop rest, size item < fuel → numeric stop = false →
      readValue float fuel (gapped gap item ++ stop :: rest) = some (item, stop :: rest))
    (before : List Json) (rest : List Char) :
    readItems float fuel before ((',' :: gap).intercalate (writeItems (',' :: gap) (':' :: gap)
      items) ++ ']' :: rest) = some (.arr (before ++ items), rest) := by
  induction items generalizing fuel before with
  | nil => exact absurd rfl nonempty
  | cons item others ih =>
      rw [sizeItems] at enough
      obtain ⟨fuel, rfl⟩ : ∃ less, fuel = less + 1 := ⟨fuel - 1, by omega⟩
      have value := back item List.mem_cons_self fuel
      cases others with
      | nil =>
          have close : expect ']' (']' :: rest) = some rest := expect_head (by decide) rest
          have written : writeItems (',' :: gap) (':' :: gap) [item] = [gapped gap item] := rfl
          rw [written, List.intercalate_singleton, readItems,
            value ']' rest (by omega) (by decide), Option.bind_some]
          simp only [close]
      | cons next others =>
          have separated : ∀ text, expect ']' (',' :: text) = none :=
            expect_other (by decide) (by decide)
          have comma : ∀ text, expect ',' (',' :: text) = some text := expect_head (by decide)
          have later := ih (List.cons_ne_nil next others) plain.2 (by omega : _ < fuel)
            (fun other member => back other (List.mem_cons_of_mem _ member)) (before ++ [item])
          have written : ∀ first others, writeItems (',' :: gap) (':' :: gap) (first :: others) =
              gapped gap first :: writeItems (',' :: gap) (':' :: gap) others := fun _ _ => rfl
          obtain ⟨more, shape⟩ := intercalate_cons (',' :: gap) (gapped gap next)
            (writeItems (',' :: gap) (':' :: gap) others)
          rw [written next, shape, List.append_assoc] at later
          rw [written, written, List.intercalate_cons_cons, shape]
          simp only [List.append_assoc, List.cons_append]
          rw [readItems, value ',' _ (by omega) (by decide), Option.bind_some]
          simp only [separated, comma, Option.bind_some, skip_gap blank,
            skip_gapped float gap plain.2.1]
          rw [later, List.append_assoc]
          rfl

/-- The members of an object, up to its end. -/
theorem readFields_written (blank : Gap gap)
    (nonempty : fields ≠ []) (plain : PlainFields float fields)
    (enough : sizeFields fields < fuel)
    (back : ∀ entry ∈ fields, ∀ fuel stop rest, size entry.2 < fuel → numeric stop = false →
      readValue float fuel (gapped gap entry.2 ++ stop :: rest) = some (entry.2, stop :: rest))
    (before : List (String × Json))
    (distinct : ((before ++ fields).map Prod.fst).Nodup) (rest : List Char) :
    readFields float fuel before ((',' :: gap).intercalate (writeFields (',' :: gap)
      (':' :: gap) fields) ++ closeBrace :: rest) = some (.obj (before ++ fields), rest) := by
  induction fields generalizing fuel before with
  | nil => exact absurd rfl nonempty
  | cons entry others ih =>
      obtain ⟨key, value⟩ := entry
      rw [sizeFields] at enough
      obtain ⟨fuel, rfl⟩ : ∃ less, fuel = less + 1 := ⟨fuel - 1, by omega⟩
      have small : size value < fuel := by omega
      have read := fun stop rest => back (key, value) List.mem_cons_self fuel stop rest small
      have fresh : key ∉ before.map Prod.fst := by
        rw [List.map_append, List.map_cons] at distinct
        exact fun inside => (List.nodup_append.mp distinct).2.2 key inside key
          List.mem_cons_self rfl
      have put : Dict.put key value before = before ++ [(key, value)] :=
        Dict.put_of_notMem fresh value
      have start : ∀ text, skip (gap ++ (gapped gap value ++ text)) = gapped gap value ++ text :=
        fun text => (skip_gap blank _).trans (skip_gapped float gap plain.1 text)
      have written : ∀ key value others,
          writeFields (',' :: gap) (':' :: gap) ((key, value) :: others) =
            (quoted key ++ ':' :: (gap ++ gapped gap value)) ::
              writeFields (',' :: gap) (':' :: gap) others := fun _ _ _ => rfl
      cases others with
      | nil =>
          have close : expect closeBrace (closeBrace :: rest) = some rest :=
            expect_head (by decide) rest
          rw [written, writeFields, List.intercalate_singleton, readFields]
          simp only [List.append_assoc, List.cons_append]
          rw [readKey_quoted, Option.bind_some]
          simp only [start]
          rw [read closeBrace rest (by decide), Option.bind_some]
          simp only [close, String.ofList_toList, put]
      | cons next others =>
          obtain ⟨name, second⟩ := next
          have separated : ∀ text, expect closeBrace (',' :: text) = none :=
            expect_other (by decide) (by decide)
          have comma : ∀ text, expect ',' (',' :: text) = some text := expect_head (by decide)
          have joined : ((before ++ [(key, value)] ++ (name, second) :: others).map
              Prod.fst).Nodup := by
            rw [List.append_assoc]
            exact distinct
          have later := ih (List.cons_ne_nil (name, second) others) plain.2
            (by omega : _ < fuel) (fun other member => back other (List.mem_cons_of_mem _ member))
            _ joined
          have solid : ∀ tail, skip (quoted name ++ tail) = quoted name ++ tail :=
            fun tail => skip_head (by decide) _
          obtain ⟨more, shape⟩ := intercalate_cons (',' :: gap)
            (quoted name ++ ':' :: (gap ++ gapped gap second))
            (writeFields (',' :: gap) (':' :: gap) others)
          rw [written name, shape, List.append_assoc, List.append_assoc] at later
          rw [written, written, List.intercalate_cons_cons, shape, readFields]
          simp only [List.append_assoc, List.cons_append] at later ⊢
          rw [readKey_quoted, Option.bind_some]
          simp only [start]
          rw [read ',' _ (by decide), Option.bind_some]
          simp only [separated, comma, Option.bind_some, skip_gap blank, solid,
            String.ofList_toList, put]
          rw [later, List.nil_append]

theorem size_lt_sizeItems {item : Json} (member : item ∈ items) : size item < sizeItems items := by
  induction items with
  | nil => cases member
  | cons first rest ih =>
      rw [sizeItems]
      rcases List.mem_cons.mp member with rfl | later
      · exact Nat.lt_of_lt_of_le (Nat.lt_add_of_pos_left Nat.zero_lt_one) (Nat.le_add_right _ _)
      · exact Nat.lt_of_lt_of_le (ih later) (Nat.le_add_left _ _)

theorem size_lt_sizeFields {entry : String × Json}
    (member : entry ∈ fields) : size entry.2 < sizeFields fields := by
  induction fields with
  | nil => cases member
  | cons first rest ih =>
      obtain ⟨key, value⟩ := first
      rw [sizeFields]
      rcases List.mem_cons.mp member with rfl | later
      · exact Nat.lt_of_lt_of_le (Nat.lt_add_of_pos_left Nat.zero_lt_one) (Nat.le_add_right _ _)
      · exact Nat.lt_of_lt_of_le (ih later) (Nat.le_add_left _ _)

/-- An object, whatever follows it. -/
theorem readObject_written (blank : Gap gap)
    (plain : Plain float (.obj fields)) (enough : sizeFields fields < fuel)
    (back : ∀ entry ∈ fields, ∀ fuel stop rest, size entry.2 < fuel → numeric stop = false →
      readValue float fuel (gapped gap entry.2 ++ stop :: rest) = some (entry.2, stop :: rest))
    (rest : List Char) :
    readValue float (fuel + 1) (gapped gap (.obj fields) ++ rest) = some (.obj fields, rest) := by
  have body : gapped gap (.obj fields) ++ rest =
      openBrace :: ((',' :: gap).intercalate (writeFields (',' :: gap) (':' :: gap) fields) ++
        closeBrace :: rest) := by
    simp [gapped, write]
  have other : openBrace ≠ doubleQuote := by decide
  rw [body, readValue, if_neg other, if_pos rfl]
  cases fields with
  | nil =>
      have close : ∀ text, expect closeBrace (closeBrace :: text) = some text :=
        expect_head (by decide)
      simp only [writeFields, List.intercalate_nil, List.nil_append, close]
  | cons first fields =>
      obtain ⟨key, value⟩ := first
      obtain ⟨more, shape⟩ := intercalate_cons (',' :: gap)
        (quoted key ++ ':' :: (gap ++ gapped gap value))
        (writeFields (',' :: gap) (':' :: gap) fields)
      have open' : ∀ rest, expect closeBrace (quoted key ++ rest) = none :=
        fun rest => expect_other (by decide) (by decide) _
      have solid : ∀ rest, skip (quoted key ++ rest) = quoted key ++ rest :=
        fun rest => skip_head (by decide) _
      have read := readFields_written float blank (List.cons_ne_nil (key, value) fields)
        plain.2 enough back [] plain.1 rest
      rw [show writeFields (',' :: gap) (':' :: gap) ((key, value) :: fields) =
        (quoted key ++ ':' :: (gap ++ gapped gap value)) ::
          writeFields (',' :: gap) (':' :: gap) fields from rfl, shape] at read ⊢
      simp only [List.append_assoc] at read ⊢
      simp only [open', solid]
      rw [read, List.nil_append]

/-- An array, whatever follows it. -/
theorem readArray_written (blank : Gap gap) (plain : Plain float (.arr items))
    (enough : sizeItems items < fuel)
    (back : ∀ item ∈ items, ∀ fuel stop rest, size item < fuel → numeric stop = false →
      readValue float fuel (gapped gap item ++ stop :: rest) = some (item, stop :: rest))
    (rest : List Char) :
    readValue float (fuel + 1) (gapped gap (.arr items) ++ rest) = some (.arr items, rest) := by
  have body : gapped gap (.arr items) ++ rest =
      '[' :: ((',' :: gap).intercalate (writeItems (',' :: gap) (':' :: gap) items) ++
        ']' :: rest) := by
    simp [gapped, write]
  have others : ('[' : Char) ≠ doubleQuote ∧ ('[' : Char) ≠ openBrace := by decide
  rw [body, readValue, if_neg others.1, if_neg others.2, if_pos rfl]
  cases items with
  | nil =>
      have close : ∀ text, expect ']' (']' :: text) = some text := expect_head (by decide)
      simp only [writeItems, List.intercalate_nil, List.nil_append, close]
  | cons first items =>
      obtain ⟨more, shape⟩ := intercalate_cons (',' :: gap) (gapped gap first)
        (writeItems (',' :: gap) (':' :: gap) items)
      obtain ⟨head, tail, text, solid, other⟩ := gapped_head float gap plain.1
      have open' : ∀ rest, expect ']' (head :: rest) = none := expect_other solid other
      have read := readItems_written float blank (List.cons_ne_nil first items) plain enough
        back [] rest
      rw [show writeItems (',' :: gap) (':' :: gap) (first :: items) =
        gapped gap first :: writeItems (',' :: gap) (':' :: gap) items from rfl, shape, text]
        at read ⊢
      simp only [List.cons_append] at read ⊢
      simp only [open', skip_head solid]
      rw [read, List.nil_append]

theorem readValue_gapped (blank : Gap gap) {value : Json} (plain : Plain float value)
    (enough : size value < fuel) {stop : Char} (stops : numeric stop = false)
    (rest : List Char) :
    readValue float fuel (gapped gap value ++ stop :: rest) = some (value, stop :: rest) := by
  -- on the size of the value
  induction bound : size value using Nat.strongRecOn generalizing value fuel stop rest with
  | ind bound ih =>
  subst bound
  obtain ⟨fuel, rfl⟩ : ∃ less, fuel = less + 1 := ⟨fuel - 1, by omega⟩
  cases value with
  | null => exact readValue_scalar float fuel .null stops rest
  | bool value => cases value <;> rfl
  | int value => exact readValue_scalar float fuel (.int value) stops rest
  | str value => exact readValue_scalar float fuel (.str value) stops rest
  | float value repr => exact plain fuel stop rest stops
  | arr items =>
      rw [size] at enough
      exact readArray_written float blank plain (by omega) (fun item member _ _ rest enough stops =>
        ih (size item) (Nat.lt_of_lt_of_le (size_lt_sizeItems member) (Nat.le_add_left _ _))
          ((plainItems_iff float _).mp plain item member) enough stops rest rfl) (stop :: rest)
  | obj fields =>
      rw [size] at enough
      exact readObject_written float blank plain (by omega) (fun entry member _ _ rest enough stops =>
        ih (size entry.2) (Nat.lt_of_lt_of_le (size_lt_sizeFields member) (Nat.le_add_left _ _))
          ((plainFields_iff float _).mp plain.2 entry member) enough stops rest rfl) (stop :: rest)

theorem length_intercalate (gap : List Char) (texts : List (List Char)) :
    (texts.map fun text => text.length + 1).sum ≤ ((',' :: gap).intercalate texts).length + 1 := by
  induction texts with
  | nil => exact Nat.zero_le _
  | cons text others ih =>
      cases others with
      | nil => simp
      | cons next others =>
          rw [List.intercalate_cons_cons, List.map_cons, List.sum_cons]
          simp only [List.length_append, List.length_cons] at ih ⊢
          omega

/-- The text is long enough to serve as the fuel. -/
theorem size_le_length (gap : List Char) (value : Json) :
    size value ≤ (gapped gap value).length := by
  induction bound : size value using Nat.strongRecOn generalizing value with
  | ind bound ih =>
  subst bound
  cases value with
  | arr items =>
      have later : ∀ items' : List Json, (∀ item ∈ items', item ∈ items) → sizeItems items' ≤
          ((writeItems (',' :: gap) (':' :: gap) items').map fun text => text.length + 1).sum := by
        intro items' inside
        induction items' with
        | nil => exact Nat.le_refl _
        | cons item rest rec =>
            have first := ih (size item) (Nat.lt_of_lt_of_le
              (size_lt_sizeItems (inside item List.mem_cons_self)) (Nat.le_add_left _ _)) item rfl
            have others := rec fun other member => inside other (List.mem_cons_of_mem item member)
            rw [sizeItems, writeItems, List.map_cons, List.sum_cons]
            simp only [gapped] at first
            omega
      have all := later items fun _ member => member
      have long := length_intercalate gap (writeItems (',' :: gap) (':' :: gap) items)
      rw [size, gapped, write, List.length_cons, List.length_append, List.length_singleton]
      omega
  | obj fields =>
      have later : ∀ fields' : List (String × Json), (∀ entry ∈ fields', entry ∈ fields) →
          sizeFields fields' ≤ ((writeFields (',' :: gap) (':' :: gap) fields').map
            fun text => text.length + 1).sum := by
        intro fields' inside
        induction fields' with
        | nil => exact Nat.le_refl _
        | cons entry rest rec =>
            obtain ⟨key, value⟩ := entry
            have first := ih (size value) (Nat.lt_of_lt_of_le
              (size_lt_sizeFields (inside (key, value) List.mem_cons_self)) (Nat.le_add_left _ _))
              value rfl
            have others := rec fun other member => inside other (List.mem_cons_of_mem _ member)
            rw [sizeFields, writeFields, List.map_cons, List.sum_cons, List.length_append,
              List.length_append]
            simp only [gapped] at first
            omega
      have all := later fields fun _ member => member
      have long := length_intercalate gap (writeFields (',' :: gap) (':' :: gap) fields)
      rw [size, gapped, write, List.length_cons, List.length_append, List.length_singleton]
      omega
  | _ => exact Nat.zero_le _

/-- The text of an object is read as this object. -/
theorem loads_gapped (blank : Gap gap) (plain : Plain float (.obj fields)) :
    loads float (gapped gap (.obj fields)) = some (.obj fields) := by
  have enough : sizeFields fields < (gapped gap (.obj fields)).length := by
    have long := size_le_length gap (.obj fields)
    rw [size] at long
    omega
  have read := readObject_written float blank plain enough (fun entry member _ _ rest small stops =>
    readValue_gapped float blank ((plainFields_iff float _).mp plain.2 entry member) small stops
      rest) []
  have start := skip_gapped float gap plain []
  rw [List.append_nil] at read start
  rw [loads, start, read]
  rfl

/-- Two values with one text are one value. -/
theorem gapped_injective (blank : Gap gap) {first second : Json} (plain : Plain float first)
    (plainSecond : Plain float second) (same : gapped gap first = gapped gap second) :
    first = second := by
  have stops : numeric ',' = false := by decide
  have read := readValue_gapped float blank plain
    (Nat.lt_succ_of_le (Nat.le_max_left (size first) (size second))) stops []
  have readSecond := readValue_gapped float blank plainSecond
    (Nat.lt_succ_of_le (Nat.le_max_right (size first) (size second))) stops []
  rw [same, readSecond] at read
  exact (Prod.mk.inj (Option.some.inj read)).1.symm

end ReadBack

section Read

variable {float : String → Json}

/-- The floats of the reader are read back from their own texts. -/
def FloatLaw (float : String → Json) : Prop := ∀ text, Plain float (float text)

variable {value : Json}

theorem readUnsigned_plain (law : FloatLaw float) {sign chars left : List Char}
    (read : readUnsigned float sign chars = some (value, left)) : Plain float value := by
  unfold readUnsigned at read
  cases integer : readInteger chars with
  | none =>
      simp only [integer] at read
      split at read
      · rw [← (Prod.mk.inj (Option.some.inj read)).1]
        exact law _
      · cases read
  | some found =>
      obtain ⟨digits, rest⟩ := found
      simp only [integer] at read
      split at read
      · rw [← (Prod.mk.inj (Option.some.inj read)).1]
        exact trivial
      · rw [← (Prod.mk.inj (Option.some.inj read)).1]
        exact law _

theorem literal_plain (law : FloatLaw float) {char : Char} {text : String}
    (found : literal? float char = some (text, value)) : Plain float value := by
  unfold literal? at found
  repeat' split at found
  all_goals first
    | (rw [← (Prod.mk.inj (Option.some.inj found)).2]
       first | exact trivial | exact law _)
    | cases found

theorem readAtom_plain (law : FloatLaw float) {char : Char} {rest left : List Char}
    (read : readAtom float char rest = some (value, left)) :
    Plain float value := by
  unfold readAtom at read
  cases constant : literal? float char with
  | none =>
      simp only [constant] at read
      exact readUnsigned_plain law read
  | some found =>
      obtain ⟨text, known⟩ := found
      simp only [constant] at read
      split at read
      · rw [← (Prod.mk.inj (Option.some.inj read)).1]
        exact literal_plain law constant
      · cases read

theorem put_plain {key : String} {fields : List (String × Json)}
    (plain : Plain float value) (before : Plain float (.obj fields)) :
    Plain float (.obj (Dict.put key value fields)) := by
  refine ⟨Dict.nodup_put key value before.1, (plainFields_iff float _).mpr ?_⟩
  intro entry member
  rcases Dict.mem_put member with rfl | old
  · exact plain
  · exact (plainFields_iff float _).mp before.2 entry old

/-- One more item or member is read after plain ones. -/
theorem readers_plain (law : FloatLaw float) (fuel : Nat) :
    (∀ chars value left, readValue float fuel chars = some (value, left) →
      Plain float value) ∧
    (∀ fields chars value left, Plain float (.obj fields) →
      readFields float fuel fields chars = some (value, left) → Plain float value) ∧
    (∀ items chars value left, Plain float (.arr items) →
      readItems float fuel items chars = some (value, left) → Plain float value) := by
  induction fuel with
  | zero =>
      refine ⟨?_, ?_, ?_⟩
      · intro chars value left read
        rw [readValue] at read
        cases read
      · intro fields chars value left _ read
        rw [readFields] at read
        cases read
      · intro items chars value left _ read
        rw [readItems] at read
        cases read
  | succ fuel ih =>
      have empty : Plain float (.obj []) := ⟨List.nodup_nil, trivial⟩
      refine ⟨?_, ?_, ?_⟩
      · intro chars value left read
        cases chars with
        | nil => rw [readValue] at read; cases read
        | cons char rest =>
            rw [readValue] at read
            split at read
            · obtain ⟨text, _, same⟩ := Option.map_eq_some_iff.mp read
              rw [← (Prod.mk.inj same).1]
              exact trivial
            · split at read
              · split at read
                · rw [← (Prod.mk.inj (Option.some.inj read)).1]
                  exact empty
                · exact ih.2.1 [] _ value left empty read
              · split at read
                · split at read
                  · rw [← (Prod.mk.inj (Option.some.inj read)).1]
                    exact trivial
                  · exact ih.2.2 [] _ value left trivial read
                · exact readAtom_plain law read
      · intro fields chars value left before read
        rw [readFields] at read
        obtain ⟨key, _, read⟩ := Option.bind_eq_some_iff.mp read
        obtain ⟨first, firstRead, read⟩ := Option.bind_eq_some_iff.mp read
        have extended : Plain float (.obj (Dict.put (String.ofList key.1) first.1 fields)) :=
          put_plain (ih.1 _ first.1 first.2 firstRead) before
        split at read
        · rw [← (Prod.mk.inj (Option.some.inj read)).1]
          exact extended
        · obtain ⟨after, _, read⟩ := Option.bind_eq_some_iff.mp read
          exact ih.2.1 _ _ value left extended read
      · intro items chars value left before read
        rw [readItems] at read
        obtain ⟨first, firstRead, read⟩ := Option.bind_eq_some_iff.mp read
        have extended : Plain float (.arr (items ++ [first.1])) := by
          refine (plainItems_iff float _).mpr fun item member => ?_
          rcases List.mem_append.mp member with old | last
          · exact (plainItems_iff float _).mp before item old
          · rw [List.mem_singleton.mp last]
            exact ih.1 _ first.1 first.2 firstRead
        split at read
        · rw [← (Prod.mk.inj (Option.some.inj read)).1]
          exact extended
        · obtain ⟨after, _, read⟩ := Option.bind_eq_some_iff.mp read
          exact ih.2.2 _ _ value left extended read

theorem loads_plain (law : FloatLaw float) {chars : List Char}
    (decoded : loads float chars = some value) : Plain float value := by
  obtain ⟨found, read, final⟩ := Option.bind_eq_some_iff.mp decoded
  split at final
  · cases Option.some.inj final
    exact (readers_plain law _).1 _ found.1 found.2 read
  · cases final

end Read

end ZaofuFormal.Foundation.JsonText
