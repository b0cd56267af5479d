import ZaofuFormal.Artifacts.ControlledReads

/-!
# Paths into a JSON artifact

A path is `$` and a sequence of steps `.name` and `[digits]` that starts with a
name.  The reader scans a path for tokens and compares two squeezed texts
afterwards, so that it also accepts paths with misplaced dots.
-/

namespace ZaofuFormal.Artifacts.ControlledReads

open Foundation

/-- The decimal digits agree with the ASCII ones, and no punctuation of a path is one. -/
structure Decimals (decimal : Char → Option Nat) : Prop where
  ascii : ∀ char, char.isDigit = true → decimal char = some (char.toNat - '0'.toNat)
  dot : decimal '.' = none
  opening : decimal '[' = none
  closing : decimal ']' = none

def Token.isKey : Token → Bool
  | .key _ => true
  | .index _ => false

/-- A step as a path writes it. -/
def Token.step : Token → List Char
  | .key text => '.' :: text
  | .index digits => '[' :: (digits ++ [']'])

/-- A name of letters, digits, `_` and `-`, or an index of digits. -/
def Token.Plain : Token → Prop
  | .key text => text ≠ [] ∧ ∀ char ∈ text, isKeyChar char = true
  | .index digits => digits ≠ [] ∧ ∀ char ∈ digits, char.isDigit = true

/-- The path is written with these steps, a name first. -/
structure Denotes (path : String) (steps : List Token) : Prop where
  written : path.toList = '$' :: steps.flatMap Token.step
  plain : ∀ step ∈ steps, step.Plain
  first : ∀ step ∈ steps.head?, step.isKey = true

def asciiPosition (digits : List Char) : Nat :=
  digits.foldl (fun value digit => 10 * value + (digit.toNat - '0'.toNat)) 0

/-- The steps lead from one value to another. -/
def Reaches (position : List Char → Nat) : Json → List Token → Json → Prop
  | value, [], target => target = value
  | value, .key text :: rest, target =>
      ∃ next, Dict.find (String.ofList text) value.fields = some next ∧
        Reaches position next rest target
  | value, .index digits :: rest, target =>
      ∃ items next, value = .arr items ∧ items[position digits]? = some next ∧
        Reaches position next rest target

variable (reader : Reader)

/-- Exactly the values at the end of the path's steps are selected. -/
def PathExact (value : Json) (path : String) : Prop :=
  ∀ target, selectJsonPath reader value path = .ok target ↔
    ∃ steps, Denotes path steps ∧ Reaches asciiPosition value steps target

/-- A token with or without a dot before it. -/
structure Item where
  dotted : Bool
  token : Token

def Item.text (item : Item) : List Char :=
  (if item.dotted then ['.'] else []) ++ item.token.text

/-- A token as the scan finds it; its digits are those of the reader. -/
def Token.Scanned : Token → Prop
  | .key text => text ≠ [] ∧ ∀ char ∈ text, isKeyChar char = true
  | .index digits => digits ≠ [] ∧ ∀ char ∈ digits, (reader.decimal char).isSome = true

/-- Dots stand before names only, and before a name that directly follows a name. -/
def Lenient : List Item → Prop
  | [] => True
  | item :: rest =>
      item.token.Scanned reader ∧ (item.dotted = true → item.token.isKey = true) ∧
        (item.token.isKey = true → ∀ next ∈ rest.head?, next.token.isKey = true →
          next.dotted = true) ∧
        Lenient rest

/-- The first item is a name without a dot, every other name has one, and the
digits are ASCII digits. -/
def Strict (items : List Item) : Prop :=
  (∃ first rest, items = first :: rest ∧ first.dotted = false ∧ first.token.isKey = true ∧
    ∀ item ∈ rest, item.token.isKey = true → item.dotted = true) ∧
  ∀ item ∈ items, item.token.Plain

section Scan

variable {reader}

theorem follow_iff (consumed : String) (value target : Json) (steps : List Token) :
    follow reader consumed value steps = .ok target ↔
      Reaches (position reader) value steps target := by
  induction steps generalizing consumed value with
  | nil =>
      rw [follow, Reaches]
      exact ⟨fun same => (Except.ok.inj same).symm, fun same => congrArg Except.ok same.symm⟩
  | cons step rest ih =>
      cases step with
      | key text =>
          rw [follow, Reaches]
          cases found : Dict.find (String.ofList text) value.fields with
          | none => exact iff_of_false nofun fun ⟨_, same, _⟩ => nomatch same
          | some next =>
              refine (ih _ next).trans ⟨fun reaches => ⟨next, rfl, reaches⟩, ?_⟩
              rintro ⟨_, same, reaches⟩
              cases same
              exact reaches
      | index digits =>
          rw [Reaches]
          cases value with
          | arr items =>
              rw [follow]
              cases found : items[position reader digits]? with
              | none =>
                  refine iff_of_false nofun ?_
                  rintro ⟨_, _, same, present, _⟩
                  cases same
                  cases found.symm.trans present
              | some next =>
                  refine (ih _ next).trans ⟨fun reaches => ⟨items, next, rfl, found, reaches⟩, ?_⟩
                  rintro ⟨_, _, same, present, reaches⟩
                  cases same
                  cases found.symm.trans present
                  exact reaches
          | null | bool _ | int _ | float _ _ | str _ | obj _ =>
              exact iff_of_false nofun fun ⟨_, _, same, _⟩ => nomatch same

/-- A dot before the rest of a text that does not start with a name stays. -/
theorem dropDots_cons {char : Char} (other : char ≠ '.') (rest : List Char) :
    dropDots (char :: rest) = char :: dropDots rest := by
  cases rest with
  | nil => rfl
  | cons next rest => exact if_neg fun both => other both.1

theorem dropDots_append {run : List Char} (dotless : ∀ char ∈ run, char ≠ '.')
    (rest : List Char) : dropDots (run ++ rest) = run ++ dropDots rest := by
  induction run with
  | nil => rfl
  | cons char run ih =>
      rw [List.cons_append, dropDots_cons (dotless char List.mem_cons_self),
        ih fun other member => dotless other (List.mem_cons_of_mem _ member), List.cons_append]

theorem takeWhile_stop {α : Type} {holds : α → Bool} {run rest : List α}
    (inside : ∀ item ∈ run, holds item = true) (stops : rest.head?.any holds = false) :
    (run ++ rest).takeWhile holds = run ∧ (run ++ rest).dropWhile holds = rest := by
  rw [List.takeWhile_append_of_pos inside, List.dropWhile_append_of_pos inside]
  cases rest with
  | nil => exact ⟨List.append_nil run, rfl⟩
  | cons head rest =>
      have out : ¬holds head = true := Bool.eq_false_iff.mp stops
      rw [List.takeWhile_cons_of_neg out, List.dropWhile_cons_of_neg out, List.append_nil]
      exact ⟨rfl, rfl⟩

theorem tokens_key (fuel : Nat) {text rest : List Char} (filled : text ≠ [])
    (inside : ∀ char ∈ text, isKeyChar char = true)
    (stops : rest.head?.any isKeyChar = false) :
    tokens reader (fuel + 1) (text ++ rest) = .key text :: tokens reader fuel rest := by
  cases text with
  | nil => exact absurd rfl filled
  | cons char text =>
      obtain ⟨isKey, others⟩ := List.forall_mem_cons.mp inside
      obtain ⟨taken, left⟩ := takeWhile_stop others stops
      rw [List.cons_append, tokens, if_pos isKey, taken, left]

theorem tokens_index (decimals : Decimals reader.decimal) (fuel : Nat)
    {digits rest : List Char} (filled : digits ≠ [])
    (inside : ∀ char ∈ digits, (reader.decimal char).isSome = true) :
    tokens reader (fuel + 1) ('[' :: (digits ++ ']' :: rest)) =
      .index digits :: tokens reader fuel rest := by
  have stops : (']' :: rest).head?.any (fun digit => (reader.decimal digit).isSome) = false := by
    change (reader.decimal ']').isSome = false
    rw [decimals.closing]
    rfl
  obtain ⟨taken, left⟩ := takeWhile_stop inside stops
  rw [tokens, if_neg (by decide), if_pos rfl, taken, left]
  exact if_pos ⟨filled, rfl⟩

theorem tokens_dot (fuel : Nat) (rest : List Char) :
    tokens reader (fuel + 1) ('.' :: rest) = tokens reader fuel rest := by
  rw [tokens, if_neg (by decide), if_neg (by decide)]

/-- What the scan does at a character: it takes a token or passes on. -/
theorem tokens_cases (fuel : Nat) (char : Char) (rest : List Char) :
    (∃ token later, char :: rest = Token.text token ++ later ∧ token.Scanned reader ∧
        (token.isKey = true → later.head?.any isKeyChar = false) ∧
        tokens reader (fuel + 1) (char :: rest) = token :: tokens reader fuel later) ∨
      (isKeyChar char = false ∧
        tokens reader (fuel + 1) (char :: rest) = tokens reader fuel rest) := by
  rw [tokens]
  split
  · rename_i isKey
    refine Or.inl ⟨.key (char :: rest.takeWhile isKeyChar), rest.dropWhile isKeyChar, ?_,
      ⟨nofun, ?_⟩, fun _ => ?_, rfl⟩
    · rw [Token.text, List.cons_append, List.takeWhile_append_dropWhile]
    · exact List.forall_mem_cons.mpr ⟨isKey, fun other member => List.mem_takeWhile_imp member⟩
    · cases left : rest.dropWhile isKeyChar with
      | nil => rfl
      | cons head later =>
          have out := List.head?_dropWhile_not isKeyChar rest
          rw [left] at out
          exact Bool.eq_false_iff.mpr (by simpa using out)
  rename_i other
  have passed := Bool.eq_false_iff.mpr other
  split
  · rename_i opening
    cases left : rest.dropWhile fun digit => (reader.decimal digit).isSome with
    | nil => exact Or.inr ⟨passed, rfl⟩
    | cons close later =>
        dsimp only
        split
        · rename_i closed
          refine Or.inl ⟨.index (rest.takeWhile fun digit => (reader.decimal digit).isSome), later,
            ?_, ⟨closed.1, ?_⟩, nofun, rfl⟩
          · have joined := List.takeWhile_append_dropWhile
              (p := fun digit => (reader.decimal digit).isSome) (l := rest)
            rw [left, closed.2] at joined
            rw [opening, Token.text, List.cons_append, List.append_assoc, List.singleton_append,
              joined]
          · intro digit member
            exact List.mem_takeWhile_imp (p := fun digit => (reader.decimal digit).isSome) member
        · exact Or.inr ⟨passed, rfl⟩
  · exact Or.inr ⟨passed, rfl⟩

theorem key_ne_dot {char : Char} (isKey : isKeyChar char = true) : char ≠ '.' := by
  rintro rfl
  cases isKey

theorem head_render {rest : List Item} (lenient : Lenient reader rest)
    (apart : ∀ next ∈ rest.head?, next.token.isKey = true → next.dotted = true) :
    (rest.flatMap Item.text).head?.any isKeyChar = false := by
  cases rest with
  | nil => rfl
  | cons item rest =>
      obtain ⟨dotted, token⟩ := item
      cases dotted with
      | true => rfl
      | false =>
          cases token with
          | key text => exact absurd (apart _ rfl rfl) Bool.false_ne_true
          | index digits => rfl

variable {items : List Item} {steps : List Token}

/-- The scan of the text of lenient items finds their tokens. -/
theorem tokens_render (decimals : Decimals reader.decimal)
    (lenient : Lenient reader items) {fuel : Nat}
    (enough : (items.flatMap Item.text).length ≤ fuel) :
    tokens reader fuel (items.flatMap Item.text) = items.map Item.token := by
  induction items generalizing fuel with
  | nil => cases fuel <;> rfl
  | cons item rest ih =>
      obtain ⟨dotted, token⟩ := item
      obtain ⟨scanned, dots, apart, later⟩ := lenient
      rw [List.flatMap_cons, List.length_append] at enough
      rw [List.flatMap_cons, List.map_cons]
      cases token with
      | key text =>
          have stops := head_render later (apart rfl)
          have positive : 0 < text.length := List.length_pos_iff.mpr scanned.1
          cases dotted with
          | false =>
              change text.length + (rest.flatMap Item.text).length ≤ fuel at enough
              obtain ⟨fuel, rfl⟩ : ∃ less, fuel = less + 1 := ⟨fuel - 1, by omega⟩
              change tokens reader (fuel + 1) (text ++ rest.flatMap Item.text) = _
              rw [tokens_key fuel scanned.1 scanned.2 stops, ih later (by omega)]
          | true =>
              change text.length + 1 + (rest.flatMap Item.text).length ≤ fuel at enough
              obtain ⟨fuel, rfl⟩ : ∃ less, fuel = less + 1 + 1 := ⟨fuel - 2, by omega⟩
              change tokens reader (fuel + 1 + 1) ('.' :: (text ++ rest.flatMap Item.text)) = _
              rw [tokens_dot, tokens_key fuel scanned.1 scanned.2 stops, ih later (by omega)]
      | index digits =>
          cases dotted with
          | true => exact absurd (dots rfl) Bool.false_ne_true
          | false =>
              have size : (Item.mk false (.index digits)).text.length = digits.length + 2 := by
                simp [Item.text, Token.text]
              rw [size] at enough
              obtain ⟨fuel, rfl⟩ : ∃ less, fuel = less + 1 := ⟨fuel - 1, by omega⟩
              have shape : (Item.mk false (.index digits)).text ++ rest.flatMap Item.text =
                  '[' :: (digits ++ ']' :: rest.flatMap Item.text) := by
                simp [Item.text, Token.text]
              rw [shape, tokens_index decimals fuel scanned.1 scanned.2, ih later (by omega)]

theorem decimal_ne_dot (decimals : Decimals reader.decimal) {char : Char}
    (isDecimal : (reader.decimal char).isSome = true) : char ≠ '.' := by
  rintro rfl
  rw [decimals.dot] at isDecimal
  cases isDecimal

/-- The text of a token has no dots. -/
theorem dotless_text (decimals : Decimals reader.decimal) {token : Token}
    (scanned : token.Scanned reader) : ∀ char ∈ token.text, char ≠ '.' := by
  cases token with
  | key text => exact fun char member => key_ne_dot (scanned.2 char member)
  | index digits =>
      refine List.forall_mem_cons.mpr ⟨by decide, fun char member => ?_⟩
      rcases List.mem_append.mp member with digit | closing
      · exact decimal_ne_dot decimals (scanned.2 char digit)
      · rw [List.mem_singleton.mp closing]
        decide

/-- In the text of lenient items every dot stands before a name. -/
theorem dropDots_render (decimals : Decimals reader.decimal) (lenient : Lenient reader items) :
    dropDots (items.flatMap Item.text) = (items.map Item.token).flatMap Token.text := by
  induction items with
  | nil => rfl
  | cons item rest ih =>
      obtain ⟨dotted, token⟩ := item
      obtain ⟨scanned, dots, _, later⟩ := lenient
      rw [List.flatMap_cons, List.map_cons, List.flatMap_cons, ← ih later,
        ← dropDots_append (dotless_text decimals scanned)]
      cases dotted with
      | false => rfl
      | true =>
          cases token with
          | index digits => exact absurd (dots rfl) Bool.false_ne_true
          | key text =>
              cases text with
              | nil => exact absurd rfl scanned.1
              | cons char text =>
                  exact if_pos ⟨rfl, scanned.2 char List.mem_cons_self⟩

theorem dropDots_cases (char : Char) (rest : List Char) :
    (char = '.' ∧ rest.head?.any isKeyChar = true ∧ dropDots (char :: rest) = dropDots rest) ∨
      dropDots (char :: rest) = char :: dropDots rest := by
  cases rest with
  | nil => exact Or.inr rfl
  | cons next rest =>
      by_cases both : char = '.' ∧ isKeyChar next
      · exact Or.inl ⟨both.1, both.2, if_pos both⟩
      · exact Or.inr (if_neg both)

theorem text_ne_nil {token : Token} (scanned : token.Scanned reader) : token.text ≠ [] := by
  cases token with
  | key text => exact scanned.1
  | index digits => exact nofun

/-- The text of a name without a dot starts with a character of the name. -/
theorem head_of_undotted {item : Item} (scanned : item.token.Scanned reader)
    (isKey : item.token.isKey = true) (undotted : item.dotted = false) (rest : List Char) :
    (item.text ++ rest).head?.any isKeyChar = true := by
  obtain ⟨dotted, token⟩ := item
  cases undotted
  cases token with
  | index digits => cases isKey
  | key text =>
      cases text with
      | nil => exact absurd rfl scanned.1
      | cons char text => exact scanned.2 char List.mem_cons_self

/-- The scan never keeps more than the squeezing of the dots. -/
theorem length_tokens_le (decimals : Decimals reader.decimal) (fuel : Nat) (text : List Char) :
    ((tokens reader fuel text).flatMap Token.text).length ≤ (dropDots text).length := by
  induction fuel generalizing text with
  | zero => exact Nat.zero_le _
  | succ fuel ih =>
      cases text with
      | nil => exact Nat.le_refl _
      | cons char rest =>
          rcases @tokens_cases reader fuel char rest with
            ⟨token, later, shape, scanned, _, taken⟩ | ⟨_, passed⟩
          · rw [taken, shape, dropDots_append (dotless_text decimals scanned), List.flatMap_cons,
              List.length_append, List.length_append]
            exact Nat.add_le_add_left (ih later) _
          · rw [passed]
            rcases dropDots_cases char rest with ⟨_, _, dropped⟩ | kept
            · rw [dropped]
              exact ih rest
            · rw [kept, List.length_cons]
              exact Nat.le_succ_of_le (ih rest)

/-- Squeezed texts that agree come from lenient items. -/
theorem exists_items (decimals : Decimals reader.decimal) {fuel : Nat} {text : List Char}
    (enough : text.length ≤ fuel)
    (same : dropDots text = (tokens reader fuel text).flatMap Token.text) :
    ∃ items, Lenient reader items ∧ text = items.flatMap Item.text := by
  induction fuel generalizing text with
  | zero =>
      rw [List.length_eq_zero_iff.mp (Nat.le_zero.mp enough)]
      exact ⟨[], trivial, rfl⟩
  | succ fuel ih =>
      cases text with
      | nil => exact ⟨[], trivial, rfl⟩
      | cons char rest =>
          have shorter : rest.length ≤ fuel := Nat.le_of_succ_le_succ enough
          rcases @tokens_cases reader fuel char rest with
            ⟨token, later, shape, scanned, stops, taken⟩ | ⟨notKey, passed⟩
          · have laterShorter : later.length ≤ fuel := by
              have size := congrArg List.length shape
              have positive : 0 < token.text.length :=
                List.length_pos_iff.mpr (text_ne_nil scanned)
              rw [List.length_cons, List.length_append] at size
              omega
            rw [taken, shape, dropDots_append (dotless_text decimals scanned),
              List.flatMap_cons] at same
            obtain ⟨items, lenient, rfl⟩ := ih laterShorter (List.append_cancel_left same)
            refine ⟨⟨false, token⟩ :: items, ⟨scanned, nofun, ?_, lenient⟩, shape⟩
            intro isKey next first nextKey
            by_contra undotted
            obtain ⟨others, rfl⟩ : ∃ others, items = next :: others := by
              cases items with
              | nil => cases first
              | cons head others =>
                  cases first
                  exact ⟨others, rfl⟩
            have ahead := head_of_undotted lenient.1 nextKey (Bool.eq_false_iff.mpr undotted)
              (others.flatMap Item.text)
            rw [← List.flatMap_cons, stops isKey] at ahead
            cases ahead
          · rw [passed] at same
            rcases dropDots_cases char rest with ⟨isDot, ahead, dropped⟩ | kept
            · rw [dropped] at same
              obtain ⟨items, lenient, rfl⟩ := ih shorter same
              cases items with
              | nil => cases ahead
              | cons item others =>
                  obtain ⟨dotted, token⟩ := item
                  cases dotted with
                  | true => cases ahead
                  | false =>
                      cases token with
                      | index digits => cases ahead
                      | key text =>
                          obtain ⟨scanned, _, apart, later⟩ := lenient
                          refine ⟨⟨true, .key text⟩ :: others,
                            ⟨scanned, fun _ => rfl, apart, later⟩, ?_⟩
                          rw [isDot]
                          rfl
            · have longer := congrArg List.length same
              have bound := length_tokens_le decimals fuel rest
              rw [kept, List.length_cons] at longer
              omega

/-- A selection starts at `$` and reaches its value along the tokens of lenient items. -/
theorem selectJsonPath_iff (decimals : Decimals reader.decimal) (value target : Json)
    (path : String) :
    selectJsonPath reader value path = .ok target ↔ (path = "$" ∧ target = value) ∨
      ∃ items, Lenient reader items ∧ path.toList = '$' :: '.' :: items.flatMap Item.text ∧
        Reaches (position reader) value (items.map Item.token) target := by
  unfold selectJsonPath
  by_cases root : path = "$"
  · rw [if_pos root]
    constructor
    · intro same
      exact Or.inl ⟨root, (Except.ok.inj same).symm⟩
    · rintro (⟨_, rfl⟩ | ⟨_, _, shape, _⟩)
      · rfl
      · rw [root] at shape
        cases shape
  rw [if_neg root]
  by_cases starts : PyString.startsWith path "$." = false
  · rw [if_pos starts]
    refine iff_of_false nofun ?_
    rintro (⟨same, _⟩ | ⟨items, _, shape, _⟩)
    · exact root same
    · unfold PyString.startsWith at starts
      rw [shape] at starts
      cases starts
  rw [if_neg starts]
  obtain ⟨chars, shape⟩ : ∃ chars, path.toList = '$' :: '.' :: chars := by
    obtain ⟨chars, joined⟩ := List.isPrefixOf_iff_prefix.mp (Bool.not_eq_false _ ▸ starts)
    exact ⟨chars, joined.symm⟩
  have dropped : path.toList.drop 2 = chars := by
    rw [shape]
    rfl
  dsimp only
  rw [dropped]
  constructor
  · intro selected
    obtain ⟨current, followed, checked⟩ := Fallible.bind_eq_ok selected
    split at checked
    · cases checked
    rename_i same
    cases checked
    obtain ⟨items, lenient, rfl⟩ := exists_items decimals (Nat.le_refl _) (not_not.mp same)
    rw [tokens_render decimals lenient (Nat.le_refl _), follow_iff] at followed
    exact Or.inr ⟨items, lenient, shape, followed⟩
  · rintro (⟨same, _⟩ | ⟨items, lenient, written, reaches⟩)
    · exact absurd same root
    · have same : chars = items.flatMap Item.text := by
        rw [written] at shape
        exact (List.cons.inj (List.cons.inj shape).2).2.symm
      rw [same, tokens_render decimals lenient (Nat.le_refl _),
        (follow_iff "$" value target _).mpr reaches]
      exact if_neg (not_not.mpr (dropDots_render decimals lenient))

/-- The text and the tokens of lenient items determine them. -/
theorem items_ext {first second : List Item} (left : Lenient reader first)
    (right : Lenient reader second) (tokens : first.map Item.token = second.map Item.token)
    (texts : first.flatMap Item.text = second.flatMap Item.text) : first = second := by
  induction first generalizing second with
  | nil => exact (List.map_eq_nil_iff.mp tokens.symm).symm
  | cons item rest ih =>
      cases second with
      | nil => cases tokens
      | cons other others =>
          obtain ⟨dotted, token⟩ := item
          obtain ⟨otherDotted, otherToken⟩ := other
          obtain ⟨same, later⟩ := List.cons.inj tokens
          obtain rfl : token = otherToken := same
          rw [List.flatMap_cons, List.flatMap_cons] at texts
          have dots : dotted = otherDotted := by
            cases dotted <;> cases otherDotted
            · rfl
            · have isKey := right.2.1 rfl
              have ahead : ((Item.mk false token).text ++ rest.flatMap Item.text).head?.any
                  isKeyChar = true := head_of_undotted left.1 isKey rfl _
              rw [texts] at ahead
              cases ahead
            · have isKey := left.2.1 rfl
              have ahead : ((Item.mk false token).text ++ others.flatMap Item.text).head?.any
                  isKeyChar = true := head_of_undotted right.1 isKey rfl _
              rw [← texts] at ahead
              cases ahead
            · rfl
          subst dots
          rw [ih left.2.2.2 right.2.2.2 later (List.append_cancel_left texts)]

theorem Token.Plain.scanned (decimals : Decimals reader.decimal) {token : Token}
    (plain : token.Plain) : token.Scanned reader := by
  cases token with
  | key text => exact plain
  | index digits =>
      refine ⟨plain.1, fun char member => ?_⟩
      rw [decimals.ascii char (plain.2 char member)]
      rfl

/-- The item of a step after the first one. -/
def Token.later (token : Token) : Item := ⟨token.isKey, token⟩

theorem text_later (token : Token) : token.later.text = token.step := by
  cases token <;> rfl

theorem lenient_later (decimals : Decimals reader.decimal)
    (plain : ∀ step ∈ steps, step.Plain) : Lenient reader (steps.map Token.later) := by
  induction steps with
  | nil => trivial
  | cons step rest ih =>
      obtain ⟨here, others⟩ := List.forall_mem_cons.mp plain
      refine ⟨here.scanned decimals, id, fun _ next first isKey => ?_, ih others⟩
      cases rest with
      | nil => cases first
      | cons other rest =>
          cases first
          exact isKey

theorem flatMap_later (steps : List Token) :
    (steps.map Token.later).flatMap Item.text = steps.flatMap Token.step := by
  rw [List.flatMap_map]
  exact List.flatMap_congr fun token _ => text_later token

/-- A path with steps is written by strict items. -/
theorem strict_of_denotes (decimals : Decimals reader.decimal) {path : String}
    (denotes : Denotes path steps) :
    (path = "$" ∧ steps = []) ∨ ∃ items, Lenient reader items ∧ Strict items ∧
      path.toList = '$' :: '.' :: items.flatMap Item.text ∧ steps = items.map Item.token := by
  cases steps with
  | nil => exact Or.inl ⟨String.toList_injective denotes.written, rfl⟩
  | cons first rest =>
      obtain ⟨plain, others⟩ := List.forall_mem_cons.mp denotes.plain
      have isKey := denotes.first first rfl
      have tokens : (rest.map Token.later).map Item.token = rest := by
        rw [List.map_map]
        exact List.map_id rest
      refine Or.inr ⟨⟨false, first⟩ :: rest.map Token.later, ⟨plain.scanned decimals, nofun, ?_,
        lenient_later decimals others⟩, ⟨⟨_, _, rfl, rfl, isKey, ?_⟩, ?_⟩, ?_, ?_⟩
      · intro _ next member nextKey
        cases rest with
        | nil => cases member
        | cons other rest =>
            cases member
            exact nextKey
      · intro item member itemKey
        obtain ⟨token, _, rfl⟩ := List.mem_map.mp member
        exact itemKey
      · refine List.forall_mem_cons.mpr ⟨plain, fun item member => ?_⟩
        obtain ⟨token, inside, rfl⟩ := List.mem_map.mp member
        exact others token inside
      · rw [denotes.written, List.flatMap_cons, List.flatMap_cons, flatMap_later]
        cases first with
        | index digits => cases isKey
        | key text => rfl
      · rw [List.map_cons, tokens]

theorem Lenient.isKey_of_dotted (lenient : Lenient reader items) :
    ∀ item ∈ items, item.dotted = true → item.token.isKey = true := by
  induction items with
  | nil => exact nofun
  | cons item rest ih => exact List.forall_mem_cons.mpr ⟨lenient.2.1, ih lenient.2.2.2⟩

/-- An item whose dot tells names from indices is written as a step. -/
theorem text_eq_step {item : Item} (forth : item.dotted = true → item.token.isKey = true)
    (back : item.token.isKey = true → item.dotted = true) : item.text = item.token.step := by
  obtain ⟨dotted, token⟩ := item
  cases token with
  | key text =>
      obtain rfl : dotted = true := back rfl
      rfl
  | index digits =>
      cases dotted with
      | false => rfl
      | true => exact absurd (forth rfl) Bool.false_ne_true

/-- Strict items write a path with their tokens as steps. -/
theorem denotes_of_strict {path : String} (lenient : Lenient reader items)
    (strict : Strict items) (shape : path.toList = '$' :: '.' :: items.flatMap Item.text) :
    Denotes path (items.map Item.token) := by
  obtain ⟨⟨first, rest, rfl, undotted, isKey, dotted⟩, plain⟩ := strict
  refine ⟨?_, fun step member => ?_, fun step member => ?_⟩
  · have later : rest.flatMap Item.text = (rest.map Item.token).flatMap Token.step := by
      rw [List.flatMap_map]
      refine List.flatMap_congr fun item member => ?_
      exact text_eq_step (lenient.isKey_of_dotted item (List.mem_cons_of_mem _ member))
        (dotted item member)
    rw [shape, List.map_cons, List.flatMap_cons, List.flatMap_cons, later]
    obtain ⟨firstDotted, token⟩ := first
    cases undotted
    cases token with
    | key text => rfl
    | index digits => cases isKey
  · obtain ⟨item, inside, rfl⟩ := List.mem_map.mp member
    exact plain item inside
  · cases member
    exact isKey

theorem position_plain (decimals : Decimals reader.decimal) {digits : List Char}
    (plain : ∀ char ∈ digits, char.isDigit = true) :
    position reader digits = asciiPosition digits := by
  unfold position asciiPosition
  refine List.foldl_ext _ _ _ fun value digit member => ?_
  rw [decimals.ascii digit (plain digit member)]
  rfl

/-- Plain steps lead to the same values for the reader. -/
theorem reaches_plain (decimals : Decimals reader.decimal)
    (plain : ∀ step ∈ steps, step.Plain) (value target : Json) :
    Reaches (position reader) value steps target ↔ Reaches asciiPosition value steps target := by
  induction steps generalizing value with
  | nil => exact Iff.rfl
  | cons step rest ih =>
      obtain ⟨here, others⟩ := List.forall_mem_cons.mp plain
      cases step with
      | key text => exact exists_congr fun next => and_congr_right fun _ => ih others next
      | index digits =>
          rw [Reaches, Reaches, position_plain decimals here.2]
          exact exists₂_congr fun items next =>
            and_congr_right fun _ => and_congr_right fun _ => ih others next

/-- A path that denotes steps is written by one list of lenient items, a strict one. -/
theorem strict_of_written (decimals : Decimals reader.decimal) {path : String}
    (denotes : Denotes path steps)
    (lenient : Lenient reader items)
    (shape : path.toList = '$' :: '.' :: items.flatMap Item.text) :
    Strict items ∧ steps = items.map Item.token := by
  rcases strict_of_denotes decimals denotes with ⟨rfl, _⟩ | ⟨others, also, strict, written, same⟩
  · cases shape
  · have texts : items.flatMap Item.text = others.flatMap Item.text := by
      rw [shape] at written
      exact (List.cons.inj (List.cons.inj written).2).2
    have tokens : items.map Item.token = others.map Item.token := by
      rw [← tokens_render decimals lenient (Nat.le_refl _),
        ← tokens_render decimals also (Nat.le_refl _), texts]
    obtain rfl := items_ext lenient also tokens texts
    exact ⟨strict, same⟩

end Scan

/-- The selection is exact if and only if no misplaced dot, missing name or foreign
digit is accepted on the way to a value. -/
theorem json_path_exact_iff (decimals : Decimals reader.decimal) (value : Json) (path : String) :
    PathExact reader value path ↔ ∀ items, Lenient reader items →
      path.toList = '$' :: '.' :: items.flatMap Item.text → ¬Strict items →
        ∀ target, ¬Reaches (position reader) value (items.map Item.token) target := by
  constructor
  · intro exactly items lenient shape loose target reaches
    have selected : selectJsonPath reader value path = .ok target :=
      (selectJsonPath_iff decimals value target path).mpr (Or.inr ⟨items, lenient, shape, reaches⟩)
    obtain ⟨steps, denotes, _⟩ := (exactly target).mp selected
    exact loose (strict_of_written decimals denotes lenient shape).1
  · intro refused target
    rw [selectJsonPath_iff decimals]
    constructor
    · rintro (⟨rfl, rfl⟩ | ⟨items, lenient, shape, reaches⟩)
      · exact ⟨[], ⟨rfl, nofun, nofun⟩, rfl⟩
      · have strict : Strict items :=
          by_contra fun loose => refused items lenient shape loose target reaches
        have denotes := denotes_of_strict lenient strict shape
        exact ⟨_, denotes, (reaches_plain decimals denotes.plain value target).mp reaches⟩
    · rintro ⟨steps, denotes, reaches⟩
      rcases strict_of_denotes decimals denotes with ⟨root, rfl⟩ | ⟨items, lenient, _, shape, rfl⟩
      · exact Or.inl ⟨root, reaches⟩
      · exact Or.inr ⟨items, lenient, shape,
          (reaches_plain decimals denotes.plain value target).mpr reaches⟩

/-- A path that denotes steps is read exactly. -/
theorem not_loose_of_denotes {reader : Reader} (decimals : Decimals reader.decimal) {path : String}
    {steps : List Token} (denotes : Denotes path steps) (value : Json) (items : List Item)
    (lenient : Lenient reader items)
    (shape : path.toList = '$' :: '.' :: items.flatMap Item.text) (loose : ¬Strict items)
    (target : Json) : ¬Reaches (position reader) value (items.map Item.token) target :=
  absurd (strict_of_written decimals denotes lenient shape).1 loose

/-- A reader for which the digits are the ASCII digits. -/
def asciiReader : Reader where
  sha256 _ := ""
  float _ := .null
  digest _ := ""
  decode _ := none
  decodeReplace _ := ""
  decimal char := if char.isDigit then some (char.toNat - '0'.toNat) else none

theorem asciiReader_decimals : Decimals asciiReader.decimal where
  ascii _ isDigit := if_pos isDigit
  dot := rfl
  opening := rfl
  closing := rfl

theorem first_task_exact :
    PathExact asciiReader (.obj [("tasks", .arr [.str "t1"])]) "$.tasks[0]" := by
  have denotes : Denotes "$.tasks[0]" [.key "tasks".toList, .index "0".toList] := by
    refine ⟨by decide, ?_, ?_⟩
    · refine List.forall_mem_cons.mpr ⟨⟨by decide, List.all_eq_true.mp (by decide)⟩, ?_⟩
      exact List.forall_mem_cons.mpr ⟨⟨by decide, List.all_eq_true.mp (by decide)⟩, nofun⟩
    · intro step member
      cases member
      rfl
  exact (json_path_exact_iff asciiReader asciiReader_decimals _ _).mpr
    (not_loose_of_denotes asciiReader_decimals denotes _)

/-- A list of tasks is read along a path with a second dot. -/
theorem doubled_dot_inexact :
    ¬PathExact asciiReader (.obj [("tasks", .arr [])]) "$..tasks" := by
  intro exactly
  have selected : selectJsonPath asciiReader (.obj [("tasks", .arr [])]) "$..tasks" =
      .ok (.arr []) := by
    decide +kernel
  obtain ⟨steps, denotes, _⟩ := (exactly _).mp selected
  have written : ['$', '.', '.', 't', 'a', 's', 'k', 's'] = '$' :: steps.flatMap Token.step :=
    denotes.written
  cases steps with
  | nil => cases written
  | cons first rest =>
      have plain := denotes.plain first List.mem_cons_self
      cases first with
      | index digits => cases written
      | key text =>
          cases text with
          | nil => exact plain.1 rfl
          | cons char text =>
              have tail := (List.cons.inj (List.cons.inj written).2).2
              obtain rfl : '.' = char := (List.cons.inj tail).1
              exact absurd (plain.2 '.' List.mem_cons_self) (by decide)

end ZaofuFormal.Artifacts.ControlledReads
