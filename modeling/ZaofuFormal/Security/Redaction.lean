import ZaofuFormal.Foundation.Json
import ZaofuFormal.Foundation.Regex

/-!
# Redaction of event payloads

Model of `zf/core/security/redaction.py`.  A payload is redacted before it is
shown: text is searched for credentials, and values stored under a sensitive key
are replaced.  The items of an attachment list are redacted by a rule of their
own, which knows the body keys of an attachment but does not ask whether a key
is sensitive.

The character database of the source language (lower case and word characters
outside ASCII) is a parameter.
-/

namespace ZaofuFormal.Security

open Foundation

def isAsciiWord (char : Char) : Bool := char.isAlphanum || char == '_'

/-- Lower case and word characters; on ASCII they are fixed. -/
structure CharacterDatabase where
  lower : String → String
  lower_ascii : ∀ text : String, (∀ char ∈ text.toList, char.toNat < 128) →
    lower text = PyString.lowerAscii text
  isWord : Char → Bool
  isWord_ascii : ∀ char : Char, char.toNat < 128 → isWord char = isAsciiWord char

/-- The database that knows ASCII only. -/
def CharacterDatabase.ascii : CharacterDatabase where
  lower := PyString.lowerAscii
  lower_ascii := fun _ _ => rfl
  isWord := isAsciiWord
  isWord_ascii := fun _ _ => rfl

def exactly (letter char : Char) : Bool := letter == char

/-- A letter of a pattern that ignores case; `i`, `k` and `s` have partners
outside ASCII. -/
def ignoringCase (letter char : Char) : Bool :=
  letter.toLower == char.toLower ||
    (letter.toLower == 'i' && (char.toNat == 0x130 || char.toNat == 0x131)) ||
    (letter.toLower == 'k' && char.toNat == 0x212A) ||
    (letter.toLower == 's' && char.toNat == 0x17F)

def isTokenChar (char : Char) : Bool := char.isAlphanum || char == '_' || char == '-'

/-- `[A-Z0-9_]` in a pattern that ignores case. -/
def isNameChar (char : Char) : Bool :=
  isAsciiWord char || char.toNat == 0x130 || char.toNat == 0x131 || char.toNat == 0x212A ||
    char.toNat == 0x17F

def isSecretChar (char : Char) : Bool :=
  !(PyString.isSpace char || char == ',' || char == ';' || char == Json.doubleQuote ||
    char == Json.singleQuote)

def privateKeyRe : List Regex :=
  let label := Regex.many true 0 fun char => char.isUpper || char == ' '
  [.literal exactly "-----BEGIN ", label, .literal exactly "PRIVATE KEY-----",
    .many false 0 fun _ => true,
    .literal exactly "-----END ", label, .literal exactly "PRIVATE KEY-----"]

def jwtRe : List Regex :=
  let part := Regex.many true 10 isTokenChar
  let dot := Regex.char (· == '.')
  [.boundary, part, dot, part, dot, part, .boundary]

def apiKeyRe : List Regex :=
  [.boundary, .oneOf [.literal exactly "sk", .literal exactly "pk", .literal exactly "rk"],
    .char (· == '-'), .many true 16 isTokenChar, .boundary]

/-- The three groups of the pattern are the name, the separator and the secret. -/
def envSecretRe : List Regex :=
  let name := Regex.many true 0 isNameChar
  let space := Regex.many true 0 PyString.isSpace
  [.seq .boundary (.seq name (.seq (.oneOf (["API_KEY", "TOKEN", "SECRET", "PASSWORD",
      "PRIVATE_KEY", "ACCESS_KEY"].map (Regex.literal ignoringCase))) name)),
    .seq space (.seq (.char fun char => char == ':' || char == '=') space),
    .many true 1 isSecretChar]

section Redaction

variable (chars : CharacterDatabase)

def redactText (text : String) : String :=
  let replaceBy (label : String) : List (List Char) → List Char := fun _ => label.toList
  let redacted := Regex.sub chars.isWord privateKeyRe (replaceBy "[REDACTED_PRIVATE_KEY]") text
  let redacted := Regex.sub chars.isWord jwtRe (replaceBy "[REDACTED_JWT]") redacted
  let redacted := Regex.sub chars.isWord apiKeyRe (replaceBy "[REDACTED_API_KEY]") redacted
  Regex.sub chars.isWord envSecretRe
    (fun groups => (groups.take 2).flatten ++ "[REDACTED_SECRET]".toList) redacted

def sensitiveKeys : List String :=
  ["api_key", "app_secret", "auth", "authorization", "bearer", "client_secret", "cookie",
    "cookies", "headers", "password", "private_key", "refresh_token", "secret",
    "tenant_access_token", "token"]

def attachmentBodyKeys : List String :=
  ["base64", "body", "bytes_body", "content", "data", "secret", "token"]

/-- `str(key).lower().replace("-", "_")`. -/
def normalizedKey (key : String) : String :=
  String.ofList ((chars.lower key).toList.map fun char => if char = '-' then '_' else char)

def endsWith (text ending : String) : Bool := ending.toList.isSuffixOf text.toList

def sensitiveKey (key : String) : Bool :=
  let text := normalizedKey chars key
  sensitiveKeys.contains text ||
    ["_token", "_secret", "_password", "_api_key", "_private_key"].any (endsWith text)

def isAttachments (key : String) : Bool := normalizedKey chars key == "attachments"

def attachmentBody (key : String) : Bool :=
  attachmentBodyKeys.contains (normalizedKey chars key)

/-- JSON-like values of the source language; a float is known by its text. -/
inductive Payload where
  | none
  | bool (value : Bool)
  | int (value : Int)
  | float (repr : String)
  | str (text : String)
  | list (items : List Payload)
  | tuple (items : List Payload)
  | dict (entries : List (String × Payload))

namespace Payload

/-- `value is None or isinstance(value, bool | int | float)`. -/
def isScalar : Payload → Bool
  | .none | .bool _ | .int _ | .float _ => true
  | _ => false

def isList : Payload → Bool
  | .list _ => true
  | _ => false

def isDict : Payload → Bool
  | .dict _ => true
  | _ => false

end Payload

mutual

def redactObj : Payload → Payload
  | .str text => .str (redactText chars text)
  | .dict entries => .dict (redactEntries entries)
  | .list items => .list (redactItems items)
  | .tuple items => .tuple (redactItems items)
  | .none => .none
  | .bool value => .bool value
  | .int value => .int value
  | .float repr => .float repr

def redactItems : List Payload → List Payload
  | [] => []
  | item :: rest => redactObj item :: redactItems rest

/-- The entries of a map; every value is redacted as `redactDictValue` says. -/
def redactEntries : List (String × Payload) → List (String × Payload)
  | [] => []
  | (key, value) :: rest =>
      (key,
        if isAttachments chars key && value.isList then redactAttachments value
        else if !sensitiveKey chars key then redactObj value
        else if value.isScalar then value
        else .str "[REDACTED_SECRET]") :: redactEntries rest

/-- The value of an `attachments` key. -/
def redactAttachments : Payload → Payload
  | .list items => .list (redactAttachmentItems items)
  | value => value

def redactAttachmentItems : List Payload → List Payload
  | [] => []
  | .dict fields :: rest => .dict (redactAttachmentFields fields) :: redactAttachmentItems rest
  | item :: rest => redactObj item :: redactAttachmentItems rest

/-- The fields of one attachment: bodies are replaced, the rest is redacted as a
value, whatever its key. -/
def redactAttachmentFields : List (String × Payload) → List (String × Payload)
  | [] => []
  | (key, value) :: rest =>
      (key,
        if attachmentBody chars key then .str "[REDACTED_ATTACHMENT_BODY]"
        else redactObj value) :: redactAttachmentFields rest

end

def redactDictValue (key : String) (value : Payload) : Payload :=
  if isAttachments chars key && value.isList then redactAttachments chars value
  else if !sensitiveKey chars key then redactObj chars value
  else if value.isScalar then value
  else .str "[REDACTED_SECRET]"

theorem redactEntries_cons (key : String) (value : Payload) (rest : List (String × Payload)) :
    redactEntries chars ((key, value) :: rest) =
      (key, redactDictValue chars key value) :: redactEntries chars rest := by
  rw [redactEntries, redactDictValue]

theorem redactAttachmentItems_cons {item : Payload} (plain : item.isDict = false)
    (rest : List Payload) :
    redactAttachmentItems chars (item :: rest) =
      redactObj chars item :: redactAttachmentItems chars rest := by
  cases item with
  | dict => simp [Payload.isDict] at plain
  | _ => simp only [redactAttachmentItems]

/-- One item of an attachment list is redacted without regard to the others. -/
theorem redactAttachmentItems_tail {item : Payload} {rest others : List Payload}
    (same : redactAttachmentItems chars (item :: rest) =
      redactAttachmentItems chars (item :: others)) :
    redactAttachmentItems chars rest = redactAttachmentItems chars others := by
  cases item <;> exact (List.cons.inj same).2

namespace Payload

/-- Two strings, two sequences or two maps. -/
def sameKind : Payload → Payload → Bool
  | .str _, .str _ => true
  | .list _, .list _ => true
  | .tuple _, .tuple _ => true
  | .dict _, .dict _ => true
  | _, _ => false

/-- Two values that are strings, sequences or maps. -/
def bothStructured (first second : Payload) : Bool := !first.isScalar && !second.isScalar

theorem bothStructured_iff {first second : Payload} :
    bothStructured first second = true ↔ first.isScalar = false ∧ second.isScalar = false := by
  simp [bothStructured]

theorem bothStructured_of_sameKind {first second : Payload} (same : sameKind first second = true) :
    bothStructured first second = true := by
  cases first <;> cases second <;> simp_all [sameKind, bothStructured, isScalar]

end Payload

/-- Which values may stand in for each other under a sensitive key: at least
those of one kind, and never a scalar. -/
structure SecretSwap where
  allows : Payload → Payload → Bool
  kinds : ∀ first second, Payload.sameKind first second = true → allows first second = true
  structured : ∀ first second, allows first second = true →
    Payload.bothStructured first second = true

namespace SecretSwap

/-- Secrets keep their kind. -/
def ofKind : SecretSwap where
  allows := Payload.sameKind
  kinds := fun _ _ same => same
  structured := fun _ _ => Payload.bothStructured_of_sameKind

end SecretSwap

section Alike

variable (swap : SecretSwap)

mutual

/-- Equal except that values under sensitive keys may be exchanged as `swap`
allows. -/
inductive Alike : Payload → Payload → Prop where
  | refl (value : Payload) : Alike value value
  | list {items others : List Payload} (inner : AlikeItems items others) :
      Alike (.list items) (.list others)
  | tuple {items others : List Payload} (inner : AlikeItems items others) :
      Alike (.tuple items) (.tuple others)
  | dict {entries others : List (String × Payload)} (inner : AlikeEntries entries others) :
      Alike (.dict entries) (.dict others)

inductive AlikeItems : List Payload → List Payload → Prop where
  | nil : AlikeItems [] []
  | cons {item other : Payload} {rest others : List Payload}
      (head : Alike item other) (tail : AlikeItems rest others) :
      AlikeItems (item :: rest) (other :: others)

inductive AlikeEntries : List (String × Payload) → List (String × Payload) → Prop where
  | nil : AlikeEntries [] []
  | field (key : String) (value other : Payload) {rest others : List (String × Payload)}
      (head : Alike value other) (tail : AlikeEntries rest others) :
      AlikeEntries ((key, value) :: rest) ((key, other) :: others)
  | secret (key : String) (value other : Payload) {rest others : List (String × Payload)}
      (sensitive : sensitiveKey chars key = true) (swapped : swap.allows value other = true)
      (tail : AlikeEntries rest others) :
      AlikeEntries ((key, value) :: rest) ((key, other) :: others)

end

variable {chars swap}

theorem AlikeItems.refl : ∀ items : List Payload, AlikeItems chars swap items items
  | [] => .nil
  | item :: rest => .cons (.refl item) (AlikeItems.refl rest)

theorem AlikeEntries.refl :
    ∀ entries : List (String × Payload), AlikeEntries chars swap entries entries
  | [] => .nil
  | (key, value) :: rest => .field key value value (.refl value) (AlikeEntries.refl rest)

variable {first second : Payload}

theorem Alike.isList_eq (alike : Alike chars swap first second) : first.isList = second.isList := by
  cases alike <;> rfl

theorem Alike.isDict_eq (alike : Alike chars swap first second) : first.isDict = second.isDict := by
  cases alike <;> rfl

theorem Alike.isScalar_eq (alike : Alike chars swap first second) :
    first.isScalar = second.isScalar := by
  cases alike <;> rfl

/-- Values that are told apart by kind alone are equal when they are scalars. -/
theorem Alike.eq_of_isScalar (alike : Alike chars swap first second)
    (scalar : first.isScalar = true) : first = second := by
  cases alike with
  | refl => rfl
  | list | tuple | dict => simp [Payload.isScalar] at scalar

end Alike

mutual

/-- An attachment shown by `redactObj` has a sensitive key that is no body key,
with a string, a sequence or a map under it. -/
def exposed : Payload → Bool
  | .list items => exposedItems items
  | .tuple items => exposedItems items
  | .dict entries => exposedEntries entries
  | _ => false

def exposedItems : List Payload → Bool
  | [] => false
  | item :: rest => exposed item || exposedItems rest

def exposedEntries : List (String × Payload) → Bool
  | [] => false
  | (key, value) :: rest =>
      (if isAttachments chars key && value.isList then exposedAttachments value
        else !sensitiveKey chars key && exposed value) || exposedEntries rest

def exposedAttachments : Payload → Bool
  | .list items => exposedAttachmentItems items
  | _ => false

def exposedAttachmentItems : List Payload → Bool
  | [] => false
  | .dict fields :: rest => exposedAttachmentFields fields || exposedAttachmentItems rest
  | item :: rest => exposed item || exposedAttachmentItems rest

def exposedAttachmentFields : List (String × Payload) → Bool
  | [] => false
  | (key, value) :: rest =>
      (!attachmentBody chars key &&
        ((sensitiveKey chars key && !value.isScalar) || exposed value)) ||
      exposedAttachmentFields rest

end

theorem not_isAttachments_of_sensitive {chars : CharacterDatabase} {key : String}
    (sensitive : sensitiveKey chars key = true) : isAttachments chars key = false := by
  rw [isAttachments, beq_eq_false_iff_ne]
  intro attachments
  have plain : sensitiveKey chars key = false := by
    rw [sensitiveKey, attachments]
    decide +kernel
  rw [plain] at sensitive
  exact Bool.false_ne_true sensitive

theorem exposedAttachmentItems_tail {chars : CharacterDatabase} {item : Payload}
    {rest : List Payload} (hidden : exposedAttachmentItems chars (item :: rest) = false) :
    exposedAttachmentItems chars rest = false := by
  cases item <;> exact (Bool.or_eq_false_iff.mp hidden).2

section Hidden

variable {chars} {swap : SecretSwap}

mutual

theorem Alike.redactObj_eq {first second : Payload} : Alike chars swap first second →
    exposed chars first = false → redactObj chars first = redactObj chars second
  | .refl _, _ => rfl
  | .list inner, hidden => by
      rw [redactObj, redactObj, inner.redactItems_eq hidden]
  | .tuple inner, hidden => by
      rw [redactObj, redactObj, inner.redactItems_eq hidden]
  | .dict inner, hidden => by
      rw [redactObj, redactObj, inner.redactEntries_eq hidden]

theorem AlikeItems.redactItems_eq {items others : List Payload} :
    AlikeItems chars swap items others →
    exposedItems chars items = false → redactItems chars items = redactItems chars others
  | .nil, _ => rfl
  | .cons head tail, hidden => by
      rw [exposedItems, Bool.or_eq_false_iff] at hidden
      rw [redactItems, redactItems, head.redactObj_eq hidden.1, tail.redactItems_eq hidden.2]

theorem AlikeEntries.redactEntries_eq {entries others : List (String × Payload)} :
    AlikeEntries chars swap entries others →
    exposedEntries chars entries = false →
    redactEntries chars entries = redactEntries chars others
  | .nil, _ => rfl
  | .field key value other head tail, hidden => by
      rw [exposedEntries, Bool.or_eq_false_iff] at hidden
      rw [redactEntries, redactEntries, tail.redactEntries_eq hidden.2, ← head.isList_eq,
        ← head.isScalar_eq]
      by_cases attachments : (isAttachments chars key && value.isList) = true
      · rw [if_pos attachments, if_pos attachments]
        rw [if_pos attachments] at hidden
        rw [head.redactAttachments_eq (Bool.and_eq_true_iff.mp attachments).2 hidden.1]
      · rw [if_neg attachments, if_neg attachments]
        rw [if_neg attachments, Bool.and_eq_false_iff] at hidden
        cases sensitive : sensitiveKey chars key with
        | false =>
            rw [sensitive] at hidden
            simp only [Bool.not_false, if_true]
            rw [head.redactObj_eq (hidden.1.resolve_left Bool.noConfusion)]
        | true =>
            cases scalar : value.isScalar with
            | true => rw [head.eq_of_isScalar scalar]
            | false => rfl
  | .secret key value other sensitive swapped tail, hidden => by
      rw [exposedEntries, Bool.or_eq_false_iff] at hidden
      have plain := not_isAttachments_of_sensitive sensitive
      have kinds := Payload.bothStructured_iff.mp (swap.structured value other swapped)
      rw [redactEntries, redactEntries, tail.redactEntries_eq hidden.2, plain, sensitive,
        kinds.1, kinds.2]
      rfl

theorem Alike.redactAttachments_eq {first second : Payload} : Alike chars swap first second →
    first.isList = true → exposedAttachments chars first = false →
    redactAttachments chars first = redactAttachments chars second
  | .refl _, _, _ => rfl
  | .list inner, _, hidden => by
      rw [redactAttachments, redactAttachments, inner.redactAttachmentItems_eq hidden]

theorem AlikeItems.redactAttachmentItems_eq {items others : List Payload} :
    AlikeItems chars swap items others →
    exposedAttachmentItems chars items = false →
    redactAttachmentItems chars items = redactAttachmentItems chars others
  | .nil, _ => rfl
  | .cons (.refl item) tail, hidden => by
      have same := tail.redactAttachmentItems_eq (exposedAttachmentItems_tail hidden)
      cases item <;> simp only [redactAttachmentItems, same]
  | .cons (.list inner) tail, hidden => by
      obtain ⟨here, later⟩ := Bool.or_eq_false_iff.mp hidden
      simp only [redactAttachmentItems, redactObj, inner.redactItems_eq here,
        tail.redactAttachmentItems_eq later]
  | .cons (.tuple inner) tail, hidden => by
      obtain ⟨here, later⟩ := Bool.or_eq_false_iff.mp hidden
      simp only [redactAttachmentItems, redactObj, inner.redactItems_eq here,
        tail.redactAttachmentItems_eq later]
  | .cons (.dict inner) tail, hidden => by
      obtain ⟨here, later⟩ := Bool.or_eq_false_iff.mp hidden
      rw [redactAttachmentItems, redactAttachmentItems, tail.redactAttachmentItems_eq later,
        inner.redactAttachmentFields_eq here]

theorem AlikeEntries.redactAttachmentFields_eq {entries others : List (String × Payload)} :
    AlikeEntries chars swap entries others →
    exposedAttachmentFields chars entries = false →
    redactAttachmentFields chars entries = redactAttachmentFields chars others
  | .nil, _ => rfl
  | .field key value other head tail, hidden => by
      rw [exposedAttachmentFields, Bool.or_eq_false_iff] at hidden
      rw [redactAttachmentFields, redactAttachmentFields, tail.redactAttachmentFields_eq hidden.2]
      cases body : attachmentBody chars key with
      | true => rfl
      | false =>
          simp only [body, Bool.not_false, Bool.true_and, Bool.or_eq_false_iff] at hidden
          rw [head.redactObj_eq hidden.1.2]
  | .secret key value other sensitive swapped tail, hidden => by
      rw [exposedAttachmentFields, Bool.or_eq_false_iff] at hidden
      have kinds := Payload.bothStructured_iff.mp (swap.structured value other swapped)
      rw [redactAttachmentFields, redactAttachmentFields, tail.redactAttachmentFields_eq hidden.2]
      cases body : attachmentBody chars key with
      | true => rfl
      | false => simp [body, sensitive, kinds.1] at hidden

end

end Hidden

theorem redactText_empty : redactText chars "" = "" := by
  simp only [redactText, Regex.sub_empty]

/-- A full stop is no word character, so that no pattern matches it. -/
theorem redactText_stop : redactText chars (String.ofList ['.']) = String.ofList ['.'] := by
  have plain : chars.isWord '.' = false := chars.isWord_ascii '.' (by decide)
  simp only [redactText]
  rw [Regex.sub_single, Regex.sub_single, Regex.sub_single, Regex.sub_single]
  · simp [envSecretRe, Regex.groups, Regex.splits, plain]
  · simp [apiKeyRe, Regex.groups, Regex.splits, plain]
  · simp [jwtRe, Regex.groups, Regex.splits, plain]
  · simp [privateKeyRe, Regex.groups, Regex.splits, Regex.literal, exactly]

/-- Every string, sequence or map can be exchanged for one of its kind that is
redacted differently. -/
theorem exists_redacted_differently {value : Payload} (structured : value.isScalar = false) :
    ∃ other, Payload.sameKind value other = true ∧
      redactObj chars value ≠ redactObj chars other := by
  cases value with
  | none | bool | int | float => simp [Payload.isScalar] at structured
  | str text =>
      by_cases empty : redactText chars text = ""
      · refine ⟨.str (String.ofList ['.']), rfl, fun same => ?_⟩
        rw [redactObj, redactObj, empty, redactText_stop] at same
        simp at same
      · refine ⟨.str "", rfl, fun same => ?_⟩
        rw [redactObj, redactObj, redactText_empty] at same
        exact empty (Payload.str.inj same)
  | list items =>
      cases items with
      | nil => exact ⟨.list [.none], rfl, fun same => by simp [redactObj, redactItems] at same⟩
      | cons item rest => exact ⟨.list [], rfl, fun same => by simp [redactObj, redactItems] at same⟩
  | tuple items =>
      cases items with
      | nil => exact ⟨.tuple [.none], rfl, fun same => by simp [redactObj, redactItems] at same⟩
      | cons item rest => exact ⟨.tuple [], rfl, fun same => by simp [redactObj, redactItems] at same⟩
  | dict entries =>
      cases entries with
      | nil =>
          refine ⟨.dict [("", .none)], rfl, fun same => ?_⟩
          simp [redactObj, redactEntries] at same
      | cons entry rest =>
          refine ⟨.dict [], rfl, fun same => ?_⟩
          simp [redactObj, redactEntries] at same

section Exposed

variable {chars} {swap : SecretSwap}

mutual

theorem exposed_differs : ∀ value : Payload, exposed chars value = true →
    ∃ other, Alike chars swap value other ∧ redactObj chars value ≠ redactObj chars other
  | .list items, shown => by
      obtain ⟨others, alike, differs⟩ := exposedItems_differs items shown
      exact ⟨.list others, .list alike, fun same => differs (by simpa [redactObj] using same)⟩
  | .tuple items, shown => by
      obtain ⟨others, alike, differs⟩ := exposedItems_differs items shown
      exact ⟨.tuple others, .tuple alike, fun same => differs (by simpa [redactObj] using same)⟩
  | .dict entries, shown => by
      obtain ⟨others, alike, differs⟩ := exposedEntries_differs entries shown
      exact ⟨.dict others, .dict alike, fun same => differs (by simpa [redactObj] using same)⟩

theorem exposedItems_differs : ∀ items : List Payload, exposedItems chars items = true →
    ∃ others, AlikeItems chars swap items others ∧
      redactItems chars items ≠ redactItems chars others
  | item :: rest, shown => by
      rw [exposedItems, Bool.or_eq_true] at shown
      rcases shown with here | later
      · obtain ⟨other, alike, differs⟩ := exposed_differs item here
        refine ⟨other :: rest, .cons alike (.refl rest), fun same => differs ?_⟩
        exact (List.cons.inj same).1
      · obtain ⟨others, alike, differs⟩ := exposedItems_differs rest later
        refine ⟨item :: others, .cons (.refl item) alike, fun same => differs ?_⟩
        exact (List.cons.inj same).2

theorem exposedEntries_differs : ∀ entries : List (String × Payload),
    exposedEntries chars entries = true →
    ∃ others, AlikeEntries chars swap entries others ∧
      redactEntries chars entries ≠ redactEntries chars others
  | (key, value) :: rest, shown => by
      rw [exposedEntries, Bool.or_eq_true] at shown
      rcases shown with here | later
      · split at here
        case isTrue attachments =>
          obtain ⟨other, alike, differs⟩ := exposedAttachments_differs value here
          refine ⟨(key, other) :: rest, .field key value other alike (.refl rest),
            fun same => differs ?_⟩
          rw [redactEntries, redactEntries, if_pos attachments, ← alike.isList_eq,
            if_pos attachments] at same
          exact (Prod.mk.inj (List.cons.inj same).1).2
        case isFalse attachments =>
          obtain ⟨plain, shown⟩ := Bool.and_eq_true_iff.mp here
          obtain ⟨other, alike, differs⟩ := exposed_differs value shown
          refine ⟨(key, other) :: rest, .field key value other alike (.refl rest),
            fun same => differs ?_⟩
          rw [redactEntries, redactEntries, if_neg attachments, ← alike.isList_eq,
            if_neg attachments, if_pos plain, if_pos plain] at same
          exact (Prod.mk.inj (List.cons.inj same).1).2
      · obtain ⟨others, alike, differs⟩ := exposedEntries_differs rest later
        refine ⟨(key, value) :: others, .field key value value (.refl value) alike,
          fun same => differs ?_⟩
        rw [redactEntries_cons, redactEntries_cons] at same
        exact (List.cons.inj same).2

theorem exposedAttachments_differs : ∀ value : Payload, exposedAttachments chars value = true →
    ∃ other, Alike chars swap value other ∧
      redactAttachments chars value ≠ redactAttachments chars other
  | .list items, shown => by
      obtain ⟨others, alike, differs⟩ := exposedAttachmentItems_differs items shown
      exact ⟨.list others, .list alike,
        fun same => differs (by simpa [redactAttachments] using same)⟩

theorem exposedAttachmentItems_differs : ∀ items : List Payload,
    exposedAttachmentItems chars items = true →
    ∃ others, AlikeItems chars swap items others ∧
      redactAttachmentItems chars items ≠ redactAttachmentItems chars others
  | item :: rest, shown => by
      by_cases later : exposedAttachmentItems chars rest = true
      · obtain ⟨others, alike, differs⟩ := exposedAttachmentItems_differs rest later
        exact ⟨item :: others, .cons (.refl item) alike,
          fun same => differs (redactAttachmentItems_tail chars same)⟩
      · cases item with
        | dict fields =>
            have here := (Bool.or_eq_true_iff.mp shown).resolve_right later
            obtain ⟨others, alike, differs⟩ := exposedAttachmentFields_differs fields here
            refine ⟨.dict others :: rest, .cons (.dict alike) (.refl rest), fun same => differs ?_⟩
            rw [redactAttachmentItems, redactAttachmentItems] at same
            exact Payload.dict.inj (List.cons.inj same).1
        | _ =>
            have here := (Bool.or_eq_true_iff.mp shown).resolve_right later
            obtain ⟨other, alike, differs⟩ := exposed_differs _ here
            refine ⟨other :: rest, .cons alike (.refl rest), fun same => differs ?_⟩
            have plain : other.isDict = false := alike.isDict_eq.symm
            rw [redactAttachmentItems_cons chars rfl, redactAttachmentItems_cons chars plain] at same
            exact (List.cons.inj same).1

theorem exposedAttachmentFields_differs : ∀ fields : List (String × Payload),
    exposedAttachmentFields chars fields = true →
    ∃ others, AlikeEntries chars swap fields others ∧
      redactAttachmentFields chars fields ≠ redactAttachmentFields chars others
  | (key, value) :: rest, shown => by
      rw [exposedAttachmentFields, Bool.or_eq_true] at shown
      rcases shown with here | later
      · obtain ⟨plain, shown⟩ := Bool.and_eq_true_iff.mp here
        have kept : attachmentBody chars key = false := by simpa using plain
        have other : ∃ other, AlikeEntries chars swap ((key, value) :: rest)
            ((key, other) :: rest) ∧ redactObj chars value ≠ redactObj chars other := by
          rcases Bool.or_eq_true_iff.mp shown with secret | deeper
          · obtain ⟨sensitive, structured⟩ := Bool.and_eq_true_iff.mp secret
            obtain ⟨other, same, differs⟩ :=
              exists_redacted_differently chars (by simpa using structured)
            exact ⟨other, .secret key value other sensitive (swap.kinds value other same) (.refl rest),
              differs⟩
          · obtain ⟨other, alike, differs⟩ := exposed_differs value deeper
            exact ⟨other, .field key value other alike (.refl rest), differs⟩
        obtain ⟨other, alike, differs⟩ := other
        refine ⟨(key, other) :: rest, alike, fun same => differs ?_⟩
        simp only [redactAttachmentFields, kept] at same
        exact (Prod.mk.inj (List.cons.inj same).1).2
      · obtain ⟨others, alike, differs⟩ := exposedAttachmentFields_differs rest later
        refine ⟨(key, value) :: others, .field key value value (.refl value) alike,
          fun same => differs ?_⟩
        rw [redactAttachmentFields, redactAttachmentFields] at same
        exact (List.cons.inj same).2

end

end Exposed

/-- The redacted payload does not depend on the values under sensitive keys
exactly when no attachment of the payload stores one under such a key. -/
theorem noninterfering_iff (swap : SecretSwap) (value : Payload) :
    (∀ other, Alike chars swap value other → redactObj chars value = redactObj chars other) ↔
      exposed chars value = false := by
  refine ⟨fun same => ?_, fun hidden other alike => alike.redactObj_eq hidden⟩
  rw [← Bool.not_eq_true]
  intro shown
  obtain ⟨other, alike, differs⟩ := exposed_differs value shown
  exact differs (same other alike)

end Redaction

/-- A payload with one attachment that has a password. -/
def attachedPassword (password : String) : Payload :=
  .dict [("attachments", .list [.dict [("password", .str password)]])]

/-- The password of an attachment is shown as it is. -/
theorem attachment_password_shown :
    Alike .ascii .ofKind (attachedPassword "hunter2") (attachedPassword "hunter3") ∧
      redactObj .ascii (attachedPassword "hunter2") = attachedPassword "hunter2" ∧
      redactObj .ascii (attachedPassword "hunter3") = attachedPassword "hunter3" ∧
      redactObj .ascii (attachedPassword "hunter2") ≠
        redactObj .ascii (attachedPassword "hunter3") := by
  have first : redactText .ascii "hunter2" = "hunter2" := by decide +kernel
  have second : redactText .ascii "hunter3" = "hunter3" := by decide +kernel
  have outer : isAttachments .ascii "attachments" = true := by decide +kernel
  have inner : attachmentBody .ascii "password" = false := by decide +kernel
  have shown : ∀ password, redactText .ascii password = password →
      redactObj .ascii (attachedPassword password) = attachedPassword password := by
    intro password unchanged
    simp [attachedPassword, redactObj, redactEntries, redactAttachments, redactAttachmentItems,
      redactAttachmentFields, Payload.isList, outer, inner, unchanged]
  refine ⟨?_, shown _ first, shown _ second, ?_⟩
  · refine .dict (.field _ _ _ (.list (.cons (.dict ?_) .nil)) .nil)
    exact .secret _ _ _ (by decide +kernel) rfl .nil
  · rw [shown _ first, shown _ second]
    simp [attachedPassword]

end ZaofuFormal.Security
