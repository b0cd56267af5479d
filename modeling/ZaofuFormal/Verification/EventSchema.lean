import ZaofuFormal.Foundation.JsonOrder

/-!
# Event schemas as they are declared and as they are walked

A rule body lists scalars of a YAML document.  Reading the body turns every listed
scalar into its text, and the walker compares these texts with texts of the payload
only.  A payload is therefore judged twice here: by the walker and by the body itself,
whose scalars keep their types.  The two judgements are the same for a payload that meets
no scalar of another type, neither its value nor its text, and no key that is repeated.
-/

namespace ZaofuFormal.Verification

open Foundation

/-- A scalar of a YAML document; a date or a time is known by what `str` prints for it. -/
inductive Scalar where
  | null
  | bool (value : Bool)
  | int (value : Int)
  | float (value : Rat) (repr : String)
  | str (value : String)
  | other (printed : String)
  deriving DecidableEq

namespace Scalar

/-- The scalar as a decoded value; dates are no values of a payload. -/
def json? : Scalar → Option Json
  | .null => some .null
  | .bool value => some (.bool value)
  | .int value => some (.int value)
  | .float value repr => some (.float value repr)
  | .str value => some (.str value)
  | .other _ => none

/-- `str(scalar)`. -/
def pyStr : Scalar → String
  | .other printed => printed
  | scalar => (scalar.json?.map Json.pyStr).getD ""

/-- `payload[field] == scalar`. -/
def equals (value : Json) (scalar : Scalar) : Bool :=
  match scalar.json? with
  | some listed => value.equal listed
  | none => false

/-- `str(v) if v is not None else ""`. -/
def triggerText : Scalar → String
  | .null => ""
  | scalar => scalar.pyStr

def isText : Scalar → Bool
  | .str _ => true
  | _ => false

end Scalar

/-- The body of a rule: the `if:` pairs are empty where no `when:` is given. -/
inductive RuleBody where
  | mk (required optional nonEmpty : List Scalar) (enum : List (Scalar × List Scalar))
      (nested listItem : List (Scalar × RuleBody))
      (ifPairs : List (Scalar × Scalar)) (thenBody : Option RuleBody)

inductive EventSchemaRule where
  | mk (eventType : String) (required optional nonEmpty : List String)
      (enumConstraints : List (String × List String))
      (nestedRules listItemRules : List (String × EventSchemaRule))
      (conditionalTriggerField conditionalTriggerValue : Option String)
      (conditionalRule : Option EventSchemaRule)

structure SchemaViolation where
  eventType : String
  fieldPath : String
  code : String
  expected : String
  actual : String
  deriving DecidableEq

/-- A comprehension over `items()`: a later entry replaces one whose key has its text. -/
def byText {ν : Type} (entries : List (String × ν)) : List (String × ν) :=
  (Dict.ofEntries entries).entries

def enumConstraintsOf (enum : List (Scalar × List Scalar)) : List (String × List String) :=
  byText (enum.map fun entry => (entry.1.pyStr, entry.2.map Scalar.pyStr))

namespace EventSchemaRule

mutual

def fromDict (eventType : String) : RuleBody → EventSchemaRule
  | .mk required optional nonEmpty enum nested listItem ifPairs thenBody =>
      let conditional : Option String × Option String × Option EventSchemaRule :=
        match ifPairs, thenBody with
        -- only the first pair of `if:` is read
        | (field, value) :: _, some body =>
            (some field.pyStr, some value.triggerText,
              some (fromDict
                (eventType ++ "|when:" ++ field.pyStr ++ "=" ++ value.triggerText) body))
        | _, _ => (none, none, none)
      .mk eventType (required.map Scalar.pyStr) (optional.map Scalar.pyStr)
        (nonEmpty.map Scalar.pyStr) (enumConstraintsOf enum)
        (byText (entriesFromDict eventType "" nested))
        (byText (entriesFromDict eventType "[]" listItem))
        conditional.1 conditional.2.1 conditional.2.2

/-- The rules of the fields: `[]` stands behind the name of a list. -/
def entriesFromDict (eventType suffix : String) :
    List (Scalar × RuleBody) → List (String × EventSchemaRule)
  | [] => []
  | (key, body) :: rest =>
      (key.pyStr, fromDict (eventType ++ "." ++ key.pyStr ++ suffix) body) ::
        entriesFromDict eventType suffix rest

end

end EventSchemaRule

def typeName : Json → String
  | .null => "NoneType"
  | .bool _ => "bool"
  | .int _ => "int"
  | .float _ _ => "float"
  | .str _ => "str"
  | .arr _ => "list"
  | .obj _ => "dict"

/-- A text or a list without members, and `null`. -/
def isEmpty : Json → Bool
  | .null => true
  | .str value => value == ""
  | .arr items => items.isEmpty
  | _ => false

abbrev Members := List (String × Json)

section Walk

variable (eventType : String)

def requiredViolation (data : Members) (path key : String) : List SchemaViolation :=
  match Dict.find key data with
  | some _ => []
  | none => [⟨eventType, path ++ "." ++ key, "missing_required", key ++ " present", "missing"⟩]

def nonEmptyViolation (data : Members) (path key : String) : List SchemaViolation :=
  match Dict.find key data with
  | none => []
  | some value =>
      if isEmpty value then
        [⟨eventType, path ++ "." ++ key, "empty_required", key ++ " non-empty", "empty"⟩]
      else []

def enumPasses (allowed : List String) : Json → Bool
  | .str value => decide (value ∈ allowed)
  | _ => false

def enumViolation (data : Members) (path : String) (constraint : String × List String) :
    List SchemaViolation :=
  match Dict.find constraint.1 data with
  | none => []
  | some value =>
      if enumPasses constraint.2 value then []
      else
        [⟨eventType, path ++ "." ++ constraint.1, "enum_mismatch",
          "one of " ++ (Json.arr (constraint.2.map Json.str)).pyStr, value.pyStr⟩]

def typeMismatch (path expected : String) (value : Json) : List SchemaViolation :=
  [⟨eventType, path, "type_mismatch", expected, typeName value⟩]

mutual

def validateAgainstRule : EventSchemaRule → Members → String → List SchemaViolation
  | .mk _ required _ nonEmpty enums nested listItems field value conditional, data, path =>
      required.flatMap (requiredViolation eventType data path) ++
        nonEmpty.flatMap (nonEmptyViolation eventType data path) ++
        enums.flatMap (enumViolation eventType data path) ++
        nestedViolations nested data path ++
        listViolations listItems data path ++
        match field, conditional with
        | some field, some rule =>
            match Dict.find field data with
            | some (.str actual) =>
                if some actual = value then validateAgainstRule rule data path else []
            | _ => []
        | _, _ => []

def nestedViolations : List (String × EventSchemaRule) → Members → String →
    List SchemaViolation
  | [], _, _ => []
  | (key, rule) :: rest, data, path =>
      (match Dict.find key data with
        | none => []
        | some (.obj fields) => validateAgainstRule rule fields (path ++ "." ++ key)
        | some value => typeMismatch eventType (path ++ "." ++ key) "object" value) ++
        nestedViolations rest data path

def listViolations : List (String × EventSchemaRule) → Members → String →
    List SchemaViolation
  | [], _, _ => []
  | (key, rule) :: rest, data, path =>
      (match Dict.find key data with
        | none => []
        | some (.arr items) =>
            items.zipIdx.flatMap fun item =>
              let place := path ++ "." ++ key ++ "[" ++ toString item.2 ++ "]"
              match item.1 with
              | .obj fields => validateAgainstRule rule fields place
              | value => typeMismatch eventType place "object" value
        | some value => typeMismatch eventType (path ++ "." ++ key) "list" value) ++
        listViolations rest data path

end

end Walk

structure EventSchemaRegistry where
  rules : Dict String EventSchemaRule
  rulesByKind : Dict String (Dict String EventSchemaRule)

namespace EventSchemaRegistry

/-- Entries whose body is no mapping are passed over. -/
def fromDict (raw : List (Scalar × Option RuleBody)) : EventSchemaRegistry where
  rules := Dict.ofEntries (raw.filterMap fun entry =>
    entry.2.map fun body => (entry.1.pyStr, EventSchemaRule.fromDict entry.1.pyStr body))
  rulesByKind := ∅

def rulesForKind (registry : EventSchemaRegistry) (flowKind : String) :
    Dict String EventSchemaRule :=
  let kind := PyString.lowerAscii (PyString.strip flowKind)
  (registry.rulesByKind.get? (if kind = "feat" then "prd" else kind)).getD registry.rules

/-- `payload.get("flow_kind") or payload.get("request_kind") or …`. -/
def flowKindOf (payload : Json) : String :=
  let kinds := ["flow_kind", "request_kind", "goal_kind"].map payload.get
  ((kinds.find? Json.truthy).map Json.pyStr).getD ""

def validate (registry : EventSchemaRegistry) (eventType : String) (payload : Json) :
    List SchemaViolation :=
  let payload := payload.objectOrEmpty
  match (registry.rulesForKind (flowKindOf payload)).get? eventType with
  | none => []
  | some rule => validateAgainstRule eventType rule payload.fields "payload"

end EventSchemaRegistry

mutual

/-- The payload keeps the body, whose scalars are compared as the values they are. -/
def Satisfies : RuleBody → Members → Prop
  | .mk required _ nonEmpty enum nested listItem ifPairs thenBody, data =>
      (∀ key ∈ required, (Dict.find key.pyStr data).isSome) ∧
        (∀ key ∈ nonEmpty, ∀ value, Dict.find key.pyStr data = some value → ¬ isEmpty value) ∧
        (∀ entry ∈ enum, ∀ value, Dict.find entry.1.pyStr data = some value →
          ∃ scalar ∈ entry.2, scalar.equals value) ∧
        NestedSatisfied nested data ∧ ItemsSatisfied listItem data ∧
        match ifPairs, thenBody with
        | (field, value) :: _, some body =>
            (∃ actual, Dict.find field.pyStr data = some actual ∧ value.equals actual) →
              Satisfies body data
        | _, _ => True

def NestedSatisfied : List (Scalar × RuleBody) → Members → Prop
  | [], _ => True
  | (key, body) :: rest, data =>
      (∀ value, Dict.find key.pyStr data = some value →
        ∃ fields, value = .obj fields ∧ Satisfies body fields) ∧ NestedSatisfied rest data

def ItemsSatisfied : List (Scalar × RuleBody) → Members → Prop
  | [], _ => True
  | (key, body) :: rest, data =>
      (∀ value, Dict.find key.pyStr data = some value →
        ∃ items, value = .arr items ∧
          ∀ item ∈ items, ∃ fields, item = .obj fields ∧ Satisfies body fields) ∧
        ItemsSatisfied rest data

end

/-- A later entry has the text of this key. -/
def replaced {ν : Type} (key : Scalar) (rest : List (Scalar × ν)) : Bool :=
  decide (key.pyStr ∈ rest.map fun entry => entry.1.pyStr)

/-- A listed scalar that is no text is not the value, and its text is the value only where
this text is listed itself. -/
def EnumRead (listed : List Scalar) (value : Json) : Prop :=
  ∀ scalar ∈ listed, scalar.isText = false → scalar.equals value = false ∧
    (value = .str scalar.pyStr → .str scalar.pyStr ∈ listed)

/-- A trigger that is no text is not the value, and neither is its text. -/
def TriggerRead (trigger : Scalar) (value : Json) : Prop :=
  trigger.isText = false → trigger.equals value = false ∧ value ≠ .str trigger.triggerText

/-- No key of a field that is present is repeated. -/
def EnumsRead : List (Scalar × List Scalar) → Members → Prop
  | [], _ => True
  | (key, listed) :: rest, data =>
      (∀ value, Dict.find key.pyStr data = some value →
        replaced key rest = false ∧ EnumRead listed value) ∧ EnumsRead rest data

mutual

/-- Wherever the body meets the payload, only texts decide. -/
def PlainlyRead : RuleBody → Members → Prop
  | .mk _ _ _ enum nested listItem ifPairs thenBody, data =>
      EnumsRead enum data ∧ NestedRead nested data ∧ ItemsRead listItem data ∧
        match ifPairs, thenBody with
        | (field, trigger) :: _, some body =>
            ∀ value, Dict.find field.pyStr data = some value →
              TriggerRead trigger value ∧ (trigger.equals value → PlainlyRead body data)
        | _, _ => True

def NestedRead : List (Scalar × RuleBody) → Members → Prop
  | [], _ => True
  | (key, body) :: rest, data =>
      (∀ value, Dict.find key.pyStr data = some value → replaced key rest = false ∧
        ∀ fields, value = .obj fields → PlainlyRead body fields) ∧ NestedRead rest data

def ItemsRead : List (Scalar × RuleBody) → Members → Prop
  | [], _ => True
  | (key, body) :: rest, data =>
      (∀ value, Dict.find key.pyStr data = some value → replaced key rest = false ∧
        ∀ items, value = .arr items → ∀ item ∈ items, ∀ fields, item = .obj fields →
          PlainlyRead body fields) ∧ ItemsRead rest data

end

theorem equals_text {scalar : Scalar} (text : scalar.isText = true) (value : Json) :
    scalar.equals value = (value == .str scalar.pyStr) := by
  cases scalar with
  | str listed =>
      cases value with
      | str actual => exact Bool.beq_comm
      | _ => rfl
  | _ => cases text

theorem enumPasses_iff {listed : List Scalar} {value : Json} (read : EnumRead listed value) :
    enumPasses (listed.map Scalar.pyStr) value = true ↔
      ∃ scalar ∈ listed, scalar.equals value = true := by
  have meant (scalar : Scalar) (member : scalar ∈ listed) (same : scalar.equals value = true) :
      value = .str scalar.pyStr := by
    cases text : scalar.isText with
    | true => exact beq_iff_eq.mp (equals_text text value ▸ same)
    | false => exact absurd (same.symm.trans (read scalar member text).1) (by decide)
  constructor
  · intro passes
    cases value with
    | str text =>
        obtain ⟨scalar, member, same⟩ := List.mem_map.mp (of_decide_eq_true passes)
        have listing : .str text ∈ listed := by
          cases scalar with
          | str _ => exact same ▸ member
          | _ => exact same ▸ (read _ member rfl).2 (same ▸ rfl)
        exact ⟨.str text, listing, beq_self_eq_true _⟩
    | _ => cases passes
  · rintro ⟨scalar, member, same⟩
    rw [meant scalar member same]
    exact decide_eq_true (List.mem_map_of_mem member)

/-- The walker's comparison is the declared one. -/
theorem trigger_iff {trigger : Scalar} {value : Json} (read : TriggerRead trigger value) :
    value = .str trigger.triggerText ↔ trigger.equals value = true := by
  cases text : trigger.isText with
  | true =>
      rw [equals_text text, beq_iff_eq]
      cases trigger with
      | str _ => rfl
      | _ => cases text
  | false =>
      obtain ⟨unequal, other⟩ := read text
      rw [unequal]
      exact ⟨fun same => absurd same other, fun impossible => absurd impossible (by decide)⟩

theorem forall_byText_cons {ν : Type} {first : String × ν} {rest : List (String × ν)}
    {holds : String × ν → Prop} :
    (∀ entry ∈ byText (first :: rest), holds entry) ↔
      (first.1 ∈ rest.map Prod.fst ∨ holds first) ∧ ∀ entry ∈ byText rest, holds entry := by
  simp only [byText, Dict.mem_ofEntries_cons]
  constructor
  · intro all
    refine ⟨?_, fun entry member => all entry (Or.inl member)⟩
    by_cases repeated : first.1 ∈ rest.map Prod.fst
    · exact Or.inl repeated
    · exact Or.inr (all first (Or.inr ⟨rfl, repeated⟩))
  · rintro ⟨head, tail⟩ entry (member | ⟨rfl, fresh⟩)
    · exact tail entry member
    · exact head.resolve_left fresh

theorem keys_entriesFromDict (name suffix : String) (entries : List (Scalar × RuleBody)) :
    (EventSchemaRule.entriesFromDict name suffix entries).map Prod.fst =
      entries.map fun entry => entry.1.pyStr := by
  induction entries with
  | nil => rfl
  | cons entry rest ih => simp [EventSchemaRule.entriesFromDict, ih]

section Walked

variable (eventType : String)

theorem requiredViolation_eq_nil (data : Members) (path key : String) :
    requiredViolation eventType data path key = [] ↔ (Dict.find key data).isSome = true := by
  unfold requiredViolation
  cases Dict.find key data <;> simp

theorem nonEmptyViolation_eq_nil (data : Members) (path key : String) :
    nonEmptyViolation eventType data path key = [] ↔
      ∀ value, Dict.find key data = some value → ¬ isEmpty value = true := by
  unfold nonEmptyViolation
  cases Dict.find key data with
  | none => simp
  | some value => cases empty : isEmpty value <;> simp [empty]

theorem enumViolations_eq_nil : ∀ {enum : List (Scalar × List Scalar)} {data : Members}
    (path : String), EnumsRead enum data →
    ((enumConstraintsOf enum).flatMap (enumViolation eventType data path) = [] ↔
      ∀ entry ∈ enum, ∀ value, Dict.find entry.1.pyStr data = some value →
        ∃ scalar ∈ entry.2, scalar.equals value)
  | [], _, _, _ => by
      simp [enumConstraintsOf, byText, Dict.ofEntries, Dict.insertAll, Dict.empty]
  | (key, listed) :: rest, data, path, read => by
      have later := enumViolations_eq_nil path read.2
      rw [List.flatMap_eq_nil_iff, enumConstraintsOf] at later ⊢
      rw [List.map_cons, forall_byText_cons, later, List.forall_mem_cons]
      refine and_congr_left' ?_
      rw [List.map_map, enumViolation]
      cases found : Dict.find key.pyStr data with
      | none => simp
      | some value =>
          obtain ⟨fresh, own⟩ := read.1 value found
          have unrepeated : key.pyStr ∉ rest.map fun entry => entry.1.pyStr :=
            of_decide_eq_false fresh
          simp only [Option.some.injEq, forall_eq', ← enumPasses_iff own]
          cases enumPasses (listed.map Scalar.pyStr) value with
          | true => simp
          | false => simpa [Function.comp_def] using unrepeated

theorem nestedViolations_eq_nil {rules : List (String × EventSchemaRule)} {data : Members}
    {path : String} :
    nestedViolations eventType rules data path = [] ↔
      ∀ rule ∈ rules, nestedViolations eventType [rule] data path = [] := by
  induction rules with
  | nil => simp [nestedViolations]
  | cons rule rest ih => simp [nestedViolations, ih]

theorem listViolations_eq_nil {rules : List (String × EventSchemaRule)} {data : Members}
    {path : String} :
    listViolations eventType rules data path = [] ↔
      ∀ rule ∈ rules, listViolations eventType [rule] data path = [] := by
  induction rules with
  | nil => simp [listViolations]
  | cons rule rest ih => simp [listViolations, ih]

mutual

/-- The walker finds nothing to complain of just when the payload keeps the body. -/
theorem validateAgainstRule_declared : ∀ (body : RuleBody) {data : Members}
    (name path : String), PlainlyRead body data →
    (validateAgainstRule eventType (EventSchemaRule.fromDict name body) data path = [] ↔
      Satisfies body data)
  | .mk required optional nonEmpty enum nested listItem ifPairs thenBody, data, name, path,
      read => by
      unfold PlainlyRead at read
      obtain ⟨enumsRead, nestedRead, itemsRead, lastRead⟩ := read
      have keys : (required.map Scalar.pyStr).flatMap (requiredViolation eventType data path) =
          [] ↔ ∀ key ∈ required, (Dict.find key.pyStr data).isSome := by
        rw [List.flatMap_eq_nil_iff, List.forall_mem_map]
        simp only [requiredViolation_eq_nil]
      have filled : (nonEmpty.map Scalar.pyStr).flatMap
          (nonEmptyViolation eventType data path) = [] ↔ ∀ key ∈ nonEmpty, ∀ value,
            Dict.find key.pyStr data = some value → ¬ isEmpty value := by
        rw [List.flatMap_eq_nil_iff, List.forall_mem_map]
        simp only [nonEmptyViolation_eq_nil]
      have enums := enumViolations_eq_nil eventType path enumsRead
      have objects := nestedViolations_declared name "" path nestedRead
      have lists := listViolations_declared name "[]" path itemsRead
      match ifPairs, thenBody, lastRead with
      | [], _, _ =>
          simp only [EventSchemaRule.fromDict, validateAgainstRule, Satisfies,
            List.append_eq_nil_iff, keys, filled, enums, objects, lists, and_assoc]
      | _ :: _, none, _ =>
          simp only [EventSchemaRule.fromDict, validateAgainstRule, Satisfies,
            List.append_eq_nil_iff, keys, filled, enums, objects, lists, and_assoc]
      | (field, trigger) :: _, some body, lastRead =>
          simp only [EventSchemaRule.fromDict, validateAgainstRule, Satisfies,
            List.append_eq_nil_iff, keys, filled, enums, objects, lists, and_assoc]
          refine and_congr_right' (and_congr_right' (and_congr_right' (and_congr_right'
            (and_congr_right' ?_))))
          cases found : Dict.find field.pyStr data with
          | none => simp
          | some value =>
              obtain ⟨triggerRead, bodyRead⟩ := lastRead value found
              have fires := trigger_iff triggerRead
              have inner (meant : trigger.equals value = true) :=
                validateAgainstRule_declared body
                  (name ++ "|when:" ++ field.pyStr ++ "=" ++ trigger.triggerText) path
                  (bodyRead meant)
              simp only [Option.some.injEq, exists_eq_left', ← fires] at inner ⊢
              cases value with
              | str text =>
                  simp only [Json.str.injEq] at inner ⊢
                  split
                  · rename_i same
                    simp only [same, forall_const, inner same]
                  · rename_i other
                    simp only [other, false_implies]
              | _ => simp

theorem nestedViolations_declared : ∀ {entries : List (Scalar × RuleBody)} {data : Members}
    (name suffix path : String), NestedRead entries data →
    (nestedViolations eventType (byText (EventSchemaRule.entriesFromDict name suffix entries))
        data path = [] ↔ NestedSatisfied entries data)
  | [], _, name, suffix, path, _ => by
      simp [EventSchemaRule.entriesFromDict, byText, Dict.ofEntries, Dict.insertAll, Dict.empty,
        nestedViolations, NestedSatisfied]
  | (key, body) :: rest, data, name, suffix, path, read => by
      unfold NestedRead at read
      have later := nestedViolations_declared name suffix path read.2
      rw [nestedViolations_eq_nil] at later ⊢
      rw [EventSchemaRule.entriesFromDict, forall_byText_cons, later, NestedSatisfied,
        keys_entriesFromDict]
      refine and_congr_left' ?_
      rw [nestedViolations, nestedViolations, List.append_nil]
      cases found : Dict.find key.pyStr data with
      | none => simp
      | some value =>
          obtain ⟨fresh, own⟩ := read.1 value found
          rw [or_iff_right (of_decide_eq_false fresh)]
          cases value with
          | obj fields =>
              simpa using validateAgainstRule_declared body _ _ (own fields rfl)
          | _ => simp [typeMismatch]

theorem listViolations_declared : ∀ {entries : List (Scalar × RuleBody)} {data : Members}
    (name suffix path : String), ItemsRead entries data →
    (listViolations eventType (byText (EventSchemaRule.entriesFromDict name suffix entries))
        data path = [] ↔ ItemsSatisfied entries data)
  | [], _, name, suffix, path, _ => by
      simp [EventSchemaRule.entriesFromDict, byText, Dict.ofEntries, Dict.insertAll, Dict.empty,
        listViolations, ItemsSatisfied]
  | (key, body) :: rest, data, name, suffix, path, read => by
      unfold ItemsRead at read
      have later := listViolations_declared name suffix path read.2
      rw [listViolations_eq_nil] at later ⊢
      rw [EventSchemaRule.entriesFromDict, forall_byText_cons, later, ItemsSatisfied,
        keys_entriesFromDict]
      refine and_congr_left' ?_
      rw [listViolations, listViolations, List.append_nil]
      cases found : Dict.find key.pyStr data with
      | none => simp
      | some value =>
          obtain ⟨fresh, own⟩ := read.1 value found
          rw [or_iff_right (of_decide_eq_false fresh)]
          cases value with
          | arr items =>
              have inner (place : String) (fields : Members) (member : .obj fields ∈ items) :=
                validateAgainstRule_declared body
                  (name ++ "." ++ key.pyStr ++ suffix) place
                  (own items rfl _ member fields rfl)
              simp only [Option.some.injEq, forall_eq', Json.arr.injEq, exists_eq_left']
              rw [List.flatMap_eq_nil_iff]
              constructor
              · intro all item member
                obtain ⟨place, here⟩ := List.getElem?_of_mem member
                have own := all (item, place) (List.mem_zipIdx_iff_getElem?.mpr here)
                cases item with
                | obj fields => exact ⟨fields, rfl, (inner _ fields member).mp own⟩
                | _ => simp [typeMismatch] at own
              · rintro all ⟨item, place⟩ member
                have listed := List.fst_mem_of_mem_zipIdx member
                obtain ⟨fields, rfl, own⟩ := all item listed
                exact (inner _ fields listed).mpr own
          | _ => simp [typeMismatch]

end

end Walked

/-- The rule of an event type is read from the last mapping given for it. -/
theorem rules_fromDict {before after : List (Scalar × Option RuleBody)} {name : Scalar}
    {body : RuleBody}
    (latest : ∀ entry ∈ after, entry.2.isSome = true → entry.1.pyStr ≠ name.pyStr) :
    (EventSchemaRegistry.fromDict (before ++ (name, some body) :: after)).rules.get?
        name.pyStr = some (EventSchemaRule.fromDict name.pyStr body) := by
  have absent : name.pyStr ∉ (after.filterMap fun entry => entry.2.map fun body =>
      (entry.1.pyStr, EventSchemaRule.fromDict entry.1.pyStr body)).map Prod.fst := by
    intro member
    obtain ⟨rule, listed, same⟩ := List.mem_map.mp member
    obtain ⟨entry, given, read⟩ := List.mem_filterMap.mp listed
    obtain ⟨other, present, rfl⟩ := Option.map_eq_some_iff.mp read
    exact latest entry given (by simp [present]) same
  rw [EventSchemaRegistry.fromDict, List.filterMap_append, List.filterMap_cons, Dict.ofEntries,
    Dict.insertAll, List.foldl_append]
  dsimp only [Option.map_some, List.foldl_cons]
  exact (Dict.get?_insertAll_of_notMem absent _).trans (by simp)

theorem validate_fromDict {before after : List (Scalar × Option RuleBody)} {name : Scalar}
    {body : RuleBody}
    (latest : ∀ entry ∈ after, entry.2.isSome = true → entry.1.pyStr ≠ name.pyStr)
    (payload : Json) :
    (EventSchemaRegistry.fromDict (before ++ (name, some body) :: after)).validate name.pyStr
        payload =
      validateAgainstRule name.pyStr (EventSchemaRule.fromDict name.pyStr body)
        payload.fields "payload" := by
  have members : payload.objectOrEmpty.fields = payload.fields := by
    cases payload <;> rfl
  have rule := @rules_fromDict before after name body latest
  have only (kind : String) :
      (EventSchemaRegistry.fromDict (before ++ (name, some body) :: after)).rulesForKind kind =
        (EventSchemaRegistry.fromDict (before ++ (name, some body) :: after)).rules := rfl
  rw [EventSchemaRegistry.validate, only, rule, members]

/-- Validation of a plainly read payload finds no violation just when the payload keeps the
body as it is declared. -/
theorem validate_declared {before after : List (Scalar × Option RuleBody)} {name : Scalar}
    {body : RuleBody}
    (latest : ∀ entry ∈ after, entry.2.isSome = true → entry.1.pyStr ≠ name.pyStr)
    {payload : Json} (read : PlainlyRead body payload.fields) :
    (EventSchemaRegistry.fromDict (before ++ (name, some body) :: after)).validate name.pyStr
        payload = [] ↔ Satisfies body payload.fields := by
  rw [validate_fromDict latest]
  exact validateAgainstRule_declared name.pyStr _ name.pyStr "payload" read

/-- The condition is on a number: a round of `1` asks for a gate. -/
def roundBody : RuleBody :=
  .mk [] [] [] [] [] [] [(.str "round", .int 1)]
    (some (.mk [.str "gate_ref"] [] [] [] [] [] [] none))

/-- A round that the condition does not name. -/
theorem later_round_declared :
    (EventSchemaRegistry.fromDict [(.str "design.done", some roundBody)]).validate "design.done"
        (.obj [("round", .int 2)]) = [] ↔ Satisfies roundBody [("round", .int 2)] := by
  have read : PlainlyRead roundBody [("round", .int 2)] := by
    unfold roundBody PlainlyRead
    refine ⟨trivial, trivial, trivial, fun value found => ?_⟩
    obtain rfl : Json.int 2 = value := Option.some.inj found
    have other : (Scalar.int 1).equals (.int 2) = false := by decide +kernel
    exact ⟨fun _ => ⟨other, nofun⟩, fun same => absurd (same.symm.trans other) (by decide)⟩
  exact @validate_declared [] [] (.str "design.done") roundBody (by simp)
    (.obj [("round", .int 2)]) read

/-- The condition on a number never holds for the walker, and the missing gate passes. -/
theorem numeric_trigger_open :
    ¬ ((EventSchemaRegistry.fromDict [(.str "design.done", some roundBody)]).validate
        "design.done" (.obj [("round", .int 1)]) = [] ↔
      Satisfies roundBody [("round", .int 1)]) := by
  have passed : (EventSchemaRegistry.fromDict [(.str "design.done", some roundBody)]).validate
      "design.done" (.obj [("round", .int 1)]) = [] := by decide +kernel
  intro agreed
  have declared := agreed.mp passed
  unfold roundBody Satisfies at declared
  have gate := declared.2.2.2.2.2 ⟨.int 1, rfl, by decide +kernel⟩
  unfold Satisfies at gate
  exact absurd (gate.1 _ List.mem_cons_self) (by decide +kernel)

/-- No two entries share the text of a key. -/
def Distinct {ν : Type} (entries : List (Scalar × ν)) : Prop :=
  (entries.map fun entry => entry.1.pyStr).Nodup

mutual

/-- Every scalar that is compared with a value of the payload is a text. -/
def Textual : RuleBody → Prop
  | .mk _ _ _ enum nested listItem ifPairs thenBody =>
      (Distinct enum ∧ ∀ entry ∈ enum, ∀ scalar ∈ entry.2, scalar.isText = true) ∧
        (Distinct nested ∧ TextualEntries nested) ∧
        (Distinct listItem ∧ TextualEntries listItem) ∧
        match ifPairs, thenBody with
        | (_, value) :: _, some body => value.isText = true ∧ Textual body
        | _, _ => True

def TextualEntries : List (Scalar × RuleBody) → Prop
  | [] => True
  | (_, body) :: rest => Textual body ∧ TextualEntries rest

end

theorem replaced_of_distinct {ν : Type} {key : Scalar} {value : ν}
    {rest : List (Scalar × ν)} (distinct : Distinct ((key, value) :: rest)) :
    replaced key rest = false ∧ Distinct rest := by
  obtain ⟨fresh, later⟩ := List.nodup_cons.mp distinct
  exact ⟨decide_eq_false fresh, later⟩

theorem enumsRead_of_texts {enum : List (Scalar × List Scalar)} (distinct : Distinct enum)
    (texts : ∀ entry ∈ enum, ∀ scalar ∈ entry.2, scalar.isText = true) (data : Members) :
    EnumsRead enum data := by
  induction enum with
  | nil => trivial
  | cons entry rest ih =>
      obtain ⟨fresh, later⟩ := replaced_of_distinct distinct
      obtain ⟨own, others⟩ := List.forall_mem_cons.mp texts
      refine ⟨fun value _ => ⟨fresh, fun scalar member other => ?_⟩, ih later others⟩
      rw [own scalar member] at other
      cases other

mutual

theorem plainlyRead_of_textual : ∀ {body : RuleBody}, Textual body → ∀ data : Members,
    PlainlyRead body data
  | .mk _ _ _ enum nested listItem ifPairs thenBody, textual, data => by
      unfold Textual at textual
      obtain ⟨⟨enumDistinct, texts⟩, ⟨nestedDistinct, inside⟩, ⟨itemDistinct, items⟩, last⟩ :=
        textual
      unfold PlainlyRead
      refine ⟨enumsRead_of_texts enumDistinct texts data,
        nestedRead_of_textual nestedDistinct inside data,
        itemsRead_of_textual itemDistinct items data, ?_⟩
      match ifPairs, thenBody, last with
      | [], _, _ => trivial
      | _ :: _, none, _ => trivial
      | (field, trigger) :: _, some body, last =>
          refine fun value _ => ⟨fun other => ?_, fun _ => plainlyRead_of_textual last.2 data⟩
          rw [last.1] at other
          cases other

theorem nestedRead_of_textual : ∀ {entries : List (Scalar × RuleBody)}, Distinct entries →
    TextualEntries entries → ∀ data : Members, NestedRead entries data
  | [], _, _, _ => trivial
  | (key, body) :: rest, distinct, textual, data => by
      obtain ⟨fresh, later⟩ := replaced_of_distinct distinct
      obtain ⟨own, others⟩ := textual
      unfold NestedRead
      exact ⟨fun _ _ => ⟨fresh, fun fields _ => plainlyRead_of_textual own fields⟩,
        nestedRead_of_textual later others data⟩

theorem itemsRead_of_textual : ∀ {entries : List (Scalar × RuleBody)}, Distinct entries →
    TextualEntries entries → ∀ data : Members, ItemsRead entries data
  | [], _, _, _ => trivial
  | (key, body) :: rest, distinct, textual, data => by
      obtain ⟨fresh, later⟩ := replaced_of_distinct distinct
      obtain ⟨own, others⟩ := textual
      unfold ItemsRead
      exact ⟨fun _ _ => ⟨fresh, fun _ _ _ _ fields _ => plainlyRead_of_textual own fields⟩,
        itemsRead_of_textual later others data⟩

end

/-- A body of texts means what it declares, whatever the payload is. -/
theorem validate_textual {before after : List (Scalar × Option RuleBody)} {name : Scalar}
    {body : RuleBody}
    (latest : ∀ entry ∈ after, entry.2.isSome = true → entry.1.pyStr ≠ name.pyStr)
    (textual : Textual body) (payload : Json) :
    (EventSchemaRegistry.fromDict (before ++ (name, some body) :: after)).validate name.pyStr
        payload = [] ↔ Satisfies body payload.fields := by
  rw [validate_fromDict latest]
  exact validateAgainstRule_declared name.pyStr _ name.pyStr "payload"
    (plainlyRead_of_textual textual payload.fields)

/-- An enumeration of texts, lists of objects and a condition on a text. -/
def verdictBody : RuleBody :=
  .mk [.str "verdict"] [.str "wave"] [] [(.str "verdict", [.str "approve", .str "reject"])] []
    [(.str "findings", .mk [.str "axis"] [] [] [] [] [] [] none)]
    [(.str "verdict", .str "reject")]
    (some (.mk [.str "findings"] [] [.str "findings"] [] [] [] [] none))

def verdictRules : List (Scalar × Option RuleBody) :=
  [(.str "design.done", some verdictBody), (.str "design.done", none)]

/-- A rejection without findings. -/
theorem validate_textual_verdict :
    (EventSchemaRegistry.fromDict verdictRules).validate "design.done"
        (.obj [("verdict", .str "reject")]) = [] ↔
      Satisfies verdictBody [("verdict", .str "reject")] :=
  @validate_textual [] [(.str "design.done", none)] (.str "design.done") verdictBody (by simp)
    (by simp [verdictBody, Textual, TextualEntries, Distinct, Scalar.isText])
    (.obj [("verdict", .str "reject")])

end ZaofuFormal.Verification
