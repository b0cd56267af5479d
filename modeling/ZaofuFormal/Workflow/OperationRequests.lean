import Mathlib.Logic.Relation
import ZaofuFormal.Foundation.Digest
import ZaofuFormal.Foundation.JsonOrder
import ZaofuFormal.Workflow.OperationService

/-!
# The identity of an operation request

A request is a value of mappings, lists, tuples, sets and scalars, before it is
written as JSON.  Its canonical form is JSON: mappings have text keys in their order
and none of the volatile ones, tuples and sets are lists.  The hash of a request is
the digest of the text of its canonical form, and sees neither the order of keys nor
anything under a volatile key.

The digest of a text and the value that a number of a JSON text has are parameters.
-/

namespace ZaofuFormal.Workflow.OperationRequests

open Foundation
open JsonText (Plain PlainItems PlainFields ReadsBack Ordered OrderedItems OrderedFields)

/-- A key of a mapping. -/
inductive Key where
  | null
  | bool (value : Bool)
  | int (value : Int)
  | float (value : Rat) (repr : String)
  | str (value : String)
  deriving DecidableEq

/-- `str(key)`. -/
def Key.text : Key → String
  | .null => "None"
  | .bool true => "True"
  | .bool false => "False"
  | .int value => toString value
  | .float _ repr => repr
  | .str value => value

/-- A request or a part of one; sets and mappings list their items in the order of iteration. -/
inductive Value where
  | null
  | bool (value : Bool)
  | int (value : Int)
  | float (value : Rat) (repr : String)
  | str (value : String)
  | list (items : List Value)
  | tuple (items : List Value)
  | set (items : List Value)
  | map (entries : List (Key × Value))

/-- A dictionary comprehension over the pairs that are not volatile: of several pairs with
one key the last one counts. -/
def comprehension (pairs : List (String × Json)) : List (String × Json) :=
  (Dict.ofEntries (pairs.filter fun pair => decide (pair.1 ∉ volatileRequestKeys))).entries

mutual

def canonicalizeOperationRequest : Value → Json
  | .null => .null
  | .bool value => .bool value
  | .int value => .int value
  | .float value repr => .float value repr
  | .str value => .str value
  | .list items => .arr (canonicalItems items)
  | .tuple items => .arr (canonicalItems items)
  | .set items => .arr (Sorting.sortedBy JsonText.asciiDumps (canonicalItems items))
  | .map entries => .obj (comprehension (Sorting.sortedBy Prod.fst (canonicalEntries entries)))

def canonicalItems : List Value → List Json
  | [] => []
  | item :: rest => canonicalizeOperationRequest item :: canonicalItems rest

def canonicalEntries : List (Key × Value) → List (String × Json)
  | [] => []
  | (key, value) :: rest => (key.text, canonicalizeOperationRequest value) :: canonicalEntries rest

end

/-- The digest of the text of the canonical form, where `sha256` is the digest of a text. -/
def operationRequestHash (sha256 : List Char → String) (request : List (Key × Value)) : String :=
  sha256 (JsonText.dumps (.obj [("canonicalization_version", .str operationCanonicalization),
    ("request", canonicalizeOperationRequest (.map request))]))

mutual

/-- A canonical form as a value. -/
def ofJson : Json → Value
  | .null => .null
  | .bool value => .bool value
  | .int value => .int value
  | .float value repr => .float value repr
  | .str value => .str value
  | .arr items => .list (ofJsonItems items)
  | .obj fields => .map (ofJsonFields fields)

def ofJsonItems : List Json → List Value
  | [] => []
  | item :: rest => ofJson item :: ofJsonItems rest

def ofJsonFields : List (String × Json) → List (Key × Value)
  | [] => []
  | (key, value) :: rest => (.str key, ofJson value) :: ofJsonFields rest

end

theorem canonicalItems_eq (items : List Value) :
    canonicalItems items = items.map canonicalizeOperationRequest := by
  induction items with
  | nil => rfl
  | cons item rest ih => rw [canonicalItems, ih, List.map_cons]

theorem canonicalEntries_eq (entries : List (Key × Value)) :
    canonicalEntries entries =
      entries.map fun entry => (entry.1.text, canonicalizeOperationRequest entry.2) := by
  induction entries with
  | nil => rfl
  | cons entry rest ih => rw [canonicalEntries, ih, List.map_cons]

mutual

/-- The names of every object ascend, and none is volatile. -/
def Canonical : Json → Prop
  | .arr items => CanonicalItems items
  | .obj fields =>
      (fields.Pairwise fun first second => first.1 < second.1) ∧ CanonicalFields fields
  | _ => True

def CanonicalItems : List Json → Prop
  | [] => True
  | item :: rest => Canonical item ∧ CanonicalItems rest

def CanonicalFields : List (String × Json) → Prop
  | [] => True
  | (key, value) :: rest =>
      key ∉ volatileRequestKeys ∧ Canonical value ∧ CanonicalFields rest

end

theorem canonicalItems_iff (items : List Json) :
    CanonicalItems items ↔ ∀ item ∈ items, Canonical item := by
  induction items with
  | nil => simp [CanonicalItems]
  | cons item rest ih => simp [CanonicalItems, ih]

theorem canonicalFields_iff (fields : List (String × Json)) :
    CanonicalFields fields ↔
      ∀ entry ∈ fields, entry.1 ∉ volatileRequestKeys ∧ Canonical entry.2 := by
  induction fields with
  | nil => simp [CanonicalFields]
  | cons entry rest ih => simp [CanonicalFields, ih, and_assoc]

theorem mem_comprehension {pairs : List (String × Json)} {pair : String × Json}
    (member : pair ∈ comprehension pairs) : pair ∈ pairs ∧ pair.1 ∉ volatileRequestKeys := by
  obtain ⟨inside, kept⟩ := List.mem_filter.mp (Dict.mem_of_mem_ofEntries member)
  exact ⟨inside, of_decide_eq_true kept⟩

theorem comprehension_ascending {pairs : List (String × Json)}
    (sorted : pairs.Pairwise fun first second => first.1 ≤ second.1) :
    (comprehension pairs).Pairwise fun first second => first.1 < second.1 :=
  Dict.ofEntries_ascending (sorted.filter _)

mutual

theorem canonicalize_canonical : ∀ value, Canonical (canonicalizeOperationRequest value)
  | .null | .bool _ | .int _ | .float _ _ | .str _ => trivial
  | .list items => canonicalItems_canonical items
  | .tuple items => canonicalItems_canonical items
  | .set items => by
      refine (canonicalItems_iff _).mpr fun item member => ?_
      exact (canonicalItems_iff _).mp (canonicalItems_canonical items) item
        ((Sorting.mem_sortedBy _ _ _).mp member)
  | .map entries => by
      refine ⟨comprehension_ascending (Sorting.sortedBy_pairwise Prod.fst _), ?_⟩
      refine (canonicalFields_iff _).mpr fun entry member => ?_
      obtain ⟨inside, lasting⟩ := mem_comprehension member
      exact ⟨lasting, canonicalEntries_canonical entries entry
        ((Sorting.mem_sortedBy _ _ _).mp inside)⟩

theorem canonicalItems_canonical : ∀ items, CanonicalItems (canonicalItems items)
  | [] => trivial
  | item :: rest => ⟨canonicalize_canonical item, canonicalItems_canonical rest⟩

theorem canonicalEntries_canonical : ∀ entries, ∀ pair ∈ canonicalEntries entries,
    Canonical pair.2
  | [], _, member => absurd member List.not_mem_nil
  | (_, value) :: rest, pair, member => by
      rcases List.mem_cons.mp member with rfl | later
      · exact canonicalize_canonical value
      · exact canonicalEntries_canonical rest pair later

end

theorem nodup_of_ascending {fields : List (String × Json)}
    (ascending : fields.Pairwise fun first second => first.1 < second.1) :
    (fields.map Prod.fst).Nodup :=
  List.pairwise_map.mpr (ascending.imp fun below => below.ne)

theorem comprehension_eq_self {fields : List (String × Json)}
    (ascending : fields.Pairwise fun first second => first.1 < second.1)
    (lasting : ∀ entry ∈ fields, entry.1 ∉ volatileRequestKeys) :
    comprehension fields = fields := by
  have kept : (fields.filter fun pair => decide (pair.1 ∉ volatileRequestKeys)) = fields :=
    List.filter_eq_self.mpr fun entry member => decide_eq_true (lasting entry member)
  rw [comprehension, kept, Dict.entries_ofEntries (nodup_of_ascending ascending)]

mutual

/-- A canonical form is its own canonical form. -/
theorem canonicalize_ofJson : ∀ {form : Json}, Canonical form →
    canonicalizeOperationRequest (ofJson form) = form
  | .null, _ | .bool _, _ | .int _, _ | .float _ _, _ | .str _, _ => rfl
  | .arr items, canonical => by
      rw [ofJson, canonicalizeOperationRequest, canonicalItems_ofJson canonical]
  | .obj fields, canonical => by
      have sorted : fields.Pairwise fun first second => first.1 ≤ second.1 :=
        canonical.1.imp fun below => below.le
      rw [ofJson, canonicalizeOperationRequest, canonicalEntries_ofJson canonical.2,
        Sorting.sortedBy_of_pairwise sorted, comprehension_eq_self canonical.1 fun entry member =>
          ((canonicalFields_iff fields).mp canonical.2 entry member).1]

theorem canonicalItems_ofJson : ∀ {items : List Json}, CanonicalItems items →
    canonicalItems (ofJsonItems items) = items
  | [], _ => rfl
  | item :: rest, canonical => by
      rw [ofJsonItems, canonicalItems, canonicalize_ofJson canonical.1,
        canonicalItems_ofJson canonical.2]

theorem canonicalEntries_ofJson : ∀ {fields : List (String × Json)}, CanonicalFields fields →
    canonicalEntries (ofJsonFields fields) = fields
  | [], _ => rfl
  | (key, value) :: rest, canonical => by
      rw [ofJsonFields, canonicalEntries, canonicalize_ofJson canonical.2.1,
        canonicalEntries_ofJson canonical.2.2, Key.text]

end

theorem canonicalFields_eq (fields : List (String × Json)) :
    Workflow.canonicalFields fields =
      (fields.map fun entry => (entry.1, Workflow.canonicalizeOperationRequest entry.2)).filter
        fun pair => decide (pair.1 ∉ volatileRequestKeys) := by
  induction fields with
  | nil => rfl
  | cons entry rest ih =>
      obtain ⟨key, value⟩ := entry
      rw [Workflow.canonicalFields, List.map_cons, List.filter_cons, ih]
      by_cases volatile : key ∈ volatileRequestKeys
      · rw [if_pos volatile, if_neg]
        simpa using volatile
      · rw [if_neg volatile, if_pos]
        simpa using volatile

mutual

/-- On JSON with distinct names it is the canonical form that the service hashes. -/
theorem canonicalize_ofJson_eq {float : String → Json} : ∀ {json : Json}, Plain float json →
    canonicalizeOperationRequest (ofJson json) = Workflow.canonicalizeOperationRequest json
  | .null, _ | .bool _, _ | .int _, _ | .float _ _, _ | .str _, _ => rfl
  | .arr items, plain => by
      rw [ofJson, canonicalizeOperationRequest, Workflow.canonicalizeOperationRequest,
        canonicalItems_ofJson_eq plain]
  | .obj fields, plain => by
      have distinct : (((fields.map fun entry =>
          (entry.1, Workflow.canonicalizeOperationRequest entry.2)).filter fun pair =>
            decide (pair.1 ∉ volatileRequestKeys)).map Prod.fst).Nodup := by
        refine (List.filter_sublist.map _).nodup ?_
        rw [List.map_map]
        exact plain.1
      rw [ofJson, canonicalizeOperationRequest, Workflow.canonicalizeOperationRequest,
        canonicalEntries_ofJson_eq plain.2, comprehension, Sorting.filter_sortedBy,
        Dict.entries_ofEntries, canonicalFields_eq]
      · rfl
      · exact ((Sorting.sortedBy_perm Prod.fst _).map Prod.fst).nodup_iff.mpr distinct

theorem canonicalItems_ofJson_eq {float : String → Json} : ∀ {items : List Json},
    PlainItems float items → canonicalItems (ofJsonItems items) = Workflow.canonicalItems items
  | [], _ => rfl
  | item :: rest, plain => by
      rw [ofJsonItems, canonicalItems, Workflow.canonicalItems, canonicalize_ofJson_eq plain.1,
        canonicalItems_ofJson_eq plain.2]

theorem canonicalEntries_ofJson_eq {float : String → Json} : ∀ {fields : List (String × Json)},
    PlainFields float fields → canonicalEntries (ofJsonFields fields) =
      fields.map fun entry => (entry.1, Workflow.canonicalizeOperationRequest entry.2)
  | [], _ => rfl
  | (key, value) :: rest, plain => by
      rw [ofJsonFields, canonicalEntries, canonicalize_ofJson_eq plain.1,
        canonicalEntries_ofJson_eq plain.2, List.map_cons, Key.text]

end

/-- One change at one place: the keys of a mapping in another order, or a volatile key more.
The keys of a mapping that is reordered differ as texts, as those of a JSON object do. -/
inductive Change : Value → Value → Prop
  | reorder {entries others : List (Key × Value)}
      (distinct : (entries.map fun entry => entry.1.text).Nodup) (perm : entries.Perm others) :
      Change (.map entries) (.map others)
  | volatile {before after : List (Key × Value)} {key : Key} (value : Value)
      (member : key.text ∈ volatileRequestKeys) :
      Change (.map (before ++ after)) (.map (before ++ (key, value) :: after))
  | underKey {before after : List (Key × Value)} {key : Key} {value other : Value}
      (change : Change value other) :
      Change (.map (before ++ (key, value) :: after)) (.map (before ++ (key, other) :: after))
  | inList {before after : List Value} {value other : Value} (change : Change value other) :
      Change (.list (before ++ value :: after)) (.list (before ++ other :: after))
  | inTuple {before after : List Value} {value other : Value} (change : Change value other) :
      Change (.tuple (before ++ value :: after)) (.tuple (before ++ other :: after))
  | inSet {before after : List Value} {value other : Value} (change : Change value other) :
      Change (.set (before ++ value :: after)) (.set (before ++ other :: after))

/-- Any number of such changes, in both directions: keys are reordered, and volatile keys
are added, removed and changed at any depth. -/
def Variant : Value → Value → Prop := Relation.EqvGen Change

theorem canonicalItems_congr {before after : List Value} {value other : Value}
    (same : canonicalizeOperationRequest value = canonicalizeOperationRequest other) :
    canonicalItems (before ++ value :: after) = canonicalItems (before ++ other :: after) := by
  simp only [canonicalItems_eq, List.map_append, List.map_cons, same]

theorem canonicalize_change {first second : Value} (change : Change first second) :
    canonicalizeOperationRequest first = canonicalizeOperationRequest second := by
  induction change with
  | @reorder entries others distinct perm =>
      have texts : ((canonicalEntries entries).map Prod.fst).Nodup := by
        rw [canonicalEntries_eq, List.map_map]
        exact distinct
      have pairs : (canonicalEntries entries).Perm (canonicalEntries others) := by
        rw [canonicalEntries_eq, canonicalEntries_eq]
        exact perm.map _
      rw [canonicalizeOperationRequest, canonicalizeOperationRequest,
        Sorting.sortedBy_eq_of_perm pairs texts]
  | @volatile before after key value member =>
      have dropped : decide (key.text ∉ volatileRequestKeys) = false :=
        decide_eq_false (not_not_intro member)
      rw [canonicalizeOperationRequest, canonicalizeOperationRequest, comprehension, comprehension,
        Sorting.filter_sortedBy, Sorting.filter_sortedBy]
      simp only [canonicalEntries_eq, List.map_append, List.map_cons, List.filter_append,
        List.filter_cons, dropped, Bool.false_eq_true, if_false]
  | underKey change ih =>
      simp only [canonicalizeOperationRequest, canonicalEntries_eq, List.map_append, List.map_cons,
        ih]
  | inList change ih =>
      rw [canonicalizeOperationRequest, canonicalizeOperationRequest, canonicalItems_congr ih]
  | inTuple change ih =>
      rw [canonicalizeOperationRequest, canonicalizeOperationRequest, canonicalItems_congr ih]
  | inSet change ih =>
      rw [canonicalizeOperationRequest, canonicalizeOperationRequest, canonicalItems_congr ih]

theorem canonicalize_variant {first second : Value} (variant : Variant first second) :
    canonicalizeOperationRequest first = canonicalizeOperationRequest second := by
  induction variant with
  | rel first second change => exact canonicalize_change change
  | refl value => rfl
  | symm first second _ ih => exact ih.symm
  | trans first second third _ _ ih ihNext => exact ih.trans ihNext

section Hashes

variable (float : String → Json)

mutual

/-- The floats are read back from the texts that are printed for them. -/
def FloatsRead : Value → Prop
  | .float value repr => ReadsBack float value repr
  | .list items => FloatsReadItems items
  | .tuple items => FloatsReadItems items
  | .set items => FloatsReadItems items
  | .map entries => FloatsReadEntries entries
  | _ => True

def FloatsReadItems : List Value → Prop
  | [] => True
  | item :: rest => FloatsRead item ∧ FloatsReadItems rest

def FloatsReadEntries : List (Key × Value) → Prop
  | [] => True
  | (_, value) :: rest => FloatsRead value ∧ FloatsReadEntries rest

end

mutual

theorem canonicalize_plain : ∀ {value : Value}, FloatsRead float value →
    Plain float (canonicalizeOperationRequest value)
  | .null, _ | .bool _, _ | .int _, _ | .str _, _ => trivial
  | .float _ _, read => read
  | .list _, read => (JsonText.plainItems_iff float _).mpr (canonicalItems_plain read)
  | .tuple _, read => (JsonText.plainItems_iff float _).mpr (canonicalItems_plain read)
  | .set _, read => (JsonText.plainItems_iff float _).mpr fun item member =>
      canonicalItems_plain read item ((Sorting.mem_sortedBy _ _ _).mp member)
  | .map entries, read => by
      have ascending := (canonicalize_canonical (.map entries)).1
      refine ⟨nodup_of_ascending ascending, ?_⟩
      refine (JsonText.plainFields_iff float _).mpr fun entry member => ?_
      exact canonicalEntries_plain read entry
        ((Sorting.mem_sortedBy _ _ _).mp (mem_comprehension member).1)

theorem canonicalItems_plain : ∀ {items : List Value}, FloatsReadItems float items →
    ∀ item ∈ canonicalItems items, Plain float item
  | [], _, _, member => absurd member List.not_mem_nil
  | _ :: _, read, item, member => by
      rcases List.mem_cons.mp member with rfl | later
      · exact canonicalize_plain read.1
      · exact canonicalItems_plain read.2 item later

theorem canonicalEntries_plain : ∀ {entries : List (Key × Value)},
    FloatsReadEntries float entries → ∀ pair ∈ canonicalEntries entries, Plain float pair.2
  | [], _, _, member => absurd member List.not_mem_nil
  | (_, _) :: _, read, pair, member => by
      rcases List.mem_cons.mp member with rfl | later
      · exact canonicalize_plain read.1
      · exact canonicalEntries_plain read.2 pair later

end

end Hashes

mutual

theorem ordered_of_canonical : ∀ {form : Json}, Canonical form → Ordered form
  | .null, _ | .bool _, _ | .int _, _ | .float _ _, _ | .str _, _ => trivial
  | .arr _, canonical => orderedItems_of_canonical canonical
  | .obj _, canonical => ⟨canonical.1, orderedFields_of_canonical canonical.2⟩

theorem orderedItems_of_canonical : ∀ {items : List Json}, CanonicalItems items →
    OrderedItems items
  | [], _ => trivial
  | _ :: _, canonical =>
      ⟨ordered_of_canonical canonical.1, orderedItems_of_canonical canonical.2⟩

theorem orderedFields_of_canonical : ∀ {fields : List (String × Json)}, CanonicalFields fields →
    OrderedFields fields
  | [], _ => trivial
  | (_, _) :: _, canonical =>
      ⟨ordered_of_canonical canonical.2.1, orderedFields_of_canonical canonical.2.2⟩

end

/-- What is hashed: the canonical form under its version. -/
def normalized (request : List (Key × Value)) : Json :=
  .obj [("canonicalization_version", .str operationCanonicalization),
    ("request", canonicalizeOperationRequest (.map request))]

theorem normalized_ordered (request : List (Key × Value)) : Ordered (normalized request) := by
  refine ⟨?_, trivial, ordered_of_canonical (canonicalize_canonical _), trivial⟩
  refine List.pairwise_cons.mpr ⟨fun entry member => ?_, List.pairwise_singleton _ _⟩
  rw [List.mem_singleton.mp member]
  exact (by decide : "canonicalization_version" < "request")

theorem normalized_plain {float : String → Json} {request : List (Key × Value)}
    (read : FloatsReadEntries float request) : Plain float (normalized request) := by
  refine ⟨nodup_of_ascending (normalized_ordered request).1, trivial, ?_, trivial⟩
  exact @canonicalize_plain float (.map request) read

/-- Requests with one text to be hashed have one canonical form. -/
theorem canonicalize_eq_of_text {float : String → Json} {first second : List (Key × Value)}
    (read : FloatsReadEntries float first) (readSecond : FloatsReadEntries float second)
    (same : JsonText.dumps (normalized first) = JsonText.dumps (normalized second)) :
    canonicalizeOperationRequest (.map first) = canonicalizeOperationRequest (.map second) := by
  rw [JsonText.dumps_of_ordered (normalized_ordered first),
    JsonText.dumps_of_ordered (normalized_ordered second)] at same
  have whole := JsonText.gapped_injective float JsonText.gap_nil (normalized_plain read)
    (normalized_plain readSecond) same
  have members := List.cons.inj (List.cons.inj (Json.obj.inj whole)).2
  exact (Prod.mk.inj members.1).2

/-- A canonical form is canonical; the hash does not see the order of keys and what stands
under volatile keys; and it tells requests with different canonical forms apart, if the
digest tells texts apart. -/
theorem request_identity (float : String → Json) (sha256 : List Char → String) :
    (∀ value, canonicalizeOperationRequest (ofJson (canonicalizeOperationRequest value)) =
        canonicalizeOperationRequest value) ∧
      (∀ first second, Variant (.map first) (.map second) →
        operationRequestHash sha256 first = operationRequestHash sha256 second) ∧
      (Function.Injective sha256 → ∀ first second, FloatsReadEntries float first →
        FloatsReadEntries float second →
          operationRequestHash sha256 first = operationRequestHash sha256 second →
            canonicalizeOperationRequest (.map first) =
              canonicalizeOperationRequest (.map second)) := by
  refine ⟨fun value => canonicalize_ofJson (canonicalize_canonical value), ?_, ?_⟩
  · intro first second variant
    rw [operationRequestHash, canonicalize_variant variant, operationRequestHash]
  · intro injective first second read readSecond same
    exact canonicalize_eq_of_text read readSecond (injective same)

/-- A call with a time and an event among its arguments. -/
def stampedCall : List (Key × Value) :=
  [(.str "kind", .str "call"), (.str "ts", .str "2026-07-03T10:00:00+00:00"),
    (.str "args", .tuple [.int 1, .map [(.str "path", .str "a.py"), (.str "lines", .int 3),
      (.str "event_id", .str "evt-1")]]),
    (.str "tags", .set [.str "y", .str "x"])]

/-- The same call in another order, without them. -/
def bareCall : List (Key × Value) :=
  [(.str "tags", .set [.str "y", .str "x"]),
    (.str "args", .tuple [.int 1, .map [(.str "lines", .int 3), (.str "path", .str "a.py")]]),
    (.str "kind", .str "call")]

def callHash : String := "f2e0de2c03f86b42bf7f65373ce93ab1fde6f46251fecbfa8c501244b61521b1"

def callText : String :=
  "\x7b\"canonicalization_version\":\"workflow-operation-request.v1\",\"request\":" ++
    "\x7b\"args\":[1,\x7b\"lines\":3,\"path\":\"a.py\"\x7d],\"kind\":\"call\",\"tags\":[\"x\",\"y\"]\x7d\x7d"

def callDigest (text : List Char) : String :=
  Digest.tableDigest [(callText, callHash)] (String.ofList text)

theorem calls_variant : Variant (.map stampedCall) (.map bareCall) := by
  have later : Change (.map [(.str "path", .str "a.py"), (.str "lines", .int 3)])
      (.map [(.str "path", .str "a.py"), (.str "lines", .int 3), (.str "event_id", .str "evt-1")]) :=
    @Change.volatile [(.str "path", .str "a.py"), (.str "lines", .int 3)] [] (.str "event_id") _
      (by decide)
  have swapped : Change (.map [(.str "path", .str "a.py"), (.str "lines", .int 3)])
      (.map [(.str "lines", .int 3), (.str "path", .str "a.py")]) :=
    .reorder (by decide) (List.Perm.swap _ _ _)
  have timed := @Change.volatile [(.str "kind", .str "call")]
    [(.str "args", .tuple [.int 1, .map [(.str "path", .str "a.py"), (.str "lines", .int 3),
      (.str "event_id", .str "evt-1")]]), (.str "tags", .set [.str "y", .str "x"])]
    (.str "ts") (.str "2026-07-03T10:00:00+00:00") (by decide)
  refine .trans _ _ _ (.symm _ _ (.rel _ _ timed)) ?_
  refine .trans _ _ _ (.symm _ _ (.rel _ _ (@Change.underKey [(.str "kind", .str "call")] _
    (.str "args") _ _ (@Change.inTuple [.int 1] [] _ _ later)))) ?_
  refine .trans _ _ _ (.rel _ _ (@Change.underKey [(.str "kind", .str "call")] _
    (.str "args") _ _ (@Change.inTuple [.int 1] [] _ _ swapped))) ?_
  exact .rel _ _ (.reorder (by decide) (List.reverse_perm _).symm)

theorem callDigest_injective : Function.Injective callDigest := by
  intro first second same
  have lawful : Digest.Table [(callText, callHash)] := by
    refine ⟨List.nodup_singleton _, ?_, ?_⟩
    · intro entry member
      rw [List.mem_singleton.mp member]
      decide
    · intro entry member
      rw [List.mem_singleton.mp member]
      decide
  exact String.ofList_injective (Digest.tableDigest_injective lawful same)

/-- The two calls have one hash and one canonical form. -/
theorem calls_identity :
    Variant (.map stampedCall) (.map bareCall) ∧ Function.Injective callDigest ∧
      JsonText.dumps (normalized bareCall) = callText.toList ∧
      operationRequestHash callDigest bareCall = callHash ∧
      operationRequestHash callDigest stampedCall = operationRequestHash callDigest bareCall ∧
      canonicalizeOperationRequest (.map stampedCall) =
        canonicalizeOperationRequest (.map bareCall) := by
  have floats : FloatsReadEntries (fun _ => .null) stampedCall ∧
      FloatsReadEntries (fun _ => .null) bareCall := by
    simp [FloatsReadEntries, FloatsRead, FloatsReadItems, stampedCall, bareCall]
  obtain ⟨_, blind, exact'⟩ := request_identity (fun _ => .null) callDigest
  have same := blind stampedCall bareCall calls_variant
  have text : JsonText.dumps (normalized bareCall) = callText.toList := by decide +kernel
  refine ⟨calls_variant, callDigest_injective, text, ?_, same, ?_⟩
  · change callDigest (JsonText.dumps (normalized bareCall)) = _
    rw [text, callDigest, String.ofList_toList]
    simp [Digest.tableDigest]
  · exact exact' callDigest_injective stampedCall bareCall floats.1 floats.2 same

end ZaofuFormal.Workflow.OperationRequests
