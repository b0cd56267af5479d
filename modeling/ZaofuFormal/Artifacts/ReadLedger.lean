import ZaofuFormal.Foundation.Fallible
import ZaofuFormal.Foundation.JsonText
import ZaofuFormal.Foundation.Runs

/-!
# Read ledgers

Every controlled read of an attempt appends a row to the attempt's active
ledger, a file of one JSON object per line.  Sealing gathers the rows of all
earlier fragments and of the active ledger, drops repetitions, sorts what is
left and writes it under the name of its digest.  The attempts share a
directory tree through a sanitised form of their ids.
-/

namespace ZaofuFormal.Artifacts.ReadLedger

open Foundation Foundation.JsonText

def artifactReadSchema : String := "artifact-read.v1"

abbrev Row := Dict String Scalar

namespace Row

def json (row : Row) : Json := record row.entries

/-- The row as it is read back, with its keys in order. -/
def canonical (row : Row) : Json := record (Sorting.sortedBy Prod.fst row.entries)

/-- The attempt that a row names. -/
def attemptId (row : Row) : String := row.json.textAt "attempt_id"

end Row

def newline : Char := Char.ofNat 10

def isComponentChar (char : Char) : Bool :=
  char.isAlphanum || char == '.' || char == '_' || char == '-'

/-- Replace every run of other characters by one dash. -/
def dashRuns : Bool → List Char → List Char
  | _, [] => []
  | inRun, char :: rest =>
      if isComponentChar char then char :: dashRuns false rest
      else if inRun then dashRuns true rest
      else '-' :: dashRuns true rest

def isEdge (char : Char) : Bool := char == '-' || char == '.' || char == '_'

def trimEdges (chars : List Char) : List Char :=
  ((chars.dropWhile isEdge).reverse.dropWhile isEdge).reverse

/-- `_safe_component`. -/
def safeComponent (value : String) : String :=
  let chars := trimEdges (dashRuns false value.toList)
  if chars = [] then "attempt" else String.ofList chars

/-- What the ledger takes from its host: the digest of a text and the value of a number
with a fraction or an exponent. -/
structure Host where
  sha256 : List Char → String
  float : String → Json

variable (host : Host)

def parseLines (expectedAttemptId : String) : Nat → List (List Char) → Except String (List Json)
  | _, [] => .ok []
  | index, line :: rest =>
      if PyString.stripChars line = [] then parseLines expectedAttemptId (index + 1) rest
      else
        match loads host.float line with
        | none => .error s!"invalid read ledger line {index}"
        | some row =>
            if row.isObject = false ∨ row.get "schema_version" ≠ .str artifactReadSchema then
              .error s!"invalid read ledger row {index}"
            else if expectedAttemptId ≠ "" ∧ row.textAt "attempt_id" ≠ expectedAttemptId then
              .error s!"attempt identity mismatch on ledger line {index}"
            else (parseLines expectedAttemptId (index + 1) rest).map (row :: ·)

/-- `_parse_ledger`. -/
def parseLedger (raw : List Char) (expectedAttemptId : String) : Except String (List Json) :=
  parseLines host expectedAttemptId 1 (PyString.splitlines raw)

/-- The ledger files of one sanitised attempt id; a sealed fragment is named by the
start of its digest. -/
structure Directory where
  active : Option (List Char)
  fragments : Dict String (List Char)

namespace Directory

def empty : Directory := ⟨none, ∅⟩

/-- The texts in the order in which sealing reads them. -/
def texts (directory : Directory) : List (List Char) :=
  (Sorting.sortedBy Prod.fst directory.fragments.entries).map Prod.snd ++ directory.active.toList

end Directory

abbrev Files := String → Directory

def line (row : Json) : List Char := dumps row ++ [newline]

/-- `append_artifact_read`. -/
def appendArtifactRead (row : Row) (files : Files) : Except String Files :=
  let attemptId := PyString.strip row.attemptId
  if attemptId = "" then .error "artifact read row requires attempt_id"
  else
    let directory := files (safeComponent attemptId)
    .ok (Function.update files (safeComponent attemptId)
      { directory with active := some (directory.active.getD [] ++ line row.json) })

/-- The rows under their texts; the first row of a text stays. -/
def rowsByBody (rows : List Json) : Dict String Json :=
  rows.foldl (fun known row =>
    if known.contains (String.ofList (dumps row)) then known
    else known.insert (String.ofList (dumps row)) row) ∅

def ordered (rows : List Json) : List (String × Json) :=
  Sorting.sortedBy (fun entry => toLex (entry.2.textAt "read_at", entry.1))
    (rowsByBody rows).entries

/-- The text of a sealed ledger. -/
def sealedText (rows : List Json) : List Char :=
  (ordered rows).flatMap fun entry => entry.1.toList ++ [newline]

/-- A reference to a sealed ledger: its directory and name, digest and size. -/
structure Descriptor where
  component : String
  name : String
  sha256 : String
  byteCount : Nat
deriving DecidableEq

/-- The number of bytes of a text in UTF-8. -/
def byteCount (text : List Char) : Nat := (text.map Char.utf8Size).sum

def fragmentName (digest : String) : String := String.ofList (digest.toList.take 16)

/-- `seal_read_ledger`. -/
def sealReadLedger (attemptId : String) (files : Files) : Except String (Files × Descriptor) :=
  let component := safeComponent attemptId
  let directory := files component
  if directory.active.isNone ∧ directory.fragments.entries = [] then
    .error s!"active read ledger missing for {attemptId}"
  else do
    let parsed ← directory.texts.mapM fun text => parseLedger host text attemptId
    let raw := sealedText parsed.flatten
    let digest := host.sha256 raw
    let name := fragmentName digest
    if directory.fragments.contains name ∧ directory.fragments.get? name ≠ some raw then
      .error "sealed read ledger collision"
    else
      .ok (Function.update files component ⟨none, directory.fragments.insert name raw⟩,
        ⟨component, name, digest, byteCount raw⟩)

/-- A file with one line for each row. -/
def ledgerText (rows : List Row) : List Char := rows.flatMap fun row => line row.json

/-- No line break stands inside the row's line. -/
def Unbroken (row : Row) : Prop := ∀ char ∈ dumps row.json, PyString.isLineBreak char = false

/-- The parser accepts the decoded row. -/
def Readable (expectedAttemptId : String) (row : Row) : Prop :=
  row.json.get "schema_version" = .str artifactReadSchema ∧
    (expectedAttemptId = "" ∨ row.attemptId = expectedAttemptId)

namespace Row

theorem dumps_canonical (row : Row) : dumps row.canonical = dumps row.json := by
  rw [canonical, json, dumps_record, dumps_record, Sorting.sortedBy_sortedBy]

theorem get_json (row : Row) (key : String) :
    row.json.get key = ((row.get? key).map Scalar.toJson).getD .null := by
  have found : Dict.find key (row.entries.map fun entry => (entry.1, entry.2.toJson)) =
      (Dict.find key row.entries).map Scalar.toJson :=
    Dict.find_map (fun _ => Scalar.toJson) key row.entries
  exact congrArg (Option.getD · Json.null) found

theorem get_canonical (row : Row) (key : String) : row.canonical.get key = row.json.get key := by
  rw [get_json, ← Dict.get?_sortKeys]
  exact get_json row.sortKeys key

theorem textAt_canonical (row : Row) (key : String) :
    row.canonical.textAt key = row.json.textAt key := by
  rw [Json.textAt, Json.textAt, get_canonical]

theorem loads_dumps (float : String → Json) (row : Row) :
    loads float (dumps row.json) = some row.canonical :=
  loads_dumps_record float row.nodupKeys

/-- Rows with one text are one row. -/
theorem canonical_eq_iff {first second : Row} :
    first.canonical = second.canonical ↔ dumps first.json = dumps second.json := by
  constructor
  · intro same
    rw [← dumps_canonical, same, dumps_canonical]
  · intro same
    have decoded := loads_dumps (fun _ => .null) first
    rw [same, loads_dumps] at decoded
    exact (Option.some.inj decoded).symm

theorem dumps_head (row : Row) : ∃ rest, dumps row.json = openBrace :: rest :=
  ⟨_, dumps_record row.entries⟩

end Row

theorem isLineBreak_newline : PyString.isLineBreak newline = true := by decide

theorem splitlines_line {row : Row} (unbroken : Unbroken row) (rest : List Char) :
    PyString.splitlines (line row.json ++ rest) =
      dumps row.json :: PyString.splitlines rest := by
  rw [line, List.append_assoc, PyString.splitlines]
  exact PyString.splitlinesFrom_line [] unbroken isLineBreak_newline rest

/-- A line break inside a row cuts its line short. -/
theorem splitlines_broken {row : Row} (broken : ¬Unbroken row) (rest : List Char) :
    ∃ initial cut lines, dumps row.json = openBrace :: initial ++ cut ∧ cut ≠ [] ∧
      PyString.splitlines (line row.json ++ rest) = (openBrace :: initial) :: lines := by
  have stops : ((dumps row.json).find? PyString.isLineBreak).isSome = true := by
    rw [List.find?_isSome]
    by_contra none
    apply broken
    intro char member
    by_contra breaks
    exact none ⟨char, member, by simpa using breaks⟩
  obtain ⟨stop, found⟩ := Option.isSome_iff_exists.mp stops
  obtain ⟨breaks, before, after, shape, clean⟩ := List.find?_eq_some_iff_append.mp found
  obtain ⟨text, head⟩ := row.dumps_head
  cases before with
  | nil =>
      rw [head, List.nil_append] at shape
      rw [← (List.cons.inj shape).1] at breaks
      exact absurd breaks (by decide)
  | cons first initial =>
      have brace : first = openBrace := by
        rw [head] at shape
        exact (List.cons.inj shape).1.symm
      subst brace
      have split := @PyString.splitlinesFrom_line [] (openBrace :: initial) stop
        (fun char member => by simpa using clean char member) breaks (after ++ [newline] ++ rest)
      refine ⟨initial, stop :: after, _, shape, List.cons_ne_nil _ _, Eq.trans ?_ split⟩
      rw [line, shape, PyString.splitlines]
      simp only [List.append_assoc, List.cons_append]

theorem stripChars_ne_nil (rest : List Char) : PyString.stripChars (openBrace :: rest) ≠ [] := by
  intro empty
  rw [PyString.stripChars, List.reverse_eq_nil_iff, List.dropWhile_eq_nil_iff] at empty
  have solid : PyString.isSpace openBrace = false := by decide
  rw [List.dropWhile_cons_of_neg (by rw [solid]; decide)] at empty
  rw [empty openBrace (by simp)] at solid
  cases solid

theorem parseLines_cons_row {expectedAttemptId : String} {index : Nat} {row : Row}
    (rest : List (List Char)) (out : List Json) :
    parseLines host expectedAttemptId index (dumps row.json :: rest) = .ok out ↔
      Readable expectedAttemptId row ∧ ∃ later,
        parseLines host expectedAttemptId (index + 1) rest = .ok later ∧
          out = row.canonical :: later := by
  obtain ⟨text, head⟩ := row.dumps_head
  have nonblank : PyString.stripChars (dumps row.json) ≠ [] := by
    rw [head]
    exact stripChars_ne_nil text
  have object : row.canonical.isObject = true := rfl
  rw [parseLines, if_neg nonblank, row.loads_dumps]
  dsimp only
  rw [object, row.get_canonical, row.textAt_canonical]
  by_cases schema : row.json.get "schema_version" = .str artifactReadSchema
  · rw [if_neg (by simp [schema])]
    by_cases identity : expectedAttemptId = "" ∨ row.attemptId = expectedAttemptId
    · rw [if_neg (by rw [not_and_or, not_not, not_not]; exact identity)]
      cases later : parseLines host expectedAttemptId (index + 1) rest with
      | error message =>
          constructor
          · intro impossible
            cases impossible
          · rintro ⟨_, _, impossible, _⟩
            cases impossible
      | ok rows =>
          constructor
          · intro same
            exact ⟨⟨schema, identity⟩, rows, rfl, (Except.ok.inj same).symm⟩
          · rintro ⟨_, others, same, rfl⟩
            cases same
            rfl
    · rw [if_pos (by rw [← not_not (a := _ ∧ _), not_and_or, not_not, not_not]; exact identity)]
      constructor
      · intro impossible
        cases impossible
      · intro accepted
        exact absurd accepted.1.2 identity
  · rw [if_pos (Or.inr schema)]
    constructor
    · intro impossible
      cases impossible
    · intro accepted
      exact absurd accepted.1.1 schema

/-- A ledger is accepted when each of its rows is, and then gives back these rows. -/
theorem parseLines_ledgerText (expectedAttemptId : String) (rows : List Row) (index : Nat)
    (out : List Json) :
    parseLines host expectedAttemptId index (PyString.splitlines (ledgerText rows)) = .ok out ↔
      (∀ row ∈ rows, Unbroken row ∧ Readable expectedAttemptId row) ∧
        out = rows.map Row.canonical := by
  induction rows generalizing index out with
  | nil =>
      constructor
      · intro same
        exact ⟨fun _ member => absurd member List.not_mem_nil, (Except.ok.inj same).symm⟩
      · rintro ⟨_, rfl⟩
        rfl
  | cons row rest ih =>
      change parseLines host expectedAttemptId index
        (PyString.splitlines (line row.json ++ ledgerText rest)) = .ok out ↔ _
      by_cases unbroken : Unbroken row
      · rw [splitlines_line unbroken, parseLines_cons_row]
        simp only [ih, List.forall_mem_cons, List.map_cons, unbroken, true_and]
        constructor
        · rintro ⟨readable, _, ⟨all, rfl⟩, rfl⟩
          exact ⟨⟨readable, all⟩, rfl⟩
        · rintro ⟨⟨readable, all⟩, rfl⟩
          exact ⟨readable, _, ⟨all, rfl⟩, rfl⟩
      · obtain ⟨initial, cut, lines, shape, proper, split⟩ :=
          splitlines_broken unbroken (ledgerText rest)
        have undecoded := loads_initial host.float row.nodupKeys shape (List.cons_ne_nil _ _) proper
        rw [split, parseLines, if_neg (stripChars_ne_nil initial), undecoded]
        constructor
        · intro impossible
          cases impossible
        · intro accepted
          exact absurd (accepted.1 row List.mem_cons_self).1 unbroken

theorem parseLedger_ledgerText (expectedAttemptId : String) (rows : List Row) (out : List Json) :
    parseLedger host (ledgerText rows) expectedAttemptId = .ok out ↔
      (∀ row ∈ rows, Unbroken row ∧ Readable expectedAttemptId row) ∧
        out = rows.map Row.canonical :=
  parseLines_ledgerText host expectedAttemptId rows 1 out

theorem get?_rowsByBody (rows : List Json) (body : String) :
    (rowsByBody rows).get? body =
      rows.find? fun row => decide (String.ofList (dumps row) = body) := by
  have general : ∀ known : Dict String Json,
      (rows.foldl (fun known row =>
        if known.contains (String.ofList (dumps row)) then known
        else known.insert (String.ofList (dumps row)) row) known).get? body =
        (known.get? body).or (rows.find? fun row => decide (String.ofList (dumps row) = body)) := by
    induction rows with
    | nil => simp
    | cons row rest ih =>
        intro known
        rw [List.foldl_cons, ih]
        by_cases here : String.ofList (dumps row) = body
        · rw [List.find?_cons_of_pos (by simpa using here), here]
          by_cases present : known.contains body = true
          · obtain ⟨value, found⟩ := Option.isSome_iff_exists.mp present
            rw [if_pos present, found]
            rfl
          · have absent : known.get? body = none := by
              rw [Dict.contains, Option.not_isSome_iff_eq_none] at present
              exact present
            rw [if_neg present, Dict.get?_insert_self, absent]
            rfl
        · rw [List.find?_cons_of_neg (by simpa using here)]
          split
          · rfl
          · rw [Dict.get?_insert_ne _ _ (Ne.symm here)]
  exact general ∅

/-- A row under its text, as sealing orders it. -/
def entryOf (row : Row) : String × Json := (String.ofList (dumps row.json), row.canonical)

theorem mem_entries_rowsByBody (rows : List Row) (entry : String × Json) :
    entry ∈ (rowsByBody (rows.map Row.canonical)).entries ↔
      ∃ row ∈ rows, entryOf row = entry := by
  have keyed := Dict.get?_eq_some_iff (rowsByBody (rows.map Row.canonical)) entry.1 entry.2
  rw [← keyed, get?_rowsByBody]
  constructor
  · intro found
    obtain ⟨row, present, canonical⟩ := List.mem_map.mp (List.mem_of_find?_eq_some found)
    have body := List.find?_some found
    rw [← canonical, row.dumps_canonical] at body
    exact ⟨row, present, Prod.ext (of_decide_eq_true body) canonical⟩
  · rintro ⟨row, present, rfl⟩
    have some : ((rows.map Row.canonical).find? fun other =>
        decide (String.ofList (dumps other) = (entryOf row).1)).isSome = true := by
      rw [List.find?_isSome]
      refine ⟨row.canonical, List.mem_map_of_mem present, ?_⟩
      simp [entryOf, row.dumps_canonical]
    obtain ⟨other, found⟩ := Option.isSome_iff_exists.mp some
    obtain ⟨first, _, rfl⟩ := List.mem_map.mp (List.mem_of_find?_eq_some found)
    have body := List.find?_some found
    rw [first.dumps_canonical, decide_eq_true_eq] at body
    rw [found]
    exact congrArg Option.some (Row.canonical_eq_iff.mpr (String.ofList_injective body))

theorem mem_ordered (rows : List Row) (entry : String × Json) :
    entry ∈ ordered (rows.map Row.canonical) ↔ ∃ row ∈ rows, entryOf row = entry := by
  rw [ordered, Sorting.mem_sortedBy, mem_entries_rowsByBody]

theorem ordered_keys_nodup (rows : List Json) : ((ordered rows).map Prod.fst).Nodup :=
  ((Sorting.sortedBy_perm _ _).map Prod.fst).nodup_iff.mpr (rowsByBody rows).nodupKeys

theorem ledgerText_eq (rows : List Row) :
    ledgerText rows = (rows.map entryOf).flatMap fun entry => entry.1.toList ++ [newline] := by
  rw [List.flatMap_map]
  simp only [ledgerText, entryOf, line, String.toList_ofList]

/-- The sealed text lists each row once. -/
theorem sealedText_eq (rows : List Row) :
    ∃ kept : List Row, (∀ row ∈ kept, row ∈ rows) ∧
      sealedText (rows.map Row.canonical) = ledgerText kept ∧
      (kept.map Row.canonical).Nodup ∧
      ∀ row ∈ rows, row.canonical ∈ kept.map Row.canonical := by
  obtain ⟨kept, among, images⟩ := Lists.exists_map_of_forall_mem fun entry member =>
    (mem_ordered rows entry).mp member
  refine ⟨kept, among, ?_, ?_, ?_⟩
  · rw [ledgerText_eq, images, sealedText]
  · have distinct := ordered_keys_nodup (rows.map Row.canonical)
    rw [← images, List.map_map] at distinct
    rw [List.nodup_iff_pairwise_ne, List.pairwise_map] at distinct ⊢
    refine distinct.imp fun different same => different ?_
    exact congrArg String.ofList (Row.canonical_eq_iff.mp same)
  · intro row present
    have listed := (mem_ordered rows (entryOf row)).mpr ⟨row, present, rfl⟩
    rw [← images] at listed
    obtain ⟨other, member, same⟩ := List.mem_map.mp listed
    exact List.mem_map.mpr ⟨other, member, congrArg Prod.snd same⟩

/-- The sealed text depends on the set of rows alone. -/
theorem sealedText_congr {first second : List Row}
    (same : ∀ row, row ∈ first.map Row.canonical ↔ row ∈ second.map Row.canonical) :
    sealedText (first.map Row.canonical) = sealedText (second.map Row.canonical) := by
  have listed : ∀ {one other : List Row},
      (∀ row, row ∈ one.map Row.canonical → row ∈ other.map Row.canonical) →
        ∀ entry, (∃ row ∈ one, entryOf row = entry) → ∃ row ∈ other, entryOf row = entry := by
    rintro one other sub entry ⟨row, member, rfl⟩
    obtain ⟨twin, present, canonical⟩ :=
      List.mem_map.mp (sub row.canonical (List.mem_map_of_mem member))
    refine ⟨twin, present, Prod.ext ?_ canonical⟩
    exact congrArg String.ofList (Row.canonical_eq_iff.mp canonical)
  have perm : (rowsByBody (first.map Row.canonical)).entries.Perm
      (rowsByBody (second.map Row.canonical)).entries := by
    rw [List.perm_ext_iff_of_nodup (rowsByBody _).nodupKeys.of_map (rowsByBody _).nodupKeys.of_map]
    intro entry
    rw [mem_entries_rowsByBody, mem_entries_rowsByBody]
    exact ⟨listed (fun row => (same row).mp) entry, listed (fun row => (same row).mpr) entry⟩
  have keys : ((rowsByBody (first.map Row.canonical)).entries.map fun entry =>
      toLex (entry.2.textAt "read_at", entry.1)).Nodup := by
    have distinct := (rowsByBody (first.map Row.canonical)).nodupKeys
    rw [List.nodup_iff_pairwise_ne, List.pairwise_map] at distinct ⊢
    refine distinct.imp fun different equal => different ?_
    exact congrArg (fun pair => (ofLex pair).2) equal
  rw [sealedText, sealedText, ordered, ordered, Sorting.sortedBy_eq_of_perm perm keys]

/-- The line breaks that the serializer leaves in a text. -/
def rawBreak (char : Char) : Bool :=
  char.toNat == 0x85 || char.toNat == 0x2028 || char.toNat == 0x2029

/-- No name and no textual value of the row contains such a line break. -/
def Printable (row : Row) : Prop :=
  ∀ entry ∈ row.entries, (∀ char ∈ entry.1.toList, rawBreak char = false) ∧
    ∀ text, entry.2 = .str text → ∀ char ∈ text.toList, rawBreak char = false

def cleanScalar : Scalar → Bool
  | .str text => text.toList.all fun char => !rawBreak char
  | _ => true

instance (row : Row) : Decidable (Printable row) :=
  decidable_of_iff ((row.entries.all fun entry =>
      (entry.1.toList.all fun char => !rawBreak char) && cleanScalar entry.2) = true) <| by
    simp only [List.all_eq_true, Bool.and_eq_true, Bool.not_eq_true', Printable]
    refine forall₂_congr fun entry _ => and_congr Iff.rfl ?_
    cases entry.2 <;> simp [cleanScalar]

theorem isLineBreak_of_printable {char : Char} (printable : ¬char.toNat < 32)
    (clean : rawBreak char = false) : PyString.isLineBreak char = false := by
  simp only [rawBreak, Bool.or_eq_false_iff, beq_eq_false_iff_ne] at clean
  simp only [PyString.isLineBreak, Bool.or_eq_false_iff, Bool.and_eq_false_iff,
    decide_eq_false_iff_not, beq_eq_false_iff_ne]
  omega

theorem isLineBreak_hexDigit :
    ∀ digit < 16, PyString.isLineBreak (Json.hexDigit digit) = false := by
  decide

theorem unbroken_escape {char : Char} (clean : rawBreak char = false) :
    ∀ written ∈ escape char, PyString.isLineBreak written = false := by
  intro written member
  unfold escape at member
  split at member
  · rename_i letter short
    have letters : PyString.isLineBreak letter = false := by
      unfold shortEscape? at short
      repeat' split at short
      all_goals first
        | (rename_i itself
           rw [← Option.some.inj short]
           rcases itself with rfl | rfl
           · decide
           · decide)
        | (rw [← Option.some.inj short]; decide)
        | cases short
    rcases List.mem_cons.mp member with rfl | last
    · decide
    · rw [List.mem_singleton.mp last]
      exact letters
  · split at member
    · rename_i control
      simp only [List.mem_cons, List.not_mem_nil, or_false] at member
      rcases member with rfl | rfl | rfl | rfl | rfl | rfl
      · decide
      · decide
      · decide
      · decide
      · exact isLineBreak_hexDigit _ (by omega)
      · exact isLineBreak_hexDigit _ (by omega)
    · rename_i printable
      rw [List.mem_singleton.mp member]
      exact isLineBreak_of_printable printable clean

theorem unbroken_quoted {text : String} (clean : ∀ char ∈ text.toList, rawBreak char = false) :
    ∀ written ∈ quoted text, PyString.isLineBreak written = false := by
  intro written member
  rcases List.mem_cons.mp member with rfl | inside
  · decide
  · rcases List.mem_append.mp inside with body | closing
    · obtain ⟨char, present, escaped⟩ := List.mem_flatMap.mp body
      exact unbroken_escape (clean char present) written escaped
    · rw [List.mem_singleton.mp closing]
      decide

theorem unbroken_toDigits (value : Nat) :
    ∀ written ∈ Nat.toDigits 10 value, PyString.isLineBreak written = false := by
  intro written member
  have digit := Nat.isDigit_of_mem_toDigits (by decide) (by decide) member
  simp only [Char.isDigit, Bool.and_eq_true, decide_eq_true_eq] at digit
  have low : 48 ≤ written.toNat := digit.1
  have high : written.toNat ≤ 57 := digit.2
  simp only [PyString.isLineBreak, Bool.or_eq_false_iff, Bool.and_eq_false_iff,
    decide_eq_false_iff_not, beq_eq_false_iff_ne]
  omega

theorem unbroken_scalar {value : Scalar}
    (clean : ∀ text, value = .str text → ∀ char ∈ text.toList, rawBreak char = false) :
    ∀ written ∈ dumps value.toJson, PyString.isLineBreak written = false := by
  cases value with
  | null => exact Lists.forall_mem_of_all (by decide)
  | bool value => cases value <;> exact Lists.forall_mem_of_all (by decide)
  | int value =>
      intro written member
      cases value with
      | ofNat value => exact unbroken_toDigits value written member
      | negSucc value =>
          rcases List.mem_cons.mp member with rfl | digits
          · decide
          · exact unbroken_toDigits (value + 1) written digits
  | str text => exact unbroken_quoted (clean text rfl)

theorem unbroken_of_printable {row : Row} (printable : Printable row) : Unbroken row := by
  intro written present
  rw [Row.json, dumps_record] at present
  have comma : ∀ char ∈ [','], PyString.isLineBreak char = false :=
    List.forall_mem_singleton.mpr rfl
  rcases List.mem_cons.mp present with rfl | inside
  · decide
  · rcases List.mem_append.mp inside with body | closing
    · refine Lists.forall_mem_intercalate comma ?_ written body
      intro text among char here
      obtain ⟨entry, listed, rfl⟩ := List.mem_map.mp among
      obtain ⟨names, values⟩ :=
        printable entry ((Sorting.mem_sortedBy Prod.fst row.entries entry).mp listed)
      rcases List.mem_append.mp here with name | value
      · exact unbroken_quoted names char name
      · rcases List.mem_cons.mp value with rfl | scalar
        · decide
        · exact unbroken_scalar values char scalar
    · rw [List.mem_singleton.mp closing]
      decide

theorem trimEdges_append {front back chars : List Char}
    (before : ∀ char ∈ front, isEdge char = true) (after : ∀ char ∈ back, isEdge char = true) :
    trimEdges (front ++ (chars ++ back)) = trimEdges chars := by
  have tail : back.reverse.dropWhile isEdge = [] :=
    List.dropWhile_eq_nil_iff.mpr fun char member => after char (List.mem_reverse.mp member)
  rw [trimEdges, trimEdges, List.dropWhile_append_of_pos before]
  by_cases empty : chars.dropWhile isEdge = []
  · rw [List.dropWhile_append_of_pos (List.dropWhile_eq_nil_iff.mp empty), empty,
      List.dropWhile_eq_nil_iff.mpr after]
  · have longer : (chars ++ back).dropWhile isEdge = chars.dropWhile isEdge ++ back := by
      obtain ⟨stop, left, shape⟩ := List.exists_cons_of_ne_nil empty
      rw [shape]
      exact (dropWhile_append_stop shape back).1
    rw [longer, List.reverse_append, List.dropWhile_append_of_pos fun char member =>
      after char (List.mem_reverse.mp member)]

theorem code_of_isComponentChar {char : Char} (component : isComponentChar char = true) :
    33 ≤ char.toNat ∧ char.toNat < 128 := by
  change (((((decide (char.val ≥ 'A'.val ∧ char.val ≤ 'Z'.val) ||
    (decide (char.val ≥ 'a'.val) && decide (char.val ≤ 'z'.val))) ||
    (decide (char.val ≥ '0'.val) && decide (char.val ≤ '9'.val))) ||
    char == '.') || char == '_') || char == '-') = true at component
  simp only [Bool.or_eq_true, Bool.and_eq_true, decide_eq_true_eq, beq_iff_eq] at component
  rcases component with ((((upper | lower) | digit) | rfl) | rfl) | rfl
  · have low : 65 ≤ char.toNat := upper.1
    have high : char.toNat ≤ 90 := upper.2
    omega
  · have low : 97 ≤ char.toNat := lower.1
    have high : char.toNat ≤ 122 := lower.2
    omega
  · have low : 48 ≤ char.toNat := digit.1
    have high : char.toNat ≤ 57 := digit.2
    omega
  · decide
  · decide
  · decide

theorem isComponentChar_of_isSpace {char : Char} (space : PyString.isSpace char = true) :
    isComponentChar char = false := by
  by_contra component
  have range := code_of_isComponentChar (by simpa using component)
  simp only [PyString.isSpace, Bool.or_eq_true, Bool.and_eq_true, decide_eq_true_eq,
    beq_iff_eq] at space
  omega

/-- A run of other characters leaves edges only. -/
theorem dashRuns_append_spaces (inRun : Bool) (chars : List Char) {back : List Char}
    (spaces : ∀ char ∈ back, isComponentChar char = false) :
    ∃ edges, dashRuns inRun (chars ++ back) = dashRuns inRun chars ++ edges ∧
      ∀ char ∈ edges, isEdge char = true := by
  induction chars generalizing inRun with
  | nil =>
      induction back generalizing inRun with
      | nil => exact ⟨[], by simp, by simp⟩
      | cons char rest ih =>
          obtain ⟨edges, shape, all⟩ := ih (fun other member =>
            spaces other (List.mem_cons_of_mem char member)) true
          have here := spaces char List.mem_cons_self
          simp only [List.nil_append, dashRuns] at shape ⊢
          cases inRun with
          | true => exact ⟨edges, by simp [here, shape], all⟩
          | false =>
              refine ⟨'-' :: edges, by simp [here, shape], ?_⟩
              exact List.forall_mem_cons.mpr ⟨by decide, all⟩
  | cons char rest ih =>
      simp only [List.cons_append, dashRuns]
      split
      · obtain ⟨edges, shape, all⟩ := ih false
        exact ⟨edges, by rw [shape, List.cons_append], all⟩
      · split
        · exact ih true
        · obtain ⟨edges, shape, all⟩ := ih true
          exact ⟨edges, by rw [shape, List.cons_append], all⟩

theorem trimEdges_dash (chars : List Char) : trimEdges ('-' :: chars) = trimEdges chars := by
  have trimmed := @trimEdges_append ['-'] [] chars
    (List.forall_mem_singleton.mpr rfl) (by simp)
  rwa [List.append_nil] at trimmed

theorem trimEdges_dashRuns (chars : List Char) :
    trimEdges (dashRuns true chars) = trimEdges (dashRuns false chars) := by
  cases chars with
  | nil => rfl
  | cons char rest =>
      rw [dashRuns, dashRuns]
      split
      · rfl
      · exact (trimEdges_dash _).symm

theorem trimEdges_dashRuns_append (inRun : Bool) {front : List Char}
    (spaces : ∀ char ∈ front, isComponentChar char = false) (chars : List Char) :
    trimEdges (dashRuns inRun (front ++ chars)) = trimEdges (dashRuns false chars) := by
  induction front generalizing inRun with
  | nil =>
      cases inRun with
      | true => exact trimEdges_dashRuns chars
      | false => rfl
  | cons char rest ih =>
      have here := spaces char List.mem_cons_self
      have later := ih true fun other member => spaces other (List.mem_cons_of_mem char member)
      rw [List.cons_append, dashRuns, here]
      cases inRun with
      | true => exact later
      | false => exact (trimEdges_dash _).trans later

/-- Surrounding blanks do not change the sanitised id. -/
theorem safeComponent_strip (text : String) :
    safeComponent (PyString.strip text) = safeComponent text := by
  obtain ⟨front, back, shape, before, after⟩ := PyString.stripChars_split text.toList
  have trimmed : trimEdges (dashRuns false text.toList) =
      trimEdges (dashRuns false (PyString.stripChars text.toList)) := by
    obtain ⟨edges, tail, all⟩ := dashRuns_append_spaces false (PyString.stripChars text.toList)
      fun char member => isComponentChar_of_isSpace (after char member)
    have padded := @trimEdges_append [] edges (dashRuns false (PyString.stripChars text.toList))
      (fun _ member => absurd member List.not_mem_nil) all
    calc trimEdges (dashRuns false text.toList)
        = trimEdges (dashRuns false (front ++ (PyString.stripChars text.toList ++ back))) := by
          rw [← shape]
      _ = trimEdges (dashRuns false (PyString.stripChars text.toList ++ back)) :=
          trimEdges_dashRuns_append false
            (fun char member => isComponentChar_of_isSpace (before char member)) _
      _ = trimEdges ([] ++ (dashRuns false (PyString.stripChars text.toList) ++ edges)) := by
          rw [tail, List.nil_append]
      _ = trimEdges (dashRuns false (PyString.stripChars text.toList)) := padded
  rw [safeComponent, safeComponent, PyString.strip, String.toList_ofList, trimmed]

end ZaofuFormal.Artifacts.ReadLedger
