import ZaofuFormal.Artifacts.ReadLedger

/-!
# Sealing loses no read

Rows are appended and ledgers are sealed in any order.  Every text in the
directory of an attempt is a list of lines of rows that were appended there,
and every row that was appended there stands in one of the texts.  Sealing
succeeds when the parser accepts all of these rows; the sealed ledger then
lists each of them once.
-/

namespace ZaofuFormal.Artifacts.SealedReads

open Foundation Foundation.JsonText Foundation.Runs ReadLedger

inductive Step where
  | append (row : Row)
  | sealing (attemptId : String)

variable (host : Host)

/-- A refused step leaves the files as they are. -/
def apply (files : Files) : Step → Files
  | .append row =>
      match appendArtifactRead row files with
      | .ok next => next
      | .error _ => files
  | .sealing attemptId =>
      match sealReadLedger host attemptId files with
      | .ok (next, _) => next
      | .error _ => files

variable {attemptId component : String} {files : Files} {before steps : List Step}

variable {host} in
theorem apply_sealing {next : Files} {descriptor : Descriptor}
    (sealed : sealReadLedger host attemptId files = .ok (next, descriptor)) :
    apply host files (.sealing attemptId) = next := by
  rw [apply, sealed]

def initial : Files := fun _ => Directory.empty

def appendedBy : Step → Option Row
  | .append row => if PyString.strip row.attemptId = "" then none else some row
  | .sealing _ => none

/-- The rows appended so far. -/
def appended (steps : List Step) : List Row := steps.filterMap appendedBy

/-- The rows appended for one attempt. -/
def appendedFor (attemptId : String) (steps : List Step) : List Row :=
  (appended steps).filter fun row => row.attemptId = attemptId

/-- The rows appended in one directory. -/
def appendedAt (component : String) (steps : List Step) : List Row :=
  (appended steps).filter fun row => safeComponent row.attemptId = component

/-- The sealed text of a directory. -/
def sealedAt (component : String) (steps : List Step) : List Char :=
  sealedText ((appendedAt component steps).map Row.canonical)

structure Tracks (steps : List Step) (files : Files) : Prop where
  active : ∀ component text, (files component).active = some text →
    ∃ rows : List Row, text = ledgerText rows ∧ ∀ row ∈ rows, row ∈ appendedAt component steps
  fragment : ∀ component name text, (files component).fragments.get? name = some text →
    name = fragmentName (host.sha256 text) ∧
      ∃ before, before <+: steps ∧ text = sealedAt component before
  present : ∀ component, ∀ row ∈ appendedAt component steps, ∃ rows : List Row,
    ledgerText rows ∈ (files component).texts ∧ row.canonical ∈ rows.map Row.canonical

theorem mem_texts (directory : Directory) (text : List Char) :
    text ∈ directory.texts ↔
      (∃ name, directory.fragments.get? name = some text) ∨ directory.active = some text := by
  rw [Directory.texts, List.mem_append, Option.mem_toList]
  refine or_congr ?_ Iff.rfl
  rw [← Dict.mem_values_iff, Dict.values]
  exact ((Sorting.sortedBy_perm Prod.fst directory.fragments.entries).map Prod.snd).mem_iff

theorem appendedAt_append (component : String) (first second : List Step) :
    appendedAt component (first ++ second) =
      appendedAt component first ++ appendedAt component second := by
  simp [appendedAt, appended]

theorem appendedAt_of_initial
    (reached : before <+: steps) {row : Row} (member : row ∈ appendedAt component before) :
    row ∈ appendedAt component steps := by
  obtain ⟨rest, rfl⟩ := reached
  rw [appendedAt_append]
  exact List.mem_append_left _ member

variable {host}

/-- Every text of a directory is made of rows appended there. -/
theorem Tracks.rows (tracks : Tracks host steps files) {text : List Char}
    (member : text ∈ (files component).texts) :
    ∃ rows : List Row, text = ledgerText rows ∧
      ∀ row ∈ rows, row ∈ appendedAt component steps := by
  rcases (mem_texts _ _).mp member with ⟨name, found⟩ | active
  · obtain ⟨_, before, reached, rfl⟩ := tracks.fragment component name text found
    obtain ⟨kept, among, same, _⟩ := sealedText_eq (appendedAt component before)
    exact ⟨kept, same, fun row listed => appendedAt_of_initial reached (among row listed)⟩
  · exact tracks.active component text active

theorem tracks_initial : Tracks host [] initial where
  active := fun _ _ impossible => by cases impossible
  fragment := fun _ _ _ impossible => by cases impossible
  present := fun _ _ impossible => by cases impossible

/-- A step that appends nothing and leaves the files alone. -/
theorem Tracks.skip (tracks : Tracks host steps files)
    {step : Step} (nothing : appendedBy step = none) : Tracks host (steps ++ [step]) files := by
  have same : ∀ component, appendedAt component (steps ++ [step]) = appendedAt component steps := by
    intro component
    rw [appendedAt_append]
    simp [appendedAt, appended, nothing]
  refine ⟨?_, ?_, ?_⟩
  · simpa only [same] using tracks.active
  · intro component name text found
    obtain ⟨named, before, reached, rfl⟩ := tracks.fragment component name text found
    exact ⟨named, before, reached.trans (List.prefix_append steps [step]), rfl⟩
  · simpa only [same] using tracks.present

theorem ledgerText_concat (rows : List Row) (row : Row) :
    ledgerText (rows ++ [row]) = ledgerText rows ++ line row.json := by
  simp [ledgerText]

/-- A missing active ledger counts as an empty one. -/
theorem Tracks.activeRows (tracks : Tracks host steps files)
    (component : String) : ∃ rows : List Row,
      (files component).active.getD [] = ledgerText rows ∧
        ∀ row ∈ rows, row ∈ appendedAt component steps := by
  cases before : (files component).active with
  | none => exact ⟨[], rfl, fun _ member => absurd member List.not_mem_nil⟩
  | some old =>
      obtain ⟨rows, rfl, among⟩ := tracks.active component old before
      exact ⟨rows, rfl, among⟩

theorem Tracks.append {steps : List Step} {files next : Files} (tracks : Tracks host steps files)
    {row : Row} (written : appendArtifactRead row files = .ok next) :
    Tracks host (steps ++ [.append row]) next := by
  unfold appendArtifactRead at written
  dsimp only at written
  split at written
  · cases written
  · rename_i named
    rw [safeComponent_strip] at written
    obtain rfl := Except.ok.inj written
    have grown : ∀ component, appendedAt component (steps ++ [.append row]) =
        appendedAt component steps ++
          if safeComponent row.attemptId = component then [row] else [] := by
      intro component
      rw [appendedAt_append]
      by_cases here : safeComponent row.attemptId = component
      · simp [appendedAt, appended, appendedBy, named, here]
      · simp [appendedAt, appended, appendedBy, named, here]
    refine ⟨?_, ?_, ?_⟩
    · intro component text active
      rw [grown]
      by_cases here : component = safeComponent row.attemptId
      · subst here
        rw [Function.update_self] at active
        obtain rfl := Option.some.inj active
        obtain ⟨rows, old, among⟩ := tracks.activeRows (safeComponent row.attemptId)
        refine ⟨rows ++ [row], by rw [old, ledgerText_concat], fun other member => ?_⟩
        rw [if_pos rfl]
        rcases List.mem_append.mp member with earlier | last
        · exact List.mem_append_left _ (among other earlier)
        · exact List.mem_append_right _ last
      · rw [Function.update_of_ne here] at active
        obtain ⟨rows, rfl, among⟩ := tracks.active component text active
        exact ⟨rows, rfl, fun other member => List.mem_append_left _ (among other member)⟩
    · intro component name text found
      have kept : (files component).fragments.get? name = some text := by
        by_cases here : component = safeComponent row.attemptId
        · subst here
          rwa [Function.update_self] at found
        · rwa [Function.update_of_ne here] at found
      obtain ⟨digest, before, reached, rfl⟩ := tracks.fragment component name text kept
      exact ⟨digest, before, reached.trans (List.prefix_append steps _), rfl⟩
    · intro component other member
      rw [grown] at member
      by_cases here : component = safeComponent row.attemptId
      · subst here
        rw [Function.update_self]
        rw [if_pos rfl] at member
        rcases List.mem_append.mp member with earlier | last
        · obtain ⟨rows, listed, among⟩ := tracks.present _ other earlier
          rcases (mem_texts _ _).mp listed with fragment | active
          · exact ⟨rows, (mem_texts _ _).mpr (Or.inl fragment), among⟩
          · refine ⟨rows ++ [row], (mem_texts _ _).mpr (Or.inr ?_), ?_⟩
            · rw [active, ledgerText_concat]
              rfl
            · rw [List.map_append]
              exact List.mem_append_left _ among
        · obtain ⟨rows, old, _⟩ := tracks.activeRows (safeComponent row.attemptId)
          refine ⟨rows ++ [row], (mem_texts _ _).mpr (Or.inr ?_), ?_⟩
          · rw [old, ledgerText_concat]
          · rw [List.mem_singleton.mp last]
            simp
      · rw [if_neg (Ne.symm here), List.append_nil] at member
        rw [Function.update_of_ne here]
        exact tracks.present component other member

/-- What the parser gives back for texts made of rows. -/
theorem parsed_rows {texts : List (List Char)} {parsed : List (List Json)}
    (made : ∀ text ∈ texts, ∃ rows : List Row, text = ledgerText rows ∧
      ∀ row ∈ rows, row ∈ appendedAt component steps)
    (read : texts.mapM (fun text => parseLedger host text attemptId) = .ok parsed) :
    ∃ rows : List Row, parsed.flatten = rows.map Row.canonical ∧
      (∀ row ∈ rows, row ∈ appendedAt component steps) ∧
      ∀ others : List Row, ledgerText others ∈ texts →
        ∀ row ∈ others.map Row.canonical, row ∈ rows.map Row.canonical := by
  have pairs := (Fallible.mapM_eq_ok_iff _ _ _).mp read
  clear read
  induction pairs with
  | nil =>
      exact ⟨[], rfl, fun _ member => absurd member List.not_mem_nil,
        fun _ member => absurd member List.not_mem_nil⟩
  | cons pair pairs ih =>
      rename_i text out texts parsed
      obtain ⟨first, rfl, among⟩ := made text List.mem_cons_self
      obtain ⟨later, flat, laterAmong, covers⟩ := ih fun other member =>
        made other (List.mem_cons_of_mem _ member)
      obtain ⟨_, rfl⟩ := (parseLedger_ledgerText host attemptId first out).mp pair
      refine ⟨first ++ later, ?_, ?_, ?_⟩
      · rw [List.flatten_cons, flat, List.map_append]
      · intro row member
        rcases List.mem_append.mp member with one | other
        · exact among row one
        · exact laterAmong row other
      · intro others listed row member
        rw [List.map_append]
        rcases List.mem_cons.mp listed with same | listed
        · rw [← same] at pair
          obtain ⟨_, same⟩ := (parseLedger_ledgerText host attemptId others _).mp pair
          rw [same]
          exact List.mem_append_left _ member
        · exact List.mem_append_right _ (covers others listed row member)

/-- The text that sealing computes is the sealed text of the directory. -/
theorem Tracks.sealedText {steps : List Step} {files : Files} (tracks : Tracks host steps files)
    {attemptId component : String} {parsed : List (List Json)}
    (read : (files component).texts.mapM (fun text => parseLedger host text attemptId) =
      .ok parsed) :
    ReadLedger.sealedText parsed.flatten = sealedAt component steps := by
  obtain ⟨rows, flat, among, covers⟩ := parsed_rows (fun _ => tracks.rows) read
  rw [flat, sealedAt]
  apply sealedText_congr
  intro json
  constructor
  · intro member
    obtain ⟨row, listed, rfl⟩ := List.mem_map.mp member
    exact List.mem_map_of_mem (among row listed)
  · intro member
    obtain ⟨row, listed, rfl⟩ := List.mem_map.mp member
    obtain ⟨others, text, inside⟩ := tracks.present component row listed
    exact covers others text row.canonical inside

/-- What a successful seal does. -/
theorem Tracks.sealed_cases {next : Files} {descriptor : Descriptor}
    (tracks : Tracks host steps files)
    (sealed : sealReadLedger host attemptId files = .ok (next, descriptor)) :
    let component := safeComponent attemptId
    let raw := sealedAt component steps
    let name := fragmentName (host.sha256 raw)
    next = Function.update files component ⟨none, (files component).fragments.insert name raw⟩ ∧
      descriptor = ⟨component, name, host.sha256 raw, byteCount raw⟩ := by
  unfold sealReadLedger at sealed
  dsimp only at sealed
  split at sealed
  · cases sealed
  · obtain ⟨parsed, read, final⟩ := Fallible.bind_eq_ok sealed
    rw [tracks.sealedText read] at final
    split at final
    · cases final
    · obtain ⟨rfl, rfl⟩ := Prod.mk.inj (Except.ok.inj final)
      exact ⟨rfl, rfl⟩

theorem Tracks.sealing {steps : List Step} {files next : Files} {descriptor : Descriptor}
    (tracks : Tracks host steps files) {attemptId : String}
    (sealed : sealReadLedger host attemptId files = .ok (next, descriptor)) :
    Tracks host (steps ++ [.sealing attemptId]) next := by
  obtain ⟨rfl, _⟩ := tracks.sealed_cases sealed
  have kept := tracks.skip (show appendedBy (.sealing attemptId) = none from rfl)
  have same : ∀ component,
      appendedAt component (steps ++ [.sealing attemptId]) = appendedAt component steps := by
    intro component
    rw [appendedAt_append]
    exact List.append_nil _
  refine ⟨?_, ?_, ?_⟩
  · intro component text active
    by_cases here : component = safeComponent attemptId
    · subst here
      rw [Function.update_self] at active
      cases active
    · rw [Function.update_of_ne here] at active
      exact kept.active component text active
  · intro component name text found
    by_cases here : component = safeComponent attemptId
    · subst here
      rw [Function.update_self, Dict.get?_insert] at found
      split at found
      · rename_i named
        obtain rfl := Option.some.inj found
        exact ⟨named, steps, List.prefix_append steps _, rfl⟩
      · exact kept.fragment _ name text found
    · rw [Function.update_of_ne here] at found
      exact kept.fragment component name text found
  · intro component row member
    by_cases here : component = safeComponent attemptId
    · subst here
      rw [same] at member
      obtain ⟨rows, _, text, _, listed⟩ :=
        sealedText_eq (appendedAt (safeComponent attemptId) steps)
      refine ⟨rows, ?_, listed row member⟩
      rw [Function.update_self, mem_texts]
      rw [← text]
      exact Or.inl ⟨_, Dict.get?_insert_self _ _ _⟩
    · rw [Function.update_of_ne here]
      exact kept.present component row member

theorem Tracks.apply {steps : List Step} {files : Files} (tracks : Tracks host steps files)
    (step : Step) : Tracks host (steps ++ [step]) (apply host files step) := by
  cases step with
  | append row =>
      unfold SealedReads.apply
      dsimp only
      split
      · rename_i next written
        exact tracks.append written
      · rename_i message refused
        apply tracks.skip
        unfold appendArtifactRead at refused
        dsimp only at refused
        split at refused
        · rename_i blank
          exact if_pos blank
        · cases refused
  | sealing attemptId =>
      unfold SealedReads.apply
      dsimp only
      split
      · rename_i next descriptor sealed
        exact tracks.sealing sealed
      · exact tracks.skip rfl

/-- The files after any run. -/
theorem tracks_run (steps : List Step) :
    Tracks host steps (run (apply host) initial steps) := by
  induction steps using List.reverseRecOn with
  | nil => exact tracks_initial
  | append_singleton steps step ih =>
      rw [run_append]
      exact ih.apply step

variable (host) in
/-- The rows of a run can be sealed: no name or value holds a line break that the
serializer leaves in the text, every row carries the ledger's schema, no two attempts
share a directory, and no two of the sealed texts share a name. -/
structure Sealable (steps : List Step) : Prop where
  printable : ∀ row ∈ appended steps, Printable row
  schema : ∀ row ∈ appended steps, row.json.get "schema_version" = .str artifactReadSchema
  separate : ∀ first ∈ appended steps, ∀ second ∈ appended steps,
    safeComponent first.attemptId = safeComponent second.attemptId →
      first.attemptId = second.attemptId
  distinct : ∀ component, ∀ before, before <+: steps → ∀ after, after <+: steps →
    fragmentName (host.sha256 (sealedAt component before)) =
        fragmentName (host.sha256 (sealedAt component after)) →
      sealedAt component before = sealedAt component after

theorem appended_of_initial (reached : before <+: steps) {row : Row}
    (member : row ∈ appended before) : row ∈ appended steps := by
  obtain ⟨rest, rfl⟩ := reached
  rw [appended, List.filterMap_append]
  exact List.mem_append_left _ member

/-- The parser accepts every row in the directory of an attempt with a row. -/
theorem Sealable.accepted (sealable : Sealable host steps)
    (reached : before <+: steps) (nonempty : appendedFor attemptId before ≠ []) :
    ∀ row ∈ appendedAt (safeComponent attemptId) before,
      Unbroken row ∧ Readable attemptId row ∧ row.attemptId = attemptId := by
  obtain ⟨own, listed⟩ := List.exists_mem_of_ne_nil _ nonempty
  obtain ⟨ownRow, named⟩ := List.mem_filter.mp listed
  have named : own.attemptId = attemptId := by simpa using named
  intro row member
  obtain ⟨present, here⟩ := List.mem_filter.mp member
  have same : row.attemptId = attemptId := by
    rw [← named]
    apply sealable.separate row (appended_of_initial reached present) own
      (appended_of_initial reached ownRow)
    rw [named]
    simpa using here
  refine ⟨unbroken_of_printable (sealable.printable row (appended_of_initial reached present)),
    ⟨sealable.schema row (appended_of_initial reached present), Or.inr same⟩, same⟩

theorem Tracks.exists_sealed (tracks : Tracks host before files) (sealable : Sealable host steps)
    (reached : before <+: steps) (nonempty : appendedFor attemptId before ≠ []) :
    ∃ next descriptor, sealReadLedger host attemptId files = .ok (next, descriptor) := by
  have accepted := sealable.accepted reached nonempty
  obtain ⟨own, listed⟩ := List.exists_mem_of_ne_nil _ nonempty
  obtain ⟨ownRow, named⟩ := List.mem_filter.mp listed
  have located : own ∈ appendedAt (safeComponent attemptId) before := by
    refine List.mem_filter.mpr ⟨ownRow, ?_⟩
    rw [of_decide_eq_true named]
    exact decide_eq_true rfl
  obtain ⟨_, text, _⟩ := tracks.present _ own located
  have started : ¬((files (safeComponent attemptId)).active.isNone = true ∧
      (files (safeComponent attemptId)).fragments.entries = []) := by
    rintro ⟨inactive, empty⟩
    rw [Option.isNone_iff_eq_none] at inactive
    rw [Directory.texts, inactive, empty] at text
    cases text
  obtain ⟨parsed, read⟩ : ∃ parsed, (files (safeComponent attemptId)).texts.mapM
      (fun text => parseLedger host text attemptId) = .ok parsed := by
    apply Fallible.exists_mapM_eq_ok
    intro text member
    obtain ⟨rows, rfl, among⟩ := tracks.rows member
    refine ⟨rows.map Row.canonical, (parseLedger_ledgerText host attemptId rows _).mpr ⟨?_, rfl⟩⟩
    intro row listed
    obtain ⟨unbroken, readable, _⟩ := accepted row (among row listed)
    exact ⟨unbroken, readable⟩
  have free : ¬((files (safeComponent attemptId)).fragments.contains
        (fragmentName (host.sha256 (sealedAt (safeComponent attemptId) before))) = true ∧
      (files (safeComponent attemptId)).fragments.get?
          (fragmentName (host.sha256 (sealedAt (safeComponent attemptId) before))) ≠
        some (sealedAt (safeComponent attemptId) before)) := by
    rintro ⟨present, different⟩
    obtain ⟨text, found⟩ := Option.isSome_iff_exists.mp present
    obtain ⟨digest, earlier, initial, rfl⟩ := tracks.fragment _ _ text found
    rw [found] at different
    exact different (congrArg some
      (sealable.distinct _ earlier (initial.trans reached) before reached digest.symm))
  unfold sealReadLedger
  dsimp only
  rw [if_neg started, read]
  dsimp only [bind, Except.bind]
  rw [tracks.sealedText read, if_neg free]
  exact ⟨_, _, rfl⟩

/-- In a run of sealable rows, every seal of an attempt with an appended row succeeds, and the
ledger it returns decodes to the distinct rows appended for the attempt so far. -/
theorem sealing_loses_no_read (host : Host) (steps : List Step) (sealable : Sealable host steps)
    (before : List Step) (reached : before <+: steps) (attemptId : String)
    (nonempty : appendedFor attemptId before ≠ []) :
    ∃ files descriptor raw rows,
      sealReadLedger host attemptId (run (apply host) initial before) = .ok (files, descriptor) ∧
      (files descriptor.component).fragments.get? descriptor.name = some raw ∧
      parseLedger host raw attemptId = .ok rows ∧ rows.Nodup ∧
      ∀ row, row ∈ rows ↔ row ∈ (appendedFor attemptId before).map Row.canonical := by
  have tracks := @tracks_run host before
  have accepted := sealable.accepted reached nonempty
  obtain ⟨files, descriptor, sealed⟩ := tracks.exists_sealed sealable reached nonempty
  obtain ⟨rfl, rfl⟩ := tracks.sealed_cases sealed
  obtain ⟨kept, among, text, distinct, listed⟩ :=
    sealedText_eq (appendedAt (safeComponent attemptId) before)
  have same : ∀ row, row ∈ appendedAt (safeComponent attemptId) before ↔
      row ∈ appendedFor attemptId before := by
    intro row
    constructor
    · intro member
      refine List.mem_filter.mpr ⟨(List.mem_filter.mp member).1, ?_⟩
      exact decide_eq_true (accepted row member).2.2
    · intro member
      obtain ⟨present, named⟩ := List.mem_filter.mp member
      refine List.mem_filter.mpr ⟨present, ?_⟩
      rw [of_decide_eq_true named]
      exact decide_eq_true rfl
  refine ⟨_, _, sealedAt (safeComponent attemptId) before, kept.map Row.canonical, sealed, ?_,
    ?_, distinct, ?_⟩
  · rw [Function.update_self]
    exact Dict.get?_insert_self _ _ _
  · rw [sealedAt, text, parseLedger_ledgerText]
    refine ⟨fun row member => ?_, rfl⟩
    obtain ⟨unbroken, readable, _⟩ := accepted row (among row member)
    exact ⟨unbroken, readable⟩
  · intro json
    constructor
    · intro member
      obtain ⟨row, inside, rfl⟩ := List.mem_map.mp member
      exact List.mem_map_of_mem ((same row).mp (among row inside))
    · intro member
      obtain ⟨row, inside, rfl⟩ := List.mem_map.mp member
      exact listed row ((same row).mpr inside)

theorem sealedText_single (row : Row) : sealedText [row.canonical] = line row.json := by
  rw [line, ← row.dumps_canonical]
  simp [ReadLedger.sealedText, ordered, rowsByBody, Sorting.sortedBy, Dict.contains, Dict.insert,
    Dict.put, EmptyCollection.emptyCollection, Dict.empty, Dict.get?, Dict.find]

/-- Only the directories of appended rows, at the points of the run, have to be looked at. -/
theorem sealable_of_inits {host : Host} (printable : ∀ row ∈ appended steps, Printable row)
    (schema : ∀ row ∈ appended steps, row.json.get "schema_version" = .str artifactReadSchema)
    (separate : ∀ first ∈ appended steps, ∀ second ∈ appended steps,
      safeComponent first.attemptId = safeComponent second.attemptId →
        first.attemptId = second.attemptId)
    (distinct : ∀ row ∈ appended steps, ∀ before ∈ steps.inits, ∀ after ∈ steps.inits,
      fragmentName (host.sha256 (sealedAt (safeComponent row.attemptId) before)) =
          fragmentName (host.sha256 (sealedAt (safeComponent row.attemptId) after)) →
        sealedAt (safeComponent row.attemptId) before =
          sealedAt (safeComponent row.attemptId) after) : Sealable host steps := by
  refine ⟨printable, schema, separate, fun component before reached after later same => ?_⟩
  by_cases own : ∃ row ∈ appended steps, safeComponent row.attemptId = component
  · obtain ⟨row, member, rfl⟩ := own
    exact distinct row member before ((List.mem_inits _ _).mpr reached) after
      ((List.mem_inits _ _).mpr later) same
  · have foreign {initial : List Step} (early : initial <+: steps) :
        appendedAt component initial = [] := by
      rw [appendedAt, List.filter_eq_nil_iff]
      intro row member here
      exact own ⟨row, appended_of_initial early member, of_decide_eq_true here⟩
    rw [sealedAt, sealedAt, foreign reached, foreign later]

/-- A run that appends one row. -/
theorem sealable_single {host : Host} {row : Row} (printable : Printable row)
    (schema : row.json.get "schema_version" = .str artifactReadSchema)
    (apart : fragmentName (host.sha256 []) ≠ fragmentName (host.sha256 (line row.json))) :
    Sealable host [.append row] := by
  have only : ∀ other ∈ appended [.append row], other = row := by
    intro other member
    obtain ⟨step, taken, kept⟩ := List.mem_filterMap.mp member
    rw [List.mem_singleton.mp taken, appendedBy] at kept
    split at kept
    · cases kept
    · exact (Option.some.inj kept).symm
  refine sealable_of_inits ?_ ?_ ?_ ?_
  · intro other member
    rw [only other member]
    exact printable
  · intro other member
    rw [only other member]
    exact schema
  · intro first one second two _
    rw [only first one, only second two]
  · intro other member before reached after later same
    obtain rfl := only other member
    have listed : appended [.append other] = [other] := by
      rw [appended, List.filterMap_cons] at member ⊢
      cases kept : appendedBy (.append other) with
      | none => simp [kept] at member
      | some found => rw [only found (by simp [appended, kept])]; rfl
    have text : sealedAt (safeComponent other.attemptId) [.append other] = line other.json := by
      simp [sealedAt, appendedAt, listed, sealedText_single]
    have start : sealedAt (safeComponent other.attemptId) [] = [] := rfl
    have initials : [Step.append other].inits = [[], [.append other]] := rfl
    rw [initials, List.mem_pair] at reached later
    rcases reached with rfl | rfl <;> rcases later with rfl | rfl <;>
      simp only [text, start] at same ⊢
    · exact absurd same apart
    · exact absurd same.symm apart

def sampleRow (attemptId readAt : String) : Row where
  entries := [("schema_version", .str artifactReadSchema), ("attempt_id", .str attemptId),
    ("read_at", .str readAt)]
  nodupKeys := by simp

/-- Reads of two attempts; the first one reads again after its ledger was sealed. -/
def sampleSteps : List Step :=
  [.append (sampleRow "attempt-1" "2026-01-01T00:00:00+00:00"),
    .append (sampleRow "attempt-10" "2026-01-01T00:00:01+00:00"), .sealing "attempt-1",
    .append (sampleRow "attempt-1" "2026-01-01T00:00:02+00:00"), .sealing "attempt-10"]

/-- A host that knows the digests of the ledgers that `sampleSteps` seal, which differ in length:
the empty one, those of one row, and the one of both rows of the first attempt. -/
def sampleHost : Host where
  sha256 text :=
    match text.length with
    | 0 => "e3b0c44298fc1c149afbf4c8996fb92427ae41e4649b934ca495991b7852b855"
    | 101 => "a5fa1ffd3ebfbbf1b5b19f4b75d5fb6fc91e761bf20f6eac752b7669de381650"
    | 102 => "4989dd46f53452d992f721aadcd76a43281be500e3ea6b55bd40b4f1f6bae2fe"
    | _ => "17b18e3862cfd98b93627de4eb61a95b61bc89dd1b7aec4463f8732877f4f8f3"
  float _ := .null

theorem sealable_sample : Sealable sampleHost sampleSteps :=
  sealable_of_inits (by decide +kernel) (by decide +kernel) (by decide +kernel)
    (by decide +kernel)

theorem sampleRow_sealed :
    ∃ files descriptor raw rows,
      sealReadLedger sampleHost "attempt-1" (run (apply sampleHost) initial sampleSteps) =
        .ok (files, descriptor) ∧
      (files descriptor.component).fragments.get? descriptor.name = some raw ∧
      parseLedger sampleHost raw "attempt-1" = .ok rows ∧ rows.Nodup ∧
      ∀ row, row ∈ rows ↔ row ∈ (appendedFor "attempt-1" sampleSteps).map Row.canonical :=
  sealing_loses_no_read sampleHost sampleSteps sealable_sample sampleSteps
    (List.prefix_refl _) "attempt-1" (by decide +kernel)

/-- A row whose reader is named with a line separator. -/
def separatedRow : Row where
  entries := [("schema_version", .str artifactReadSchema), ("attempt_id", .str "attempt-1"),
    ("consumer_actor", .str (String.ofList [Char.ofNat 0x2028]))]
  nodupKeys := by decide

/-- The active ledger of the attempt exists and cannot be sealed. -/
theorem separatedRow_not_sealed :
    appendedFor "attempt-1" [.append separatedRow] = [separatedRow] ∧
      (sealReadLedger sampleHost "attempt-1"
        (run (apply sampleHost) initial [.append separatedRow])).isOk = false := by
  decide +kernel

end ZaofuFormal.Artifacts.SealedReads
