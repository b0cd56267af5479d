import ZaofuFormal.Foundation.Fallible
import ZaofuFormal.Foundation.PosixPath
import ZaofuFormal.TaskMap.Validation

/-!
# Owners of the files of a task map

The validator compares the files of two tasks as texts.  In a map that passes,
no two tasks list one text; they may still list one file in two spellings, and
they do not exactly when every file that two tasks could share is spelled in
one way.
-/

namespace ZaofuFormal.TaskMap

open Foundation

/-- Claims are only appended to the errors. -/
theorem claimFile_errors (id : String) (state : PlanState) (path : String) :
    ∃ added, (claimFile id state path).errors = state.errors ++ added :=
  ⟨_, rfl⟩

theorem foldl_claimFile_errors (id : String) (paths : List String) (state : PlanState) :
    ∃ added, (paths.foldl (claimFile id) state).errors = state.errors ++ added := by
  induction paths generalizing state with
  | nil => exact ⟨[], (List.append_nil _).symm⟩
  | cons path rest ih =>
      obtain ⟨later, grown⟩ := ih (claimFile id state path)
      obtain ⟨here, first⟩ := claimFile_errors id state path
      exact ⟨here ++ later, by rw [List.foldl_cons, grown, first, List.append_assoc]⟩

theorem claimFile_ids (id : String) (paths : List String) (state : PlanState) :
    (paths.foldl (claimFile id) state).ids = state.ids := by
  induction paths generalizing state with
  | nil => rfl
  | cons path rest ih => exact ih (claimFile id state path)

variable {state next : PlanState} {checks : PlanChecks} {rules : PlanRules} {tasks : List Json}

/-- A claim without error keeps the owners that there are. -/
theorem claimFile_keeps {id path other owner : String}
    (clean : (claimFile id state path).errors = [])
    (owned : state.exclusiveClaims.get? other = some owner) (named : owner ≠ "") :
    (claimFile id state path).exclusiveClaims.get? other = some owner := by
  change (state.exclusiveClaims.insert path id).get? other = some owner
  rw [Dict.get?_insert]
  split
  · rename_i same
    subst same
    have silent := (List.append_eq_nil_iff.mp clean).2
    rw [owned, Option.getD_some] at silent
    by_cases sameOwner : owner = id
    · rw [sameOwner]
    · rw [if_pos ⟨named, sameOwner⟩] at silent
      cases silent
  · exact owned

/-- Files claimed without error belong to their task, and the others stay where they are. -/
theorem foldl_claimFile_owned {id : String} (named : id ≠ "") {paths : List String}
    (clean : (paths.foldl (claimFile id) state).errors = []) :
    (∀ path owner, state.exclusiveClaims.get? path = some owner → owner ≠ "" →
      (paths.foldl (claimFile id) state).exclusiveClaims.get? path = some owner) ∧
    ∀ path ∈ paths, (paths.foldl (claimFile id) state).exclusiveClaims.get? path = some id := by
  induction paths generalizing state with
  | nil => exact ⟨fun _ _ owned _ => owned, nofun⟩
  | cons path rest ih =>
      obtain ⟨added, grown⟩ := foldl_claimFile_errors id rest (claimFile id state path)
      rw [List.foldl_cons] at clean ⊢
      have first := (List.append_eq_nil_iff.mp (grown.symm.trans clean)).1
      obtain ⟨kept, claimed⟩ := ih clean
      refine ⟨fun other owner owned filled =>
        kept other owner (claimFile_keeps first owned filled) filled, ?_⟩
      rintro other listed
      rcases List.mem_cons.mp listed with rfl | later
      · exact kept other id (Dict.get?_insert_self _ _ _) named
      · exact claimed other later

/-- What is known of the tasks collected without an error. -/
structure Collected (tasks : List Json) (state : PlanState) : Prop where
  ids : state.ids = tasks.map taskId
  distinct : (tasks.map taskId).Nodup
  named : ∀ task ∈ tasks, taskId task ≠ ""
  owned : ∀ task ∈ tasks, ∀ path ∈ exclusiveFiles task,
    state.exclusiveClaims.get? path = some (taskId task)

theorem noteTask_errors {idx : Nat} {raw : Json}
    (noted : noteTask checks rules idx raw state = .ok next) :
    ∃ added, next.errors = state.errors ++ added := by
  unfold noteTask at noted
  split at noted
  · cases noted
    exact ⟨_, rfl⟩
  · split at noted
    · cases noted
      exact ⟨_, rfl⟩
    · split at noted
      · cases noted
      · rename_i commands _
        cases noted
        obtain ⟨added, grown⟩ := foldl_claimFile_errors (taskId raw) (exclusiveFiles raw)
          (noteFields checks rules raw (taskId raw) commands state)
        rw [grown]
        refine ⟨(if taskId raw ∈ state.ids then ["duplicate task_id " ++
          Json.reprString (taskId raw)] else []) ++
            (taskErrors checks rules raw (taskId raw) commands ++ added), ?_⟩
        simp only [noteFields, List.append_assoc]

theorem noteTasks_errors {idx : Nat} (noted : noteTasks checks rules idx tasks state = .ok next) :
    ∃ added, next.errors = state.errors ++ added := by
  induction tasks generalizing idx state with
  | nil =>
      cases noted
      exact ⟨[], (List.append_nil _).symm⟩
  | cons raw rest ih =>
      rw [noteTasks] at noted
      cases first : noteTask checks rules idx raw state with
      | error detail =>
          rw [first] at noted
          cases noted
      | ok middle =>
          rw [first] at noted
          obtain ⟨here, grown⟩ := noteTask_errors first
          obtain ⟨later, extended⟩ := ih noted
          exact ⟨here ++ later, by rw [extended, grown, List.append_assoc]⟩

/-- A task collected without an error has a new id and owns its files alone. -/
theorem Collected.note {idx : Nat} {raw : Json} (collected : Collected tasks state)
    (noted : noteTask checks rules idx raw state = .ok next) (clean : next.errors = []) :
    Collected (tasks ++ [raw]) next := by
  unfold noteTask at noted
  split at noted
  · cases noted
    cases (List.append_eq_nil_iff.mp clean).2
  · split at noted
    · cases noted
      cases (List.append_eq_nil_iff.mp clean).2
    · rename_i isNamed
      split at noted
      · cases noted
      · rename_i commands _
        cases noted
        obtain ⟨kept, claimed⟩ := foldl_claimFile_owned isNamed clean
        obtain ⟨added, grown⟩ := foldl_claimFile_errors (taskId raw) (exclusiveFiles raw)
          (noteFields checks rules raw (taskId raw) commands state)
        have silent := (List.append_eq_nil_iff.mp (grown.symm.trans clean)).1
        have fresh : taskId raw ∉ state.ids := by
          intro known
          have refused := (List.append_eq_nil_iff.mp
            (List.append_eq_nil_iff.mp silent).1).2
          rw [if_pos known] at refused
          cases refused
        refine ⟨?_, ?_, ?_, ?_⟩
        · rw [claimFile_ids, List.map_append]
          change state.ids ++ [taskId raw] = _
          rw [collected.ids]
          rfl
        · rw [List.map_append, List.nodup_append]
          refine ⟨collected.distinct, List.nodup_singleton _, ?_⟩
          intro first known second here
          rw [List.map_singleton, List.mem_singleton] at here
          rw [here]
          rintro rfl
          exact fresh (collected.ids ▸ known)
        · exact List.forall_mem_append.mpr
            ⟨collected.named, List.forall_mem_singleton.mpr isNamed⟩
        · refine List.forall_mem_append.mpr ⟨fun task member path listed => ?_,
            List.forall_mem_singleton.mpr claimed⟩
          exact kept path _ (collected.owned task member path listed)
            (collected.named task member)

theorem Collected.noteAll {rest : List Json} {idx : Nat} (collected : Collected tasks state)
    (noted : noteTasks checks rules idx rest state = .ok next) (clean : next.errors = []) :
    Collected (tasks ++ rest) next := by
  induction rest generalizing idx tasks state with
  | nil =>
      cases noted
      rw [List.append_nil]
      exact collected
  | cons raw rest ih =>
      rw [noteTasks] at noted
      cases first : noteTask checks rules idx raw state with
      | error detail =>
          rw [first] at noted
          cases noted
      | ok middle =>
          rw [first] at noted
          obtain ⟨added, grown⟩ := noteTasks_errors noted
          have quiet := (List.append_eq_nil_iff.mp (grown.symm.trans clean)).1
          rw [← List.singleton_append, ← List.append_assoc]
          exact ih (collected.note first quiet) noted

/-- The tasks of a map that passes. -/
theorem collected_of_passes {payload : Json}
    {requireTaskVerification : Bool} (passes : Passes checks payload requireTaskVerification) :
    ∃ state, Collected (tasksOf payload) state := by
  obtain ⟨result, validated, passed⟩ := Fallible.ok_of_toOption_map passes
  unfold validateTaskMapPayload at validated
  obtain ⟨state, noted, validated⟩ := Fallible.bind_eq_ok validated
  obtain ⟨⟨order, evidenceErrors⟩, evidence, validated⟩ := Fallible.bind_eq_ok validated
  cases validated
  have clean : state.errors = [] :=
    (List.append_eq_nil_iff.mp (List.isEmpty_iff.mp passed)).1
  have start : Collected [] { errors := schemaErrors payload } :=
    ⟨rfl, List.nodup_nil, nofun, nofun⟩
  exact ⟨state, start.noteAll noted clean⟩

/-- No two tasks of a map that passes list one text. -/
theorem exclusiveFiles_disjoint {payload : Json}
    {requireTaskVerification : Bool} (passes : Passes checks payload requireTaskVerification) :
    (tasksOf payload).Pairwise fun first second =>
      ∀ path ∈ exclusiveFiles first, path ∉ exclusiveFiles second := by
  obtain ⟨state, collected⟩ := collected_of_passes passes
  have different := List.pairwise_map.mp collected.distinct
  refine different.imp_of_mem fun {first second} here there apart path listed also => apart ?_
  exact Option.some.inj ((collected.owned first here path listed).symm.trans
    (collected.owned second there path also))

/-- Two spellings of one file: they differ by empty components and single dots. -/
def SameFile (first second : String) : Prop :=
  PosixPath.isAbsolute first.toList = PosixPath.isAbsolute second.toList ∧
    PosixPath.parts first.toList = PosixPath.parts second.toList

instance (first second : String) : Decidable (SameFile first second) :=
  inferInstanceAs (Decidable (_ ∧ _))

/-- No file belongs to two tasks. -/
def FilesOwnedOnce (payload : Json) : Prop :=
  (tasksOf payload).Pairwise fun first second =>
    ∀ path ∈ exclusiveFiles first, ∀ other ∈ exclusiveFiles second, ¬SameFile path other

/-- No two tasks list one file in two spellings. -/
def FilesSpelledOnce (payload : Json) : Prop :=
  (tasksOf payload).Pairwise fun first second =>
    ∀ path ∈ exclusiveFiles first, ∀ other ∈ exclusiveFiles second,
      SameFile path other → path = other

instance (payload : Json) : Decidable (FilesOwnedOnce payload) :=
  inferInstanceAs (Decidable (List.Pairwise _ _))

instance (payload : Json) : Decidable (FilesSpelledOnce payload) :=
  inferInstanceAs (Decidable (List.Pairwise _ _))

/-- A map that passes gives every file one owner if and only if no two tasks
list one file in two spellings. -/
theorem files_owned_once_iff {checks : PlanChecks} {payload : Json}
    {requireTaskVerification : Bool} (passes : Passes checks payload requireTaskVerification) :
    FilesOwnedOnce payload ↔ FilesSpelledOnce payload := by
  constructor
  · intro owned
    exact owned.imp fun apart path listed other also same =>
      absurd same (apart path listed other also)
  · intro spelled
    refine (spelled.and (exclusiveFiles_disjoint passes)).imp ?_
    rintro first second ⟨oneSpelling, apart⟩ path listed other also same
    obtain rfl := oneSpelling path listed other also same
    exact apart path listed also

/-- The answers of the checks for tasks that have acceptance texts, and none of
the fields that the checks read. -/
def plainChecks : PlanChecks where
  acceptanceContractErrors _ _ := []
  successorBaseErrors _ _ := []
  taskVerificationCommands _ := .ok []
  verificationCommandErrors _ := []
  verificationLevelErrors _ := []
  commandPathRefs _ := []
  requiredPlanPortErrors _ := []
  sharedConventionErrors _ _ := []
  assemblyOwnershipErrors _ _ _ := []
  validateGoalCoverage _ tasks :=
    let count := (tasks.map fun task => (stringList (task.get "acceptance")).length).sum
    (.obj [("mode", .str "legacy_derived"), ("claim_count", .int count),
      ("mapped_claim_count", .int count), ("diagnostics", .arr [])], [])
  validateTaskMapEvidence payload := .ok ((tasksOf payload).map taskId, [])
  upper text := String.ofList (text.toList.map Char.toUpper)

def plainTask (id file : String) : Json :=
  .obj [("task_id", .str id), ("acceptance", .arr [.str "done"]),
    ("exclusive_files", .arr [.str file])]

def plainMap (files : List (String × String)) : Json :=
  .obj [("schema_version", .str "task-map.v1"),
    ("tasks", .arr (files.map fun entry => plainTask entry.1 entry.2))]

theorem plain_files_owned_once :
    FilesOwnedOnce (plainMap [("t1", "src/a.py"), ("t2", "src/b.py")]) := by
  have passes : Passes plainChecks (plainMap [("t1", "src/a.py"), ("t2", "src/b.py")]) true := by
    decide +kernel
  exact (files_owned_once_iff passes).mpr (by decide +kernel)

/-- A map passes in which two tasks own one file. -/
theorem respelled_file_owned_twice :
    ¬∀ payload : Json, Passes plainChecks payload true → FilesOwnedOnce payload := by
  intro always
  exact absurd (always (plainMap [("t1", "src/a.py"), ("t2", "./src/a.py")]) (by decide +kernel))
    (by decide +kernel)

end ZaofuFormal.TaskMap
