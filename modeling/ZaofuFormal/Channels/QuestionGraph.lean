import ZaofuFormal.Foundation.Fallible
import ZaofuFormal.Foundation.GraphWalks
import ZaofuFormal.Foundation.Json
import ZaofuFormal.Foundation.Sorting

/-!
# The question graph of a channel

Questions of a channel depend on one another.  The validator accepts a list of
questions when their ids are usable and their dependencies form no cycle; the
frontier holds the open questions whose dependencies are settled, where a merged
question is settled by the one it was merged into.
-/

namespace ZaofuFormal.Channels

open Foundation Foundation.GraphWalks Foundation.Sorting

/-- The distinct stripped texts of a list, as far as they are not blank. -/
def stringList (value : Json) (limit : Nat) : List String :=
  match value with
  | .arr items =>
      ((items.filterMap fun item =>
        match item with
        | .str text => if PyString.strip text = "" then none else some (PyString.strip text)
        | _ => none).eraseDups).take limit
  | _ => []

def dependencies (question : Json) : List String := stringList (question.get "depends_on") 16

def questionId (question : Json) : String := PyString.strip (question.textAt "question_id")

/-- One more question under its id, which is neither blank nor taken. -/
def noteQuestion (byId : Dict String Json) (question : Json) : Except String (Dict String Json) :=
  if questionId question = "" then .error "question_id_required"
  else if byId.contains (questionId question) then
    .error ("duplicate_question_id:" ++ questionId question)
  else .ok (byId.insert (questionId question) question)

def questionsById (questions : List Json) : Except String (Dict String Json) :=
  questions.foldlM noteQuestion Dict.empty

/-- Each dependency is another known question. -/
def checkDependencies (byId : Dict String Json) : Except String Unit :=
  byId.entries.forM fun (questionId, question) =>
    (dependencies question).forM fun dependency =>
      if dependency = questionId then .error ("question_self_dependency:" ++ questionId)
      else if !byId.contains dependency then
        .error ("unknown_question_dependency:" ++ questionId ++ ":" ++ dependency)
      else .ok ()

/-- The dependencies of a known question. -/
def dependenciesById (byId : Dict String Json) (questionId : String) : List String :=
  ((byId.get? questionId).map dependencies).getD []

/-- The error text of a walk from every question; nothing, should the walk run out of fuel. -/
def checkCycles (byId : Dict String Json) : Option String :=
  match (sortedBy id byId.keys).foldlM
      (visit (dependenciesById byId) (byId.keys.length + 1)) ⟨[], []⟩ with
  | .ok _ => some ""
  | .error (.cycle questionId) => some ("question_dependency_cycle:" ++ questionId)
  | .error .fuel => none

def validateQuestionGraph (questions : List Json) : Option String :=
  match questionsById questions with
  | .error error => some error
  | .ok byId =>
      match checkDependencies byId with
      | .error error => some error
      | .ok () => checkCycles byId

/-- The questions of one thread, by id; an `open_questions` that is no collection raises. -/
def threadQuestions (channel : Json) (threadId : String) : Option (List Json) :=
  let raw := channel.get "open_questions"
  let candidates :=
    if raw.truthy then
      match raw with
      | .obj fields => some (fields.map Prod.snd)
      | .arr items => some items
      | .str _ => some []
      | _ => none
    else some []
  candidates.map fun items =>
    sortedBy (fun item : Json => item.textAt "question_id") (items.filter fun item =>
      item.isObject &&
        decide ((if item.textAt "thread_id" = "" then "main" else item.textAt "thread_id") =
          threadId) &&
        decide (item.textAt "question_id" ≠ ""))

def mergeLink (byId : Dict String Json) (questionId : String) : Link String :=
  match byId.get? questionId with
  | none => .stop false
  | some question =>
      if question.textAt "status" = "resolved" then .stop true
      else if question.textAt "status" ≠ "merged" then .stop false
      else if question.textAt "merged_into" = "" then .stop false
      else .follow (question.textAt "merged_into")

/-- The question, or the one it was merged into, is resolved. -/
def dependencySettled (byId : Dict String Json) (questionId : String) : Bool :=
  follow byId.keys (mergeLink byId) [] questionId

def priorityOrder : String → Nat
  | "p0" => 0
  | "p2" => 2
  | "p3" => 3
  | _ => 1

def questionSortKey (question : Json) : ℕ ×ₗ String :=
  let priority := question.textAt "priority"
  toLex (priorityOrder (if priority = "" then "p1" else priority), question.textAt "question_id")

def questionFrontier (channel : Json) (threadId : String) : Option (List Json) :=
  (threadQuestions channel threadId).map fun records =>
    let byId := Dict.ofEntries (records.map fun record => (record.textAt "question_id", record))
    sortedBy questionSortKey (records.filter fun record =>
      decide (record.textAt "status" = "open") &&
        (dependencies record).all (dependencySettled byId))

/-- A question of the list has the first id and depends on the second one. -/
def DependsOn (questions : List Json) (questionId_ dependency : String) : Prop :=
  ∃ question ∈ questions, questionId question = questionId_ ∧
    dependency ∈ dependencies question

structure ValidGraph (questions : List Json) : Prop where
  filled : ∀ question ∈ questions, questionId question ≠ ""
  unique : (questions.map questionId).Nodup
  known : ∀ question ∈ questions, ∀ dependency ∈ dependencies question,
    dependency ∈ questions.map questionId
  acyclic : ∀ id, ¬Relation.TransGen (DependsOn questions) id id

/-- The questions with their ids as keys. -/
def keyed (idOf : Json → String) (questions : List Json) : List (String × Json) :=
  questions.map fun question => (idOf question, question)

theorem keys_keyed (idOf : Json → String) (questions : List Json) :
    (keyed idOf questions).map Prod.fst = questions.map idOf := by
  rw [keyed, List.map_map]
  rfl

variable {questions : List Json}

theorem get?_keyed {idOf : Json → String}
    (distinct : (questions.map idOf).Nodup) (id : String) (question : Json) :
    (Dict.ofEntries (keyed idOf questions)).get? id = some question ↔
      question ∈ questions ∧ idOf question = id := by
  have nodup : ((keyed idOf questions).map Prod.fst).Nodup := by rwa [keys_keyed]
  rw [Dict.get?_ofEntries nodup, Dict.find_eq_some_iff nodup, keyed, List.mem_map]
  constructor
  · rintro ⟨other, member, same⟩
    obtain ⟨sameId, rfl⟩ := Prod.mk.inj same
    exact ⟨member, sameId⟩
  · rintro ⟨member, rfl⟩
    exact ⟨question, member, rfl⟩

theorem mem_keys_keyed (idOf : Json → String) (questions : List Json) (id : String) :
    id ∈ (Dict.ofEntries (keyed idOf questions)).keys ↔ id ∈ questions.map idOf := by
  rw [Dict.ofEntries, Dict.mem_keys_insertAll, keys_keyed]
  exact or_iff_right List.not_mem_nil

/-- Reading the questions in succeeds on filled, free and distinct ids. -/
theorem foldlM_noteQuestion_iff {start byId : Dict String Json} :
    questions.foldlM noteQuestion start = .ok byId ↔
      (∀ question ∈ questions, questionId question ≠ "" ∧
          questionId question ∉ start.keys) ∧
        (questions.map questionId).Nodup ∧ byId = start.insertAll (keyed questionId questions) := by
  induction questions generalizing start with
  | nil =>
      constructor
      · intro same
        cases same
        exact ⟨fun _ member => absurd member List.not_mem_nil, List.nodup_nil, rfl⟩
      · rintro ⟨_, _, rfl⟩
        rfl
  | cons question rest ih =>
      rw [List.foldlM_cons, List.forall_mem_cons, List.map_cons, List.nodup_cons]
      unfold noteQuestion
      split
      · rename_i blank
        exact iff_of_false (by rintro ⟨⟩) fun both => both.1.1.1 blank
      rename_i filled
      split
      · rename_i twice
        refine iff_of_false (by rintro ⟨⟩) fun both => both.1.1.2 ?_
        exact (Dict.contains_iff_mem_keys _ _).mp twice
      rename_i fresh
      rw [Bool.not_eq_true, ← Bool.not_eq_true, Dict.contains_iff_mem_keys] at fresh
      have keys : ∀ id, id ∈ (start.insert (questionId question) question).keys ↔
          id = questionId question ∨ id ∈ start.keys := fun id =>
        Dict.mem_keys_put (questionId question) question start.entries id
      refine (@ih (start.insert (questionId question) question)).trans ?_
      constructor
      · rintro ⟨others, distinct, same⟩
        refine ⟨⟨⟨filled, fresh⟩, fun other member => ?_⟩, ⟨?_, distinct⟩, same⟩
        · exact ⟨(others other member).1, fun taken =>
            (others other member).2 ((keys _).mpr (Or.inr taken))⟩
        · intro again
          obtain ⟨other, member, sameId⟩ := List.mem_map.mp again
          exact (others other member).2 ((keys _).mpr (Or.inl sameId))
      · rintro ⟨⟨_, others⟩, ⟨once, distinct⟩, same⟩
        refine ⟨fun other member => ⟨(others other member).1, fun taken => ?_⟩, distinct, same⟩
        rcases (keys _).mp taken with sameId | before
        · exact once (List.mem_map.mpr ⟨other, member, sameId⟩)
        · exact (others other member).2 before

theorem questionsById_iff {byId : Dict String Json} : questionsById questions = .ok byId ↔
      (∀ question ∈ questions, questionId question ≠ "") ∧
        (questions.map questionId).Nodup ∧ byId = Dict.ofEntries (keyed questionId questions) := by
  refine foldlM_noteQuestion_iff.trans (and_congr_left fun _ => ?_)
  exact ⟨fun filled question member => (filled question member).1,
    fun filled question member => ⟨filled question member, List.not_mem_nil⟩⟩

theorem edge_iff (distinct : (questions.map questionId).Nodup) (id dependency : String) :
    Edge (dependenciesById (Dict.ofEntries (keyed questionId questions))) id dependency ↔
      DependsOn questions id dependency := by
  unfold Edge dependenciesById DependsOn
  cases found : (Dict.ofEntries (keyed questionId questions)).get? id with
  | none =>
      refine iff_of_false List.not_mem_nil ?_
      rintro ⟨question, member, same, _⟩
      rw [(get?_keyed distinct id question).mpr ⟨member, same⟩] at found
      cases found
  | some question =>
      obtain ⟨member, same⟩ := (get?_keyed distinct id question).mp found
      constructor
      · intro depends
        exact ⟨question, member, same, depends⟩
      · rintro ⟨other, otherMember, otherSame, depends⟩
        cases found.symm.trans ((get?_keyed distinct id other).mpr ⟨otherMember, otherSame⟩)
        exact depends

theorem checkDependencies_iff {byId : Dict String Json} :
    checkDependencies byId = .ok () ↔ ∀ id question, (id, question) ∈ byId.entries →
      ∀ dependency ∈ dependencies question, dependency ≠ id ∧ dependency ∈ byId.keys := by
  unfold checkDependencies
  rw [Fallible.forM_ok_iff, Prod.forall]
  refine forall₂_congr fun id question => imp_congr_right fun _ => ?_
  rw [Fallible.forM_ok_iff]
  refine forall₂_congr fun dependency _ => ?_
  rw [← Dict.contains_iff_mem_keys]
  split
  · rename_i itself
    exact iff_of_false (by rintro ⟨⟩) fun both => both.1 itself
  rename_i another
  cases byId.contains dependency with
  | true => exact iff_of_true rfl ⟨another, rfl⟩
  | false => exact iff_of_false (by rintro ⟨⟩) fun both => Bool.false_ne_true both.2

/-- No error of the validator is the empty text. -/
theorem questionsById_error {start : Dict String Json} {error : String}
    (failed : questions.foldlM noteQuestion start = .error error) : error ≠ "" := by
  induction questions generalizing start with
  | nil => cases failed
  | cons question rest ih =>
      rw [List.foldlM_cons] at failed
      unfold noteQuestion at failed
      split at failed
      · cases failed
        decide
      split at failed
      · cases failed
        exact fun empty => absurd (String.append_eq_empty_iff.mp empty).1 (by decide)
      · exact ih failed

theorem checkDependencies_error {byId : Dict String Json} {error : String}
    (failed : checkDependencies byId = .error error) : error ≠ "" := by
  obtain ⟨⟨id, question⟩, _, refused⟩ := Fallible.exists_of_forM_error failed
  obtain ⟨dependency, _, raised⟩ := Fallible.exists_of_forM_error refused
  split at raised
  · cases raised
    exact fun empty => absurd (String.append_eq_empty_iff.mp empty).1 (by decide)
  split at raised
  · cases raised
    intro empty
    have first := (String.append_eq_empty_iff.mp empty).1
    have second := (String.append_eq_empty_iff.mp first).1
    exact absurd (String.append_eq_empty_iff.mp second).1 (by decide)
  · cases raised

section Cycles

variable {byId : Dict String Json}
  (known : ∀ id ∈ byId.keys, dependenciesById byId id ⊆ byId.keys)

include known

/-- The walk never runs out of fuel. -/
theorem checkCycles_some : ∃ message, checkCycles byId = some message := by
  unfold checkCycles
  cases walked : (sortedBy id byId.keys).foldlM
      (visit (dependenciesById byId) (byId.keys.length + 1)) ⟨[], []⟩ with
  | ok colours => exact ⟨_, rfl⟩
  | error error =>
      obtain ⟨looped, rfl, _⟩ := cycle_of_walk known
        (fun node member => (mem_sortedBy _ byId.keys node).mp member) (Nat.lt_succ_self _) walked
      exact ⟨_, rfl⟩

theorem checkCycles_iff : checkCycles byId = some "" ↔ Acyclic (dependenciesById byId) := by
  have inside : sortedBy id byId.keys ⊆ byId.keys :=
    fun node member => (mem_sortedBy id byId.keys node).mp member
  have cover : ∀ node other, Edge (dependenciesById byId) node other →
      node ∈ sortedBy id byId.keys := by
    intro node other edge
    rw [mem_sortedBy, ← Dict.contains_iff_mem_keys, Dict.contains]
    unfold Edge dependenciesById at edge
    cases found : byId.get? node with
    | none =>
        rw [found] at edge
        cases edge
    | some question => rfl
  rw [← walk_ok_iff known inside (Nat.lt_succ_self _) cover]
  unfold checkCycles
  cases walked : (sortedBy id byId.keys).foldlM
      (visit (dependenciesById byId) (byId.keys.length + 1)) ⟨[], []⟩ with
  | ok colours => exact iff_of_true rfl ⟨colours, rfl⟩
  | error error =>
      refine iff_of_false ?_ (by rintro ⟨_, ⟨⟩⟩)
      cases error with
      | fuel =>
          intro same
          cases same
      | cycle id =>
          intro empty
          exact absurd (String.append_eq_empty_iff.mp (Option.some.inj empty)).1 (by decide)

end Cycles

/-- Dependencies that pass the check are known ids. -/
theorem known_of_checked {byId : Dict String Json} (checked : checkDependencies byId = .ok ()) :
    ∀ id ∈ byId.keys, dependenciesById byId id ⊆ byId.keys := by
  intro id _ dependency depends
  unfold dependenciesById at depends
  cases found : byId.get? id with
  | none =>
      rw [found] at depends
      cases depends
  | some question =>
      rw [found] at depends
      have member := (byId.get?_eq_some_iff id question).mp found
      exact (checkDependencies_iff.mp checked id question member dependency depends).2

theorem validateQuestionGraph_some (questions : List Json) :
    ∃ message, validateQuestionGraph questions = some message := by
  unfold validateQuestionGraph
  cases questionsById questions with
  | error error => exact ⟨error, rfl⟩
  | ok byId =>
      dsimp only
      cases checked : checkDependencies byId with
      | error error => exact ⟨error, rfl⟩
      | ok done =>
          obtain ⟨message, passed⟩ := checkCycles_some (known_of_checked checked)
          exact ⟨message, passed⟩

theorem validateQuestionGraph_iff (questions : List Json) :
    validateQuestionGraph questions = some "" ↔ ValidGraph questions := by
  unfold validateQuestionGraph
  cases indexed : questionsById questions with
  | error error =>
      refine iff_of_false ?_ fun valid => ?_
      · exact fun empty => questionsById_error indexed (Option.some.inj empty)
      · have found := questionsById_iff.mpr ⟨valid.filled, valid.unique, rfl⟩
        cases indexed.symm.trans found
  | ok byId =>
      obtain ⟨filled, distinct, rfl⟩ := questionsById_iff.mp indexed
      have edges : DependsOn questions =
          Edge (dependenciesById (Dict.ofEntries (keyed questionId questions))) := by
        funext id dependency
        exact propext (edge_iff distinct id dependency).symm
      dsimp only
      cases checked : checkDependencies (Dict.ofEntries (keyed questionId questions)) with
      | error error =>
          refine iff_of_false ?_ fun valid => ?_
          · exact fun empty => checkDependencies_error checked (Option.some.inj empty)
          · have passes :
                checkDependencies (Dict.ofEntries (keyed questionId questions)) = .ok () := by
              rw [checkDependencies_iff]
              intro id question member dependency depends
              obtain ⟨inside, same⟩ := (get?_keyed distinct id question).mp
                ((Dict.get?_eq_some_iff _ _ _).mpr member)
              refine ⟨?_, (mem_keys_keyed questionId questions _).mpr
                (valid.known question inside dependency depends)⟩
              rintro rfl
              exact valid.acyclic dependency
                (Relation.TransGen.single ⟨question, inside, same, depends⟩)
            cases checked.symm.trans passes
      | ok done =>
          refine (checkCycles_iff (known_of_checked checked)).trans ?_
          constructor
          · intro acyclic
            refine ⟨filled, distinct, ?_, ?_⟩
            · intro question member dependency depends
              have entry := (Dict.get?_eq_some_iff _ _ _).mp
                ((get?_keyed distinct (questionId question) question).mpr ⟨member, rfl⟩)
              exact (mem_keys_keyed questionId questions _).mp
                (checkDependencies_iff.mp checked _ question entry dependency depends).2
            · rw [edges]
              exact acyclic
          · intro valid
            have acyclic := valid.acyclic
            rw [edges] at acyclic
            exact acyclic

/-- The id under which the frontier knows a question. -/
def recordId (record : Json) : String := record.textAt "question_id"

/-- A merged question of the list has the first id and points to the second one. -/
def MergesInto (records : List Json) (id target : String) : Prop :=
  ∃ record ∈ records, recordId record = id ∧ record.textAt "status" = "merged" ∧
    record.textAt "merged_into" = target

def Resolved (records : List Json) (id : String) : Prop :=
  ∃ record ∈ records, recordId record = id ∧ record.textAt "status" = "resolved"

/-- The merges lead from the id to a resolved question. -/
def LeadsToResolved (records : List Json) (id : String) : Prop :=
  ∃ last, Relation.ReflTransGen (MergesInto records) id last ∧ Resolved records last

/-- A question is ready when it is open and its dependencies are resolved, at
the latest where they were merged into. -/
def Ready (records : List Json) (record : Json) : Prop :=
  record.textAt "status" = "open" ∧
    ∀ dependency ∈ dependencies record, LeadsToResolved records dependency

section Settling

variable {records : List Json} (distinct : (records.map recordId).Nodup)

include distinct

theorem mergeLink_resolved_iff (id : String) :
    mergeLink (Dict.ofEntries (keyed recordId records)) id = .stop true ↔
      Resolved records id := by
  unfold mergeLink Resolved
  cases found : (Dict.ofEntries (keyed recordId records)).get? id with
  | none =>
      refine iff_of_false nofun ?_
      rintro ⟨record, member, same, _⟩
      cases found.symm.trans ((get?_keyed distinct id record).mpr ⟨member, same⟩)
  | some record =>
      obtain ⟨member, same⟩ := (get?_keyed distinct id record).mp found
      have only : (∃ other ∈ records, recordId other = id ∧ other.textAt "status" = "resolved") ↔
          record.textAt "status" = "resolved" := by
        constructor
        · rintro ⟨other, otherMember, otherSame, resolved⟩
          cases found.symm.trans ((get?_keyed distinct id other).mpr ⟨otherMember, otherSame⟩)
          exact resolved
        · intro resolved
          exact ⟨record, member, same, resolved⟩
      rw [only]
      dsimp only
      split
      · rename_i resolved
        exact iff_of_true rfl resolved
      rename_i unresolved
      refine iff_of_false ?_ unresolved
      split
      · exact nofun
      split
      · exact nofun
      · exact nofun

theorem mergeLink_follow_iff (id target : String) :
    mergeLink (Dict.ofEntries (keyed recordId records)) id = .follow target ↔
      MergesInto records id target ∧ target ≠ "" := by
  unfold mergeLink MergesInto
  cases found : (Dict.ofEntries (keyed recordId records)).get? id with
  | none =>
      refine iff_of_false nofun ?_
      rintro ⟨⟨record, member, same, _⟩, _⟩
      cases found.symm.trans ((get?_keyed distinct id record).mpr ⟨member, same⟩)
  | some record =>
      obtain ⟨member, same⟩ := (get?_keyed distinct id record).mp found
      have only : (∃ other ∈ records, recordId other = id ∧ other.textAt "status" = "merged" ∧
            other.textAt "merged_into" = target) ↔
          record.textAt "status" = "merged" ∧ record.textAt "merged_into" = target := by
        constructor
        · rintro ⟨other, otherMember, otherSame, merged⟩
          cases found.symm.trans ((get?_keyed distinct id other).mpr ⟨otherMember, otherSame⟩)
          exact merged
        · intro merged
          exact ⟨record, member, same, merged⟩
      rw [only]
      dsimp only
      split
      · rename_i resolved
        refine iff_of_false nofun fun both => ?_
        exact absurd (resolved.symm.trans both.1.1) (by decide)
      split
      · rename_i other
        exact iff_of_false nofun fun both => other both.1.1
      rename_i merged
      split
      · rename_i empty
        exact iff_of_false nofun fun both => both.2 (both.1.2.symm.trans empty)
      rename_i pointed
      constructor
      · intro follows
        cases follows
        exact ⟨⟨not_not.mp merged, rfl⟩, pointed⟩
      · rintro ⟨⟨_, rfl⟩, _⟩
        rfl

/-- A dependency is settled exactly when merges lead from it to a resolved question. -/
theorem dependencySettled_iff (filled : ∀ record ∈ records, recordId record ≠ "") (id : String) :
    dependencySettled (Dict.ofEntries (keyed recordId records)) id = true ↔
      LeadsToResolved records id := by
  have inside : ∀ {other}, Resolved records other ∨ (∃ target, MergesInto records other target) →
      other ∈ (Dict.ofEntries (keyed recordId records)).keys := by
    intro other present
    rw [mem_keys_keyed, List.mem_map]
    rcases present with ⟨record, member, same, _⟩ | ⟨_, record, member, same, _⟩
    · exact ⟨record, member, same⟩
    · exact ⟨record, member, same⟩
  have named : ∀ {other}, other ∈ (Dict.ofEntries (keyed recordId records)).keys → other ≠ "" := by
    intro other member
    obtain ⟨record, present, same⟩ := List.mem_map.mp ((mem_keys_keyed _ _ _).mp member)
    exact same ▸ filled record present
  refine (follow_iff nofun).trans ?_
  constructor
  · rintro ⟨last, chain, _, stops⟩
    refine ⟨last, Relation.ReflTransGen.mono (fun node other follows => ?_) _ _ chain, ?_⟩
    · exact ((mergeLink_follow_iff distinct node other).mp follows.2).1
    · exact (mergeLink_resolved_iff distinct last).mp stops
  · rintro ⟨last, chain, resolved⟩
    refine ⟨last, ?_, inside (Or.inl resolved), (mergeLink_resolved_iff distinct last).mpr resolved⟩
    induction chain using Relation.ReflTransGen.head_induction_on with
    | refl => exact Relation.ReflTransGen.refl
    | head step rest ih =>
        rename_i node other
        refine Relation.ReflTransGen.head ⟨inside (Or.inr ⟨other, step⟩), ?_⟩ ih
        refine (mergeLink_follow_iff distinct node other).mpr ⟨step, named (inside ?_)⟩
        rcases Relation.ReflTransGen.cases_head rest with rfl | ⟨further, next, _⟩
        · exact Or.inl resolved
        · exact Or.inr ⟨further, next⟩

end Settling

theorem threadQuestions_filled {channel : Json} {threadId : String} {records : List Json}
    (read : threadQuestions channel threadId = some records) :
    ∀ record ∈ records, recordId record ≠ "" := by
  unfold threadQuestions at read
  obtain ⟨items, _, rfl⟩ := Option.map_eq_some_iff.mp read
  intro record member
  rw [mem_sortedBy, List.mem_filter, Bool.and_eq_true] at member
  exact of_decide_eq_true member.2.2

theorem mem_questionFrontier_iff {channel : Json} {threadId : String} {records : List Json}
    (read : threadQuestions channel threadId = some records)
    (distinct : (records.map recordId).Nodup) :
    ∃ frontier, questionFrontier channel threadId = some frontier ∧
      ∀ record, record ∈ frontier ↔ record ∈ records ∧ Ready records record := by
  unfold questionFrontier
  rw [read]
  refine ⟨_, rfl, fun record => ?_⟩
  rw [mem_sortedBy, List.mem_filter, Bool.and_eq_true, decide_eq_true_eq, List.all_eq_true]
  refine and_congr_right fun _ => and_congr_right fun _ => forall₂_congr fun dependency _ => ?_
  exact dependencySettled_iff distinct (threadQuestions_filled read) dependency

/-- The validator accepts exactly the valid graphs, and the frontier of a thread
with distinct ids holds exactly its ready questions. -/
theorem question_graphs_well_founded :
    (∀ questions : List Json, (∃ message, validateQuestionGraph questions = some message) ∧
      (validateQuestionGraph questions = some "" ↔ ValidGraph questions)) ∧
    ∀ (channel : Json) (threadId : String) (records : List Json),
      threadQuestions channel threadId = some records → (records.map recordId).Nodup →
        ∃ frontier, questionFrontier channel threadId = some frontier ∧
          ∀ record, record ∈ frontier ↔ record ∈ records ∧ Ready records record :=
  ⟨fun questions => ⟨validateQuestionGraph_some questions, validateQuestionGraph_iff questions⟩,
    fun _ _ _ read distinct => mem_questionFrontier_iff read distinct⟩

def sampleQuestion (id status mergedInto : String) (dependsOn : List String) : Json :=
  .obj [("question_id", .str id), ("status", .str status), ("merged_into", .str mergedInto),
    ("depends_on", .arr (dependsOn.map Json.str))]

/-- A resolved question, two that were merged into each other, and two open ones. -/
def sampleQuestions : List Json :=
  [sampleQuestion "q1" "resolved" "" [], sampleQuestion "q2" "merged" "q1" [],
    sampleQuestion "q3" "merged" "q4" [], sampleQuestion "q4" "merged" "q3" [],
    sampleQuestion "q5" "open" "" ["q2"], sampleQuestion "q6" "open" "" ["q3"]]

theorem sample_frontier_ready :
    ∃ frontier,
      questionFrontier (.obj [("open_questions", .arr sampleQuestions)]) "main" = some frontier ∧
        ∀ record, record ∈ frontier ↔ record ∈ sampleQuestions ∧ Ready sampleQuestions record :=
  question_graphs_well_founded.2 _ "main" sampleQuestions (by decide +kernel) (by decide +kernel)

example : (questionFrontier (.obj [("open_questions", .arr sampleQuestions)]) "main").map
    (List.map recordId) = some ["q5"] := by
  decide +kernel

end ZaofuFormal.Channels
