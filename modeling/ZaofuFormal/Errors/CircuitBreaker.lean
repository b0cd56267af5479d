import Mathlib.Algebra.Order.Group.Defs
import Mathlib.Algebra.Order.Group.Int
import ZaofuFormal.Foundation.Dict
import ZaofuFormal.Foundation.Runs
import ZaofuFormal.Foundation.Windows

/-!
# The circuit breaker

One file holds a record for each breaker: the failures that were in the window
when the last one was recorded, and whether the breaker has tripped.  Failures
outside the window are dropped when one is recorded and left out when the state
is read.  The records are stored under the joined texts of the keys.
-/

namespace ZaofuFormal.Errors.CircuitBreaker

open Foundation Foundation.Windows

inductive CircuitState where
  | closed
  | open
  | halfOpen
  deriving DecidableEq

structure Key where
  first : String
  second : String
  deriving DecidableEq

/-- `_key_str`. -/
def Key.text (key : Key) : String := key.first ++ "::" ++ key.second

/-- The limits of a breaker. -/
structure Limits (T : Type) where
  maxFailures : Int
  window : T

structure Record (T : Type) where
  failures : List T
  trippedAt : Option T
  lastReason : String

/-- The file; a missing one reads as the empty one. -/
abbrev Store (T : Type) := Dict String (Record T)

/-- The operations, each with the readings of the clock that it takes in turn. -/
inductive Call (T : Type) where
  | recordFailure (key : Key) (reason : String) (recorded cutoffAt trippedAt : T)
  | recordSuccess (key : Key)
  | reset (key : Key)
  | state (key : Key) (cutoffAt agedAt : T)

def Call.key {T : Type} : Call T → Key
  | .recordFailure key _ _ _ _ => key
  | .recordSuccess key => key
  | .reset key => key
  | .state key _ _ => key

def Call.reads {T : Type} : Call T → List T
  | .recordFailure _ _ recorded cutoffAt trippedAt => [recorded, cutoffAt, trippedAt]
  | .recordSuccess _ | .reset _ => []
  | .state _ cutoffAt agedAt => [cutoffAt, agedAt]

section Operations

variable {T : Type} [LinearOrder T] [AddCommGroup T]

def emptyRecord : Record T := ⟨[], none, ""⟩

def recordAt (store : Store T) (key : Key) : Record T := (store.get? key.text).getD emptyRecord

def recordFailure (limits : Limits T) (store : Store T) (key : Key) (reason : String)
    (recorded cutoffAt trippedAt : T) : Store T :=
  let record := recordAt store key
  let failures := since (cutoffAt - limits.window) (record.failures ++ [recorded])
  store.insert key.text
    { failures := failures
      trippedAt := if limits.maxFailures ≤ failures.length then some trippedAt
        else record.trippedAt
      lastReason := reason }

def recordSuccess (store : Store T) (key : Key) : Store T :=
  if store.contains key.text then store.insert key.text emptyRecord else store

/-- `state`: the window is cut at one reading of the clock, the age of the last failure in it is
taken at the next. -/
def breakerState (limits : Limits T) (store : Store T) (key : Key) (cutoffAt agedAt : T) :
    CircuitState :=
  let record := recordAt store key
  if record.failures = [] then .closed
  else
    let recent := since (cutoffAt - limits.window) record.failures
    let lastInWindow := recent.getLast?.getD 0
    if limits.maxFailures ≤ recent.length ∧ agedAt - lastInWindow < limits.window then .open
    else if record.trippedAt.isSome ∧ recent = [] then .halfOpen
    else .closed

def step (limits : Key → Limits T) (store : Store T) : Call T → Store T
  | .recordFailure key reason recorded cutoffAt trippedAt =>
      recordFailure (limits key) store key reason recorded cutoffAt trippedAt
  | .recordSuccess key => recordSuccess store key
  | .reset key => store.erase key.text
  | .state _ _ _ => store

def run (limits : Key → Limits T) (calls : List (Call T)) : Store T :=
  Runs.run (step limits) Dict.empty calls

end Operations

section History

variable {T : Type} [LinearOrder T] [AddCommGroup T]

/-- The failures of a key since its last success or reset. -/
def extend (key : Key) (history : List T) : Call T → List T
  | .recordFailure other _ recorded _ _ => if other = key then history ++ [recorded] else history
  | .recordSuccess other | .reset other => if other = key then [] else history
  | .state _ _ _ => history

def history (key : Key) (calls : List (Call T)) : List T := calls.foldl (extend key) []

/-- The failures in the closed window that ends now. -/
def inWindow (limits : Limits T) (history : List T) (now : T) : List T :=
  history.filter fun failure => decide (now - limits.window ≤ failure ∧ failure ≤ now)

/-- Enough failures are in the window and the latest one is younger than the window. -/
def OpenAt (limits : Limits T) (history : List T) (now : T) : Prop :=
  limits.maxFailures ≤ (inWindow limits history now).length ∧
    ∃ latest, history.getLast? = some latest ∧ now - latest < limits.window

/-- Some failure was the last of enough failures in the window that ended with it. -/
def Completed (limits : Limits T) (history : List T) : Prop :=
  ∃ before failure after, history = before ++ failure :: after ∧
    limits.maxFailures ≤ (inWindow limits (before ++ [failure]) failure).length

def HalfOpenAt (limits : Limits T) (history : List T) (now : T) : Prop :=
  ¬OpenAt limits history now ∧ Completed limits history ∧ inWindow limits history now = []

/-- The state is the one that the full history gives. -/
structure StateOf (limits : Limits T) (history : List T) (now : T) (state : CircuitState) :
    Prop where
  isOpen : state = .open ↔ OpenAt limits history now
  isHalfOpen : state = .halfOpen ↔ HalfOpenAt limits history now

theorem not_completed_nil {limits : Limits T} : ¬Completed limits [] := by
  rintro ⟨before, failure, after, split, -⟩
  cases before <;> cases split

theorem completed_concat {limits : Limits T} {history : List T} {failure : T} :
    Completed limits (history ++ [failure]) ↔ Completed limits history ∨
      limits.maxFailures ≤ (inWindow limits (history ++ [failure]) failure).length := by
  constructor
  · rintro ⟨before, last, after, split, enough⟩
    rcases after.eq_nil_or_concat' with rfl | ⟨initial, final, rfl⟩
    · obtain ⟨rfl, same⟩ := List.append_inj' split rfl
      cases same
      exact .inr enough
    · rw [← List.cons_append, ← List.append_assoc] at split
      obtain ⟨rfl, -⟩ := List.append_inj' split rfl
      exact .inl ⟨before, last, initial, rfl, enough⟩
  · rintro (⟨before, last, after, rfl, enough⟩ | enough)
    · exact ⟨before, last, after ++ [failure], by simp, enough⟩
    · exact ⟨history, failure, [], rfl, enough⟩

/-- The window that ends now, when nothing lies after now. -/
theorem inWindow_eq {limits : Limits T} {history : List T} {now : T}
    (past : ∀ failure ∈ history, failure ≤ now) :
    inWindow limits history now = since (now - limits.window) history := by
  refine List.filter_congr fun failure member => ?_
  rw [decide_eq_decide]
  exact and_iff_left (past failure member)

end History

/-- A key without the separator in its parts. -/
def Key.Clean (key : Key) : Prop :=
  ¬[':', ':'] <:+: key.first.toList ∧ ¬[':', ':'] <:+: key.second.toList

/-- One first part ends with the colon that the other second part starts with. -/
def Key.Clashes (key other : Key) : Prop :=
  ∃ first second, (key = ⟨first ++ ":", second⟩ ∧ other = ⟨first, ":" ++ second⟩) ∨
    (other = ⟨first ++ ":", second⟩ ∧ key = ⟨first, ":" ++ second⟩)

/-- A text cut at the separator twice, with one colon between the cuts at most. -/
theorem colon_between {left right rest : List Char} {other : List Char}
    (clean : ¬[':', ':'] <:+: left ++ rest)
    (same : ':' :: ':' :: right = rest ++ ':' :: ':' :: other) :
    (rest = [] ∧ right = other) ∨ (rest = [':'] ∧ right = ':' :: other) := by
  rcases rest with _ | ⟨first, _ | ⟨second, tail⟩⟩
  · exact .inl ⟨rfl, by simpa using same⟩
  · obtain ⟨colon, next⟩ := List.cons.inj same
    subst colon
    exact .inr ⟨rfl, (List.cons.inj next).2⟩
  · obtain ⟨colon, next⟩ := List.cons.inj same
    obtain ⟨again, -⟩ := List.cons.inj next
    subst colon
    subst again
    exact absurd ⟨left, tail, by simp⟩ clean

theorem text_injective {key other : Key} (clean : key.Clean) (otherClean : other.Clean)
    (same : key.text = other.text) : key = other ∨ key.Clashes other := by
  have chars : key.first.toList ++ ':' :: ':' :: key.second.toList =
      other.first.toList ++ ':' :: ':' :: other.second.toList := by
    simpa [Key.text] using congrArg String.toList same
  have build {key : Key} {first second : String} (firstSame : key.first.toList = first.toList)
      (secondSame : key.second.toList = second.toList) : key = ⟨first, second⟩ := by
    obtain ⟨left, right⟩ := key
    have sameLeft : left = first := String.toList_inj.mp firstSame
    have sameRight : right = second := String.toList_inj.mp secondSame
    rw [sameLeft, sameRight]
  rcases List.append_eq_append_iff.mp chars with ⟨rest, longer, tail⟩ | ⟨rest, longer, tail⟩
  · rcases colon_between (longer ▸ otherClean.1) tail with ⟨rfl, second⟩ | ⟨rfl, second⟩
    · exact .inl (build (by simpa using longer.symm) second)
    · refine .inr ⟨key.first, other.second, .inr ⟨build ?_ rfl, build rfl ?_⟩⟩
      · rw [longer, String.toList_append]
        rfl
      · rw [second, String.toList_append]
        rfl
  · rcases colon_between (longer ▸ clean.1) tail with ⟨rfl, second⟩ | ⟨rfl, second⟩
    · exact .inl (build (by simpa using longer) second.symm)
    · refine .inr ⟨other.first, key.second, .inl ⟨build ?_ rfl, build rfl ?_⟩⟩
      · rw [longer, String.toList_append]
        rfl
      · rw [second, String.toList_append]
        rfl

section Records

variable {T : Type}

theorem recordAt_insert_self (store : Store T) (key : Key) (record : Record T) :
    recordAt (store.insert key.text record) key = record := by
  rw [recordAt, Dict.get?_insert_self, Option.getD_some]

theorem recordAt_success (store : Store T) (key : Key) :
    recordAt (recordSuccess store key) key = emptyRecord := by
  rw [recordSuccess]
  split
  · exact recordAt_insert_self store key emptyRecord
  · rename_i missing
    have none : store.get? key.text = none := Option.not_isSome_iff_eq_none.mp missing
    rw [recordAt, none, Option.getD_none]

theorem recordAt_reset (store : Store T) (key : Key) :
    recordAt (store.erase key.text) key = emptyRecord := by
  rw [recordAt, Dict.get?_erase, if_pos rfl, Option.getD_none]

theorem history_concat (key : Key) (before : List (Call T)) (call : Call T) :
    history key (before ++ [call]) = extend key (history key before) call := by
  rw [history, List.foldl_append, List.foldl_cons, List.foldl_nil, ← history]

variable [LinearOrder T] [AddCommGroup T]

/-- A call leaves the record of a key with another text as it is. -/
theorem recordAt_step_of_ne (limits : Key → Limits T) (store : Store T) {call : Call T} {key : Key}
    (other : key.text ≠ call.key.text) :
    recordAt (step limits store call) key = recordAt store key := by
  cases call with
  | recordFailure own reason recorded cutoffAt trippedAt =>
      exact congrArg (Option.getD · emptyRecord) (Dict.get?_insert_ne store _ other)
  | recordSuccess own =>
      rw [step, recordSuccess]
      split
      · exact congrArg (Option.getD · emptyRecord) (Dict.get?_insert_ne store _ other)
      · rfl
  | reset own =>
      exact congrArg (Option.getD · emptyRecord)
        ((Dict.get?_erase store _ _).trans (if_neg other))
  | state own cutoffAt agedAt => rfl

theorem run_concat (limits : Key → Limits T) (before : List (Call T)) (call : Call T) :
    run limits (before ++ [call]) = step limits (run limits before) call := by
  rw [run, Runs.run_append, Runs.run_cons, Runs.run_nil, ← run]

end Records

section Refinement

variable {T : Type} [LinearOrder T] [AddCommGroup T]

/-- No failure leaves the window between the readings of one call, and a failure is recorded
under a limit of one at least, or at a time and with a window that are not negative. -/
def Steady (limits : Key → Limits T) (before : List (Call T)) : Call T → Prop
  | .recordFailure key _ recorded cutoffAt _ =>
      (1 ≤ (limits key).maxFailures ∨ (0 ≤ (limits key).window ∧ 0 ≤ recorded)) ∧
      ∀ failure ∈ history key before ++ [recorded],
        recorded - (limits key).window ≤ failure → cutoffAt - (limits key).window ≤ failure
  | .state key cutoffAt agedAt =>
      ∀ latest, (history key before).getLast? = some latest →
        (agedAt - latest < (limits key).window ↔ cutoffAt - latest < (limits key).window)
  | .recordSuccess _ | .reset _ => True

/-- A steady call on a breaker that shares its text with no other one. -/
structure Meets (limits : Key → Limits T) (calls before : List (Call T)) (call : Call T) :
    Prop where
  apart : ∀ other ∈ calls, ¬call.key.Clashes other.key
  steady : Steady limits before call

/-- What the record keeps of the history, after the given readings of the clock. -/
structure Faithful (limits : Limits T) (reads history : List T) (record : Record T) : Prop where
  shown : ∀ now, (∀ read ∈ reads, read ≤ now) →
    since (now - limits.window) record.failures = since (now - limits.window) history
  tripped : record.trippedAt.isSome = true ↔ Completed limits history
  within : ∀ failure ∈ record.failures, failure ∈ history
  filled : record.failures = [] →
    ¬Completed limits history ∧ (limits.maxFailures < 1 → history = [])
  ascending : history.Pairwise (· ≤ ·)
  past : ∀ failure ∈ history, failure ∈ reads
  natural : limits.maxFailures < 1 → ∀ failure ∈ history, 0 ≤ limits.window ∧ 0 ≤ failure

theorem faithful_empty (limits : Limits T) (reads : List T) :
    Faithful limits reads [] emptyRecord where
  shown _ _ := rfl
  tripped := ⟨nofun, fun completed => absurd completed not_completed_nil⟩
  within _ none := absurd none List.not_mem_nil
  filled _ := ⟨not_completed_nil, fun _ => rfl⟩
  ascending := List.Pairwise.nil
  past _ none := absurd none List.not_mem_nil
  natural _ _ none := absurd none List.not_mem_nil

theorem Faithful.later {limits : Limits T} {reads times : List T} {record : Record T}
    (faithful : Faithful limits reads times record) (more : List T) :
    Faithful limits (reads ++ more) times record where
  shown now after := faithful.shown now fun read member => after read (List.mem_append_left _ member)
  tripped := faithful.tripped
  within := faithful.within
  filled := faithful.filled
  ascending := faithful.ascending
  past failure member := List.mem_append_left _ (faithful.past failure member)
  natural := faithful.natural

section Ordered

variable [IsOrderedAddMonoid T]

theorem inWindow_of_negative {limits : Limits T} (negative : limits.window < 0) (times : List T)
    (now : T) : inWindow limits times now = [] := by
  refine List.filter_eq_nil_iff.mpr fun failure _ => ?_
  rw [decide_eq_true_iff]
  rintro ⟨after, before⟩
  have beyond : now < now - limits.window :=
    lt_sub_iff_add_lt.mpr (add_lt_of_neg_right now negative)
  exact absurd (after.trans before) (not_le.mpr beyond)

/-- A recorded failure is kept, and what is dropped is in no later window. -/
theorem Faithful.recordFailure {limits : Limits T} {reads times : List T} {record : Record T}
    (faithful : Faithful limits reads times record) {recorded cutoffAt trippedAt : T}
    (clock : ∀ read ∈ reads, read ≤ recorded) (inOrder : recorded ≤ cutoffAt)
    (positive : 1 ≤ limits.maxFailures ∨ (0 ≤ limits.window ∧ 0 ≤ recorded))
    (steady : ∀ failure ∈ times ++ [recorded],
      recorded - limits.window ≤ failure → cutoffAt - limits.window ≤ failure)
    (reason : String) :
    Faithful limits (reads ++ [recorded, cutoffAt, trippedAt]) (times ++ [recorded])
      { failures := since (cutoffAt - limits.window) (record.failures ++ [recorded])
        trippedAt :=
          if limits.maxFailures ≤
              (since (cutoffAt - limits.window) (record.failures ++ [recorded])).length then
            some trippedAt
          else record.trippedAt
        lastReason := reason } := by
  have trimmed : since (cutoffAt - limits.window) (record.failures ++ [recorded]) =
      since (cutoffAt - limits.window) (times ++ [recorded]) := by
    rw [since_append, since_append, faithful.shown cutoffAt fun read member =>
      (clock read member).trans inOrder]
  have past : ∀ failure ∈ times ++ [recorded], failure ≤ recorded := by
    intro failure member
    rcases List.mem_append.mp member with earlier | last
    · exact clock failure (faithful.past failure earlier)
    · exact (List.mem_singleton.mp last).le
  -- the window that ends with the failure is the one that the call cuts
  have window : inWindow limits (times ++ [recorded]) recorded =
      since (cutoffAt - limits.window) (times ++ [recorded]) := by
    rw [inWindow_eq past]
    exact since_congr (sub_le_sub_right inOrder limits.window) steady
  have kept : 0 ≤ limits.window →
      since (cutoffAt - limits.window) (record.failures ++ [recorded]) ≠ [] := by
    intro wide none
    have own := steady recorded (List.mem_append_right _ List.mem_cons_self)
      (sub_le_self recorded wide)
    exact absurd own (not_le.mpr
      (since_eq_nil_iff.mp none recorded (List.mem_append_right _ List.mem_cons_self)))
  refine ⟨?_, ?_, ?_, ?_, ?_, ?_, ?_⟩
  · intro now after
    have afterCut : cutoffAt ≤ now :=
      after cutoffAt (List.mem_append_right _ (List.mem_cons_of_mem _ List.mem_cons_self))
    rw [trimmed]
    exact since_since (sub_le_sub_right afterCut limits.window) _
  · rw [completed_concat, window, ← trimmed, ← faithful.tripped]
    split
    · rename_i enough
      exact ⟨fun _ => .inr enough, fun _ => rfl⟩
    · rename_i few
      exact ⟨.inl, fun either => either.resolve_right few⟩
  · intro failure member
    rw [trimmed] at member
    exact (mem_since.mp member).1
  · intro none
    have negative : limits.window < 0 := not_le.mp fun wide => kept wide none
    have limit : 1 ≤ limits.maxFailures := positive.resolve_right fun wide =>
      absurd wide.1 (not_le.mpr negative)
    refine ⟨?_, fun low => absurd limit (not_le.mpr low)⟩
    rintro ⟨before, failure, after, -, enough⟩
    rw [inWindow_of_negative negative, List.length_nil] at enough
    omega
  · refine List.pairwise_append.mpr ⟨faithful.ascending, List.pairwise_singleton _ _, ?_⟩
    intro failure earlier last member
    rw [List.mem_singleton.mp member]
    exact past failure (List.mem_append_left _ earlier)
  · intro failure member
    rcases List.mem_append.mp member with earlier | last
    · exact List.mem_append_left _ (faithful.past failure earlier)
    · rw [List.mem_singleton.mp last]
      exact List.mem_append_right _ List.mem_cons_self
  · intro low failure member
    have wide := positive.resolve_left (not_le.mpr low)
    rcases List.mem_append.mp member with earlier | last
    · exact faithful.natural low failure earlier
    · rw [List.mem_singleton.mp last]
      exact wide

/-- One call keeps what the record of a key has of its history. -/
theorem faithful_step {limits : Key → Limits T} {calls before : List (Call T)} {call : Call T}
    {key : Key} (meets : Meets limits calls before call)
    (clock : ∀ read ∈ before.flatMap Call.reads, ∀ next ∈ call.reads, read ≤ next)
    (inOrder : call.reads.Pairwise (· ≤ ·)) (separate : key.text = call.key.text → key = call.key)
    (faithful : Faithful (limits key) (before.flatMap Call.reads) (history key before)
      (recordAt (run limits before) key)) :
    Faithful (limits key) ((before ++ [call]).flatMap Call.reads) (history key (before ++ [call]))
      (recordAt (run limits (before ++ [call])) key) := by
  rw [List.flatMap_append, List.flatMap_singleton, history_concat, run_concat]
  by_cases own : call.key = key
  · subst own
    cases call with
    | recordFailure key reason recorded cutoffAt trippedAt =>
        have ordered : recorded ≤ cutoffAt :=
          (List.pairwise_cons.mp inOrder).1 cutoffAt List.mem_cons_self
        obtain ⟨positive, steady⟩ := meets.steady
        have written : Faithful _ (_ ++ [recorded, cutoffAt, trippedAt]) _ _ :=
          faithful.recordFailure
            (fun read member => clock read member recorded List.mem_cons_self) ordered positive
            steady reason
        dsimp only [Call.key]
        rw [extend, if_pos rfl, step, CircuitBreaker.recordFailure, recordAt_insert_self]
        exact written
    | recordSuccess key =>
        dsimp only [Call.key]
        rw [extend, if_pos rfl, step, recordAt_success]
        exact faithful_empty _ _
    | reset key =>
        dsimp only [Call.key]
        rw [extend, if_pos rfl, step, recordAt_reset]
        exact faithful_empty _ _
    | state key cutoffAt agedAt => exact faithful.later _
  · have different : key.text ≠ call.key.text := fun same => own (separate same).symm
    have kept : extend key (history key before) call = history key before := by
      cases call with
      | recordFailure other reason recorded cutoffAt trippedAt => exact if_neg own
      | recordSuccess other | reset other => exact if_neg own
      | state other cutoffAt agedAt => rfl
    rw [kept, recordAt_step_of_ne limits _ different]
    exact faithful.later _

/-- What is read off a faithful record is what the history gives. -/
theorem stateOf_breakerState {limits : Limits T} {reads times : List T} {store : Store T}
    {key : Key} (faithful : Faithful limits reads times (recordAt store key)) {cutoffAt agedAt : T}
    (clock : ∀ read ∈ reads, read ≤ cutoffAt) (inOrder : cutoffAt ≤ agedAt)
    (steady : ∀ latest, times.getLast? = some latest →
      (agedAt - latest < limits.window ↔ cutoffAt - latest < limits.window)) :
    StateOf limits times cutoffAt (breakerState limits store key cutoffAt agedAt) := by
  have window : inWindow limits times cutoffAt =
      since (cutoffAt - limits.window) (recordAt store key).failures := by
    rw [inWindow_eq fun failure member => clock failure (faithful.past failure member),
      faithful.shown cutoffAt clock]
  unfold breakerState
  dsimp only
  split
  · rename_i none
    obtain ⟨notCompleted, noHistory⟩ := faithful.filled none
    refine ⟨⟨nofun, ?_⟩, ⟨nofun, fun half => absurd half.2.1 notCompleted⟩⟩
    rintro ⟨enough, latest, last, -⟩
    rw [window, none] at enough
    have low : limits.maxFailures < 1 := Int.lt_add_one_of_le enough
    rw [noHistory low] at last
    cases last
  · rename_i some
    obtain ⟨kept, others, shape⟩ := List.exists_cons_of_ne_nil some
    have opens : (limits.maxFailures ≤
          (since (cutoffAt - limits.window) (recordAt store key).failures).length ∧
        agedAt - (since (cutoffAt - limits.window) (recordAt store key).failures).getLast?.getD 0 <
          limits.window) ↔ OpenAt limits times cutoffAt := by
      rw [OpenAt, window]
      refine and_congr_right fun enough => ?_
      by_cases recent : since (cutoffAt - limits.window) (recordAt store key).failures = []
      · -- an empty window: the default age of the code is no younger than the window
        have older : ∀ failure ∈ times, failure < cutoffAt - limits.window := by
          rw [← since_eq_nil_iff, ← faithful.shown cutoffAt clock]
          exact recent
        have low : limits.maxFailures < 1 := by
          rw [recent] at enough
          exact Int.lt_add_one_of_le enough
        have member : kept ∈ times := faithful.within kept (shape ▸ List.mem_cons_self)
        have later : limits.window ≤ agedAt := by
          have natural := (faithful.natural low kept member).2
          have below := natural.trans_lt (older kept member)
          exact (sub_pos.mp below).le.trans inOrder
        rw [recent, List.getLast?_nil, Option.getD_none, sub_zero]
        refine iff_of_false (not_lt.mpr later) ?_
        rintro ⟨latest, last, young⟩
        have old := older latest (List.mem_of_getLast? last)
        exact absurd (sub_lt_comm.mp young) (not_lt.mpr old.le)
      · have filled : since (cutoffAt - limits.window) times ≠ [] := by
          rw [← faithful.shown cutoffAt clock]
          exact recent
        rw [faithful.shown cutoffAt clock, getLast?_since faithful.ascending filled]
        cases last : times.getLast? with
        | none =>
            rw [List.getLast?_eq_none_iff.mp last] at filled
            exact absurd rfl filled
        | some latest =>
            rw [Option.getD_some, steady latest last]
            exact ⟨fun young => ⟨latest, rfl, young⟩, fun ⟨_, same, young⟩ =>
              Option.some.inj same ▸ young⟩
    split
    · rename_i isOpen
      exact ⟨iff_of_true rfl (opens.mp isOpen), iff_of_false nofun fun half => half.1 (opens.mp isOpen)⟩
    · rename_i notOpen
      have shut : ¬OpenAt limits times cutoffAt := fun isOpen => notOpen (opens.mpr isOpen)
      split
      · rename_i half
        exact ⟨iff_of_false nofun shut,
          iff_of_true rfl ⟨shut, faithful.tripped.mp half.1, window.trans half.2⟩⟩
      · rename_i notHalf
        refine ⟨iff_of_false nofun shut, iff_of_false nofun fun half => notHalf ?_⟩
        exact ⟨faithful.tripped.mpr half.2.1, window.symm.trans half.2.2⟩

/-- In every run in which no two breakers share a text and no failure leaves the window within
one call, `state` gives the state of the full history of its key. -/
theorem trimming_lossless (limits : Key → Limits T) (calls : List (Call T))
    (clean : ∀ call ∈ calls, call.key.Clean)
    (clock : (calls.flatMap Call.reads).Pairwise (· ≤ ·))
    (meets : ∀ before call after, calls = before ++ call :: after →
      Meets limits calls before call)
    (before after : List (Call T)) (key : Key) (cutoffAt agedAt : T)
    (split : calls = before ++ .state key cutoffAt agedAt :: after) :
    StateOf (limits key) (history key before) cutoffAt
      (breakerState (limits key) (run limits before) key cutoffAt agedAt) := by
  have own : Call.state key cutoffAt agedAt ∈ calls :=
    split ▸ List.mem_append_right _ List.mem_cons_self
  have timed {earlier later : List (Call T)} {call : Call T}
      (cut : calls = earlier ++ call :: later) :
      (∀ read ∈ earlier.flatMap Call.reads, ∀ next ∈ call.reads, read ≤ next) ∧
        call.reads.Pairwise (· ≤ ·) := by
    rw [cut, List.flatMap_append, List.flatMap_cons] at clock
    obtain ⟨-, rest, across⟩ := List.pairwise_append.mp clock
    exact ⟨fun read member next nextMember => across read member next
      (List.mem_append_left _ nextMember), (List.pairwise_append.mp rest).1⟩
  -- on the calls made so far
  have faithful : ∀ earlier later, calls = earlier ++ later →
      Faithful (limits key) (earlier.flatMap Call.reads) (history key earlier)
        (recordAt (run limits earlier) key) := by
    intro earlier
    induction earlier using List.reverseRecOn with
    | nil => exact fun _ _ => faithful_empty _ _
    | append_singleton earlier call ih =>
        intro later cut
        rw [List.append_assoc, List.singleton_append] at cut
        have member : call ∈ calls := cut ▸ List.mem_append_right _ List.mem_cons_self
        have here := meets earlier call later cut
        have separate : key.text = call.key.text → key = call.key := by
          intro same
          rcases text_injective (clean _ member) (clean _ own) same.symm with equal | clash
          · exact equal.symm
          · exact absurd clash (here.apart _ own)
        exact faithful_step here (timed cut).1 (timed cut).2 separate (ih (call :: later) cut)
  have here := meets before _ after split
  obtain ⟨past, inOrder⟩ := timed split
  exact stateOf_breakerState (faithful before _ split)
    (fun read member => past read member cutoffAt List.mem_cons_self)
    ((List.pairwise_cons.mp inOrder).1 agedAt List.mem_cons_self)
    here.steady

end Ordered

end Refinement

def sampleLimits : Key → Limits Int := fun _ => ⟨1, 900⟩

/-- The third failure drops the first one; then two looks at the breaker, within the window and
behind it. -/
def sampleCalls : List (Call Int) :=
  [.recordFailure ⟨"dev", "T1"⟩ "timeout" 10 10 10, .recordFailure ⟨"dev", "T1"⟩ "timeout" 100 100 100,
    .recordFailure ⟨"dev", "T1"⟩ "timeout" 950 950 950, .state ⟨"dev", "T1"⟩ 960 960,
    .state ⟨"dev", "T1"⟩ 2000 2000]

theorem sample_half_open :
    (recordAt (run sampleLimits (sampleCalls.take 4)) ⟨"dev", "T1"⟩).failures = [100, 950] ∧
      StateOf (sampleLimits ⟨"dev", "T1"⟩) [10, 100, 950] 2000
        (breakerState (sampleLimits ⟨"dev", "T1"⟩) (run sampleLimits (sampleCalls.take 4))
          ⟨"dev", "T1"⟩ 2000 2000) := by
  have keys : ∀ call ∈ sampleCalls, call.key = ⟨"dev", "T1"⟩ := by decide
  have apart : ¬Key.Clashes ⟨"dev", "T1"⟩ ⟨"dev", "T1"⟩ := by
    rintro ⟨first, second, ⟨left, right⟩ | ⟨left, right⟩⟩
    all_goals
      have longer := congrArg (fun key : Key => key.first.length) left
      have shorter := congrArg (fun key : Key => key.first.length) right
      simp only [String.length_append] at longer shorter
      exact absurd (longer.symm.trans shorter) (by simp)
  refine ⟨by decide +kernel, trimming_lossless sampleLimits sampleCalls ?_ (by decide) ?_
    (sampleCalls.take 4) [] ⟨"dev", "T1"⟩ 2000 2000 rfl⟩
  · intro call member
    rw [keys call member]
    exact ⟨by decide, by decide⟩
  · intro before call after cut
    have member : call ∈ sampleCalls := cut ▸ List.mem_append_right _ List.mem_cons_self
    refine ⟨fun other otherMember => ?_, ?_⟩
    · rw [keys call member, keys other otherMember]
      exact apart
    · simp only [sampleCalls, List.mem_cons, List.not_mem_nil, or_false] at member
      rcases member with rfl | rfl | rfl | rfl | rfl
      · exact ⟨.inl (le_refl 1), fun failure _ inside => inside⟩
      · exact ⟨.inl (le_refl 1), fun failure _ inside => inside⟩
      · exact ⟨.inl (le_refl 1), fun failure _ inside => inside⟩
      · exact fun latest _ => Iff.rfl
      · exact fun latest _ => Iff.rfl

/-- A failure of one key opens the breaker of another one without failures: the parts hold no
separator, and yet their texts are one. -/
theorem failure_of_other_key :
    (run sampleLimits [.recordFailure ⟨"a:", "b"⟩ "timeout" 10 10 10]).keys = ["a:::b"] ∧
      breakerState (sampleLimits ⟨"a", ":b"⟩)
          (run sampleLimits [.recordFailure ⟨"a:", "b"⟩ "timeout" 10 10 10]) ⟨"a", ":b"⟩ 20 20 =
        .open ∧
      (history ⟨"a", ":b"⟩ [.recordFailure ⟨"a:", "b"⟩ "timeout" 10 10 10] : List Int) = [] ∧
      (⟨"a:", "b"⟩ : Key).Clean ∧ (⟨"a", ":b"⟩ : Key).Clean := by
  refine ⟨by decide +kernel, by decide +kernel, by decide, ⟨by decide, by decide⟩,
    ⟨by decide, by decide⟩⟩

end ZaofuFormal.Errors.CircuitBreaker
