import ZaofuFormal.Evolution.TrialStore

/-!
# Trials settle once

`Effect` lists what a call can do to the store.  Everything else is read off
that list: a settled or dead-lettered row never changes again, at most one
settlement of a trial is accepted, and it comes from the worker whose claim was
the last one granted.
-/

namespace ZaofuFormal.Evolution.TrialStore

open Foundation

/-- The answer and the new store of a call. -/
inductive Effect (env : Env) (data : StoreData) : Call → Answer → StoreData → Prop
  | raised (call : Call) (error : StoreError) : Effect env data call (.raised error) data
  | registered (call : RegisterAttempt) (row : Attempt) :
      Effect env data (.register call) (.registered row false) data
  | created (call : RegisterAttempt) (row : Attempt) (positive : 0 < row.maxTrialAttempts)
      (absent : data.attempts.get? call.attemptId = none) :
      Effect env data (.register call) (.registered row true)
        { data with
          revision := data.revision + 1
          attempts := data.attempts.insert call.attemptId row }
  | ensured (call : EnsureTrial) (row : Trial) :
      Effect env data (.ensure call) (.ensured row false) data
  | prepared (call : EnsureTrial) (key : String) (row : Trial) (parent : Attempt)
      (registered : data.attempts.get? row.attemptId = some parent)
      (absent : data.trials.get? key = none) (number : row.attemptNumber = 0)
      (fresh : row.acceptedSettlementId = "") (status : row.status = .prepared) :
      Effect env data (.ensure call) (.ensured row true) (data.saveTrial key row)
  | refused (call : ClaimTrial) (row : Trial) :
      Effect env data (.claim call) (.claimed row false) data
  | exhausted (call : ClaimTrial) (row : Trial)
      (found : data.trials.get? call.trialId = some row) (unsettled : row.status ≠ .settled)
      (live : row.status ≠ .deadLetter) :
      Effect env data (.claim call) (.claimed (row.exhaust call.now) false)
        (data.saveTrial call.trialId (row.exhaust call.now))
  | claimed (call : ClaimTrial) (row : Trial) (parent : Attempt)
      (found : data.trials.get? call.trialId = some row) (unsettled : row.status ≠ .settled)
      (live : row.status ≠ .deadLetter)
      (registered : data.attempts.get? row.attemptId = some parent)
      (within : (row.attemptNumber : Int) + 1 ≤ parent.maxTrialAttempts) :
      Effect env data (.claim call) (.claimed (row.claim call) true)
        (data.saveTrial call.trialId (row.claim call))
  | duplicate (call : SettleTrial) (row : Trial)
      (found : data.trials.get? call.trialId = some row) (accepted : row.acceptedSettlementId ≠ "")
      (same : row.acceptedSettlementId = settlementId env call) :
      Effect env data (.settle call) (.settled row .duplicate) data
  | stale (call : SettleTrial) (row : Trial)
      (found : data.trials.get? call.trialId = some row)
      (other : row.acceptedSettlementId = "" ∨ row.acceptedSettlementId ≠ settlementId env call) :
      Effect env data (.settle call) (.settled row .stale) data
  | reopened (call : SettleTrial) (row : Trial)
      (found : data.trials.get? call.trialId = some row) (fresh : row.acceptedSettlementId = "")
      (leased : row.LeasedTo call) :
      Effect env data (.settle call) (.settled (row.reopen call) .retryable)
        (data.saveTrial call.trialId (row.reopen call))
  | dead (call : SettleTrial) (row : Trial)
      (found : data.trials.get? call.trialId = some row) (fresh : row.acceptedSettlementId = "")
      (leased : row.LeasedTo call) :
      Effect env data (.settle call) (.settled (row.settleDead env call) .deadLetter)
        (data.saveTrial call.trialId (row.settleDead env call))
  | accepted (call : SettleTrial) (row : Trial)
      (found : data.trials.get? call.trialId = some row) (fresh : row.acceptedSettlementId = "")
      (leased : row.LeasedTo call) :
      Effect env data (.settle call) (.settled (row.settle env call) .accepted)
        (data.saveTrial call.trialId (row.settle env call))

theorem effect_register (env : Env) (data : StoreData) (call : RegisterAttempt) :
    Effect env data (.register call) (perform env data (.register call)).1
      (perform env data (.register call)).2 := by
  simp only [perform, registerAttempt]
  cases found : data.attempts.get? call.attemptId with
  | none => exact .created call _ call.positive found
  | some existing =>
      dsimp only
      split
      · exact .raised _ _
      · exact .registered call existing

theorem effect_ensure (env : Env) (data : StoreData) (call : EnsureTrial) :
    Effect env data (.ensure call) (perform env data (.ensure call)).1
      (perform env data (.ensure call)).2 := by
  simp only [perform, ensureTrial]
  by_cases arm : call.arm ∉ trialArms
  · rw [if_pos arm]
    exact .raised _ _
  by_cases replicate : call.replicate < 1
  · rw [if_neg arm, if_pos replicate]
    exact .raised _ _
  rw [if_neg arm, if_neg replicate]
  cases registered : data.attempts.get? call.attemptId with
  | none => exact .raised _ _
  | some parent =>
      rw [if_neg (by simp)]
      cases absent : data.trials.get? (trialId env call.attemptId call.arm call.replicate) with
      | some existing => exact .ensured call existing
      | none => exact .prepared call _ _ parent registered absent rfl rfl rfl

theorem effect_claim (env : Env) (data : StoreData) (call : ClaimTrial) :
    Effect env data (.claim call) (perform env data (.claim call)).1
      (perform env data (.claim call)).2 := by
  simp only [perform, claimTrial]
  by_cases owner : call.leaseOwner = ""
  · rw [if_pos owner]
    exact .raised _ _
  rw [if_neg owner]
  cases found : data.trials.get? call.trialId with
  | none => exact .raised _ _
  | some row =>
      dsimp only
      by_cases terminal : row.status = .settled ∨ row.status = .deadLetter
      · rw [if_pos terminal]
        exact .refused call row
      obtain ⟨unsettled, live⟩ := not_or.mp terminal
      rw [if_neg terminal]
      by_cases leased : row.status = .running ∧ isExpired env row.leaseExpiresAt call.now = false
      · rw [if_pos leased]
        exact .refused call row
      rw [if_neg leased]
      cases registered : data.attempts.get? row.attemptId with
      | none => exact .raised _ _
      | some parent =>
          dsimp only
          by_cases spent : parent.maxTrialAttempts < row.attemptNumber + 1
          · rw [if_pos spent]
            exact .exhausted call row found unsettled live
          rw [if_neg spent]
          by_cases final : row.status = .failed ∧ row.retryable ≠ some true
          · rw [if_pos final]
            exact .refused call row
          · rw [if_neg final]
            exact .claimed call row parent found unsettled live registered (not_lt.mp spent)

theorem effect_settle (env : Env) (data : StoreData) (call : SettleTrial) :
    Effect env data (.settle call) (perform env data (.settle call)).1
      (perform env data (.settle call)).2 := by
  simp only [perform, settleTrial]
  by_cases outcome : call.outcome ∉ trialOutcomes
  · rw [if_pos outcome]
    exact .raised _ _
  rw [if_neg outcome]
  cases found : data.trials.get? call.trialId with
  | none => exact .raised _ _
  | some row =>
      dsimp only
      by_cases fresh : row.acceptedSettlementId = ""
      · rw [if_neg (not_not.mpr fresh)]
        by_cases leased : row.LeasedTo call
        · rw [if_neg (not_not.mpr leased)]
          by_cases infrastructure : call.outcome = "infrastructure_failed"
          · rw [if_pos infrastructure]
            by_cases final : call.retryable = some false
            · rw [if_pos final]
              exact .dead call row found fresh leased
            · rw [if_neg final]
              exact .reopened call row found fresh leased
          · rw [if_neg infrastructure]
            exact .accepted call row found fresh leased
        · rw [if_pos leased]
          exact .stale call row found (Or.inl fresh)
      · rw [if_pos fresh]
        by_cases same : row.acceptedSettlementId = settlementId env call
        · rw [if_pos same]
          exact .duplicate call row found fresh same
        · rw [if_neg same]
          exact .stale call row found (Or.inr same)

theorem effect_perform (env : Env) (data : StoreData) (call : Call) :
    Effect env data call (perform env data call).1 (perform env data call).2 := by
  cases call with
  | register call => exact effect_register env data call
  | ensure call => exact effect_ensure env data call
  | claim call => exact effect_claim env data call
  | settle call => exact effect_settle env data call

@[simp] theorem saveTrial_attempts (data : StoreData) (key : String) (row : Trial) :
    (data.saveTrial key row).attempts = data.attempts := rfl

theorem get?_saveTrial (data : StoreData) (key other : String) (row : Trial) :
    (data.saveTrial key row).trials.get? other =
      if other = key then some row else data.trials.get? other :=
  Dict.get?_insert data.trials key other row

variable {key : String} {row : Trial} {settlement : SettleTrial}

/-- A row that is not the one written stays. -/
theorem get?_saveTrial_of_ne {data : StoreData} {saved : String} {old new : Trial}
    (found : data.trials.get? key = some row) (was : data.trials.get? saved = some old)
    (different : row ≠ old) : (data.saveTrial saved new).trials.get? key = some row := by
  have other : key ≠ saved := by
    rintro rfl
    exact different (Option.some.inj (found.symm.trans was))
  rw [get?_saveTrial, if_neg other, found]

def Trial.Terminal (row : Trial) : Prop := row.status = .settled ∨ row.status = .deadLetter

theorem Trial.LeasedTo.not_terminal {call : SettleTrial}
    (leased : row.LeasedTo call) : ¬row.Terminal := by
  rintro (settled | dead)
  · rw [leased.1] at settled
    cases settled
  · rw [leased.1] at dead
    cases dead

/-- A trial belongs to a registered attempt whose budget it keeps, and only a
terminal row carries an accepted settlement. -/
structure Fits (data : StoreData) (row : Trial) : Prop where
  bounded : ∃ parent, data.attempts.get? row.attemptId = some parent ∧
    (row.attemptNumber : Int) ≤ parent.maxTrialAttempts
  accepted : row.acceptedSettlementId ≠ "" → row.Terminal

structure Coherent (data : StoreData) : Prop where
  positive : ∀ attemptId parent, data.attempts.get? attemptId = some parent →
    0 < parent.maxTrialAttempts
  fits : ∀ key row, data.trials.get? key = some row → Fits data row

theorem coherent_empty : Coherent StoreData.empty where
  positive := fun _ _ found => by cases found
  fits := fun _ _ found => by cases found

/-- Writing a row that fits keeps a store coherent. -/
theorem Coherent.saveTrial {data : StoreData} (coherent : Coherent data) {key : String}
    {row : Trial} (fits : Fits data row) : Coherent (data.saveTrial key row) where
  positive := coherent.positive
  fits := by
    intro other found present
    rw [get?_saveTrial] at present
    split at present
    · obtain rfl := Option.some.inj present
      exact ⟨fits.bounded, fits.accepted⟩
    · have kept := coherent.fits other found present
      exact ⟨kept.bounded, kept.accepted⟩

theorem Fits.unaccepted {data : StoreData} (fits : Fits data row)
    (live : ¬row.Terminal) : row.acceptedSettlementId = "" := by
  by_contra accepted
  exact live (fits.accepted accepted)

variable {env : Env} {data next : StoreData} {call : Call} {answer : Answer}

theorem Effect.coherent (effect : Effect env data call answer next) (coherent : Coherent data) :
    Coherent next := by
  cases effect with
  | raised | registered | ensured | refused | duplicate | stale => exact coherent
  | created call row positive absent =>
      constructor
      · intro attemptId parent found
        rw [Dict.get?_insert] at found
        split at found
        · obtain rfl := Option.some.inj found
          exact positive
        · exact coherent.positive attemptId parent found
      · intro key trial found
        obtain ⟨⟨parent, registered, within⟩, accepted⟩ := coherent.fits key trial found
        refine ⟨⟨parent, ?_, within⟩, accepted⟩
        have other : trial.attemptId ≠ call.attemptId := by
          intro same
          rw [same, absent] at registered
          cases registered
        rw [Dict.get?_insert_ne _ _ other, registered]
  | prepared call key row parent registered absent number fresh status =>
      refine coherent.saveTrial ⟨⟨parent, registered, ?_⟩, fun accepted => absurd fresh accepted⟩
      rw [number]
      exact (coherent.positive _ _ registered).le
  | exhausted call row found unsettled live =>
      have fits := coherent.fits _ row found
      exact coherent.saveTrial ⟨fits.bounded, fun _ => Or.inr rfl⟩
  | claimed call row parent found unsettled live registered within =>
      have fits := coherent.fits _ row found
      refine coherent.saveTrial ⟨⟨parent, registered, ?_⟩, fun accepted => ?_⟩
      · exact_mod_cast within
      · exact absurd (fits.unaccepted (not_or.mpr ⟨unsettled, live⟩)) accepted
  | reopened call row found fresh leased =>
      exact coherent.saveTrial ⟨(coherent.fits _ row found).bounded,
        fun accepted => absurd fresh accepted⟩
  | dead call row found fresh leased =>
      exact coherent.saveTrial ⟨(coherent.fits _ row found).bounded, fun _ => Or.inr rfl⟩
  | accepted call row found fresh leased =>
      exact coherent.saveTrial ⟨(coherent.fits _ row found).bounded, fun _ => Or.inl rfl⟩

/-- No call changes a terminal row. -/
theorem Effect.terminal_kept (effect : Effect env data call answer next)
    (found : data.trials.get? key = some row) (terminal : row.Terminal) :
    next.trials.get? key = some row := by
  cases effect with
  | raised | registered | ensured | refused | duplicate | stale | created => exact found
  | prepared call saved trial parent registered absent number fresh status =>
      have other : key ≠ saved := by
        rintro rfl
        rw [absent] at found
        cases found
      rw [get?_saveTrial, if_neg other, found]
  | exhausted call old was unsettled live =>
      refine get?_saveTrial_of_ne found was ?_
      rintro rfl
      exact not_or.mpr ⟨unsettled, live⟩ terminal
  | claimed call old parent was unsettled live registered within =>
      refine get?_saveTrial_of_ne found was ?_
      rintro rfl
      exact not_or.mpr ⟨unsettled, live⟩ terminal
  | reopened call old was fresh leased | dead call old was fresh leased
  | accepted call old was fresh leased =>
      refine get?_saveTrial_of_ne found was ?_
      rintro rfl
      exact leased.not_terminal terminal

/-- A settlement of the trial was accepted. -/
def accepts (key : String) : Call × Answer → Bool
  | (.settle call, .settled _ verdict) =>
      call.trialId == key && (verdict == .accepted || verdict == .deadLetter)
  | _ => false

/-- A claim granted an attempt of the trial to a worker. -/
def Grants (key owner : String) (number : Nat) (item : Call × Answer) : Prop :=
  ∃ call row, item = (.claim call, .claimed row true) ∧ call.trialId = key ∧
    call.leaseOwner = owner ∧ row.attemptNumber = number

/-- The last claim that was granted for the trial gave this attempt to the worker. -/
def HoldsAttempt (env : Env) (calls : List Call) (key owner : String) (number : Nat) : Prop :=
  Since (fun _ => Grants key owner number)
    (fun _ item => ∀ other later, ¬Grants key other later item)
    (history env StoreData.empty calls)

theorem after_append (env : Env) (calls : List Call) (call : Call) :
    after env (calls ++ [call]) = (perform env (after env calls) call).2 := by
  rw [after, Runs.run_append]
  rfl

theorem history_append (env : Env) (data : StoreData) (calls : List Call) (call : Call) :
    history env data (calls ++ [call]) = history env data calls ++
      [(call, (perform env
        (Runs.run (fun data call => (perform env data call).2) data calls) call).1)] := by
  induction calls generalizing data with
  | nil => rfl
  | cons first rest ih => rw [List.cons_append, history, ih]; rfl

theorem history_after (env : Env) (calls : List Call) (call : Call) :
    history env StoreData.empty (calls ++ [call]) =
      history env StoreData.empty calls ++ [(call, answerTo env calls call)] :=
  history_append env StoreData.empty calls call

theorem effect_after (env : Env) (calls : List Call) (call : Call) :
    Effect env (after env calls) call (answerTo env calls call) (after env (calls ++ [call])) := by
  rw [after_append]
  exact effect_perform env (after env calls) call

theorem coherent_after (env : Env) (calls : List Call) : Coherent (after env calls) :=
  Runs.run_invariant Coherent
    (fun data call coherent => (effect_perform env data call).coherent coherent)
    coherent_empty calls

theorem terminal_after (env : Env) (calls more : List Call)
    (found : trialAfter env calls key = some row) (terminal : row.Terminal) :
    trialAfter env (calls ++ more) key = some row := by
  rw [trialAfter, after, Runs.run_append]
  exact Runs.run_invariant (fun data => data.trials.get? key = some row)
    (fun data call kept => (effect_perform env data call).terminal_kept kept terminal) found more

/-- The number of settlements that a row carries. -/
def settlements : Option Trial → Nat
  | some row => if row.acceptedSettlementId = "" then 0 else 1
  | none => 0

theorem settlementId_ne_empty (env : Env) (call : SettleTrial) : settlementId env call ≠ "" := by
  intro empty
  have chars := congrArg String.toList empty
  simp [settlementId] at chars

/-- Rewriting a row in place counts the settlement that it carries. -/
theorem settlements_saveTrial {saved : String} {new : Trial}
    (found : data.trials.get? saved = some row)
    (same : new.acceptedSettlementId = row.acceptedSettlementId) :
    settlements ((data.saveTrial saved new).trials.get? key) =
      settlements (data.trials.get? key) := by
  rw [get?_saveTrial]
  split
  · rename_i here
    rw [here, found, settlements, settlements, same]
  · rfl

theorem settlements_accepted {saved : String} {new : Trial}
    (found : data.trials.get? saved = some row) (fresh : row.acceptedSettlementId = "")
    (accepted : new.acceptedSettlementId ≠ "") :
    settlements ((data.saveTrial saved new).trials.get? key) =
      settlements (data.trials.get? key) + (saved == key).toNat := by
  rw [get?_saveTrial]
  by_cases here : key = saved
  · subst here
    rw [if_pos rfl, found, settlements, settlements, if_neg accepted, if_pos fresh]
    simp
  · have other : (saved == key) = false := by simpa using Ne.symm here
    rw [if_neg here, other]
    rfl

theorem Effect.settlements (effect : Effect env data call answer next) (key : String) :
    settlements (next.trials.get? key) =
      settlements (data.trials.get? key) + (accepts key (call, answer)).toNat := by
  cases effect with
  | raised call error => cases call <;> rfl
  | registered | ensured | refused | created => rfl
  | duplicate call | stale call => simp [accepts]
  | prepared call saved row parent registered absent number fresh status =>
      rw [get?_saveTrial]
      split
      · rename_i here
        rw [here, absent]
        simp [TrialStore.settlements, fresh, accepts]
      · rfl
  | exhausted call row found unsettled live => exact settlements_saveTrial found rfl
  | claimed call row parent found unsettled live registered within =>
      exact settlements_saveTrial found rfl
  | reopened call row found fresh leased =>
      rw [settlements_saveTrial found (by exact rfl)]
      simp [accepts]
  | dead call row found fresh leased =>
      rw [settlements_accepted found fresh (settlementId_ne_empty env call)]
      simp [accepts]
  | accepted call row found fresh leased =>
      rw [settlements_accepted found fresh (settlementId_ne_empty env call)]
      simp [accepts]

/-- The accepted settlements of a trial are counted by its row. -/
theorem countP_accepts (env : Env) (calls : List Call) (key : String) :
    (history env StoreData.empty calls).countP (accepts key) =
      settlements (trialAfter env calls key) := by
  induction calls using List.reverseRecOn with
  | nil => rfl
  | append_singleton calls call ih =>
      have grown := (effect_after env calls call).settlements key
      rw [history_after, List.countP_append, ih, List.countP_singleton]
      refine Eq.trans ?_ grown.symm
      cases accepts key (call, answerTo env calls call) <;> rfl

theorem Effect.grants (effect : Effect env data call answer next) {owner : String}
    {number : Nat} (grants : Grants key owner number (call, answer)) :
    ∃ claim row, call = .claim claim ∧ answer = .claimed (row.claim claim) true ∧
      data.trials.get? key = some row ∧ next.trials.get? key = some (row.claim claim) ∧
      owner = claim.leaseOwner ∧ number = row.attemptNumber + 1 := by
  obtain ⟨claim, row, same, trial, holder, count⟩ := grants
  cases effect with
  | claimed call old parent found unsettled live registered within =>
      injection same with callSame answerSame
      injection callSame with claimSame
      injection answerSame with rowSame
      subst claimSame rowSame trial
      refine ⟨call, old, rfl, rfl, found, ?_, holder.symm, count.symm⟩
      rw [get?_saveTrial, if_pos rfl]
  | raised | registered | created | ensured | prepared | refused | exhausted | duplicate | stale
  | reopened | dead | accepted => simp at same

/-- The row of a trial that is running was either running before, or a claim
was granted just now. -/
theorem Effect.running (effect : Effect env data call answer next)
    (found : next.trials.get? key = some row) (running : row.status = .running) :
    Grants key row.leaseOwner row.attemptNumber (call, answer) ∨
      (data.trials.get? key = some row ∧ ∀ other later, ¬Grants key other later (call, answer)) := by
  by_cases granted : ∃ other later, Grants key other later (call, answer)
  · obtain ⟨other, later, grants⟩ := granted
    obtain ⟨claim, old, -, -, -, written, rfl, rfl⟩ := effect.grants grants
    obtain rfl := Option.some.inj (found.symm.trans written)
    exact Or.inl grants
  · refine Or.inr ⟨?_, fun other later grants => granted ⟨other, later, grants⟩⟩
    cases effect with
    | raised | registered | ensured | refused | duplicate | stale | created => exact found
    | prepared call saved trial parent registered absent number fresh status =>
        rw [get?_saveTrial] at found
        split at found
        · obtain rfl := Option.some.inj found
          rw [status] at running
          cases running
        · exact found
    | claimed call old parent was unsettled live registered within =>
        have other : key ≠ call.trialId := by
          rintro rfl
          exact granted ⟨_, _, call, _, rfl, rfl, rfl, rfl⟩
        rwa [get?_saveTrial, if_neg other] at found
    | exhausted call old was | reopened call old was | dead call old was
    | accepted call old was =>
        rw [get?_saveTrial] at found
        split at found
        · obtain rfl := Option.some.inj found
          cases running
        · exact found

/-- A running trial is held by the worker that its row names. -/
theorem holdsAttempt_of_running (env : Env) (calls : List Call)
    (found : trialAfter env calls key = some row) (running : row.status = .running) :
    HoldsAttempt env calls key row.leaseOwner row.attemptNumber := by
  induction calls using List.reverseRecOn with
  | nil => cases found
  | append_singleton calls call ih =>
      rw [HoldsAttempt, history_after]
      rcases (effect_after env calls call).running found running with grants | ⟨kept, none⟩
      · exact .now grants
      · exact .later (ih kept) none

/-- Only a granted claim changes the attempt number of a trial. -/
theorem Effect.number_kept (effect : Effect env data call answer next)
    (found : data.trials.get? key = some row)
    (none : ∀ other later, ¬Grants key other later (call, answer)) :
    ∃ kept, next.trials.get? key = some kept ∧ kept.attemptNumber = row.attemptNumber := by
  cases effect with
  | raised | registered | ensured | refused | duplicate | stale | created =>
      exact ⟨row, found, rfl⟩
  | prepared call saved trial parent registered absent number fresh status =>
      have other : key ≠ saved := by
        rintro rfl
        rw [absent] at found
        cases found
      exact ⟨row, by rw [get?_saveTrial, if_neg other, found], rfl⟩
  | claimed call old parent was unsettled live registered within =>
      have other : key ≠ call.trialId := by
        rintro rfl
        exact none _ _ ⟨call, _, rfl, rfl, rfl, rfl⟩
      exact ⟨row, by rw [get?_saveTrial, if_neg other, found], rfl⟩
  | exhausted call old was | reopened call old was | dead call old was
  | accepted call old was =>
      rw [get?_saveTrial]
      split
      · rename_i here
        subst here
        obtain rfl := Option.some.inj (found.symm.trans was)
        exact ⟨_, rfl, rfl⟩
      · exact ⟨row, found, rfl⟩

/-- The answer accepts a settlement. -/
def Accepted : Answer → Prop
  | .settled _ verdict => verdict = .accepted ∨ verdict = .deadLetter
  | _ => False

/-- Two settlements are the same when their canonical texts are. -/
def SameSettlement (first second : SettleTrial) : Prop :=
  JsonText.dumps first.identity = JsonText.dumps second.identity

/-- The twenty digits tell the settlements of a run apart. -/
def CollisionFree (env : Env) (calls : List Call) : Prop :=
  ∀ first second, .settle first ∈ calls → .settle second ∈ calls →
    settlementId env first = settlementId env second → SameSettlement first second

theorem SameSettlement.settlementId_eq {first second : SettleTrial}
    (same : SameSettlement first second) (env : Env) :
    settlementId env first = settlementId env second := by
  rw [settlementId, settlementId, stableDigest, stableDigest, same]

/-- An accepted settlement came from the holder of the lease, and its id stands
in a row that is terminal from then on. -/
theorem Effect.accepted_inv
    (effect : Effect env data (.settle settlement) answer next) (accepted : Accepted answer) :
    ∃ row written, data.trials.get? settlement.trialId = some row ∧ row.LeasedTo settlement ∧
      next.trials.get? settlement.trialId = some written ∧ written.Terminal ∧
      written.acceptedSettlementId = settlementId env settlement := by
  cases effect with
  | raised => cases accepted
  | duplicate | stale | reopened => simp [Accepted] at accepted
  | dead call row found fresh leased =>
      refine ⟨row, row.settleDead env settlement, found, leased, ?_, Or.inr rfl, rfl⟩
      rw [get?_saveTrial, if_pos rfl]
  | accepted call row found fresh leased =>
      refine ⟨row, row.settle env settlement, found, leased, ?_, Or.inl rfl, rfl⟩
      rw [get?_saveTrial, if_pos rfl]

/-- A settlement of a trial that has an accepted one is answered by comparison
with it and changes nothing. -/
theorem settleTrial_of_accepted (supported : settlement.outcome ∈ trialOutcomes)
    (found : data.trials.get? settlement.trialId = some row)
    (accepted : row.acceptedSettlementId ≠ "") :
    perform env data (.settle settlement) =
      (.settled row (if row.acceptedSettlementId = settlementId env settlement then .duplicate
        else .stale), data) := by
  simp only [perform, settleTrial]
  rw [if_neg (not_not.mpr supported), found]
  dsimp only
  rw [if_pos accepted]
  rfl

/-- What a sequence of calls does to one trial. -/
structure SettlesOnce (env : Env) (calls : List Call) (key : String) : Prop where
  once : (history env StoreData.empty calls).countP (accepts key) ≤ 1
  byHolder : ∀ before settlement rest, calls = before ++ .settle settlement :: rest →
    settlement.trialId = key → Accepted (answerTo env before (.settle settlement)) →
    ∃ row, trialAfter env before key = some row ∧ row.status = .running ∧
      (row.attemptNumber : Int) = settlement.attemptNumber ∧
      HoldsAttempt env before key settlement.leaseOwner row.attemptNumber
  absorbing : ∀ before rest row, calls = before ++ rest → trialAfter env before key = some row →
    row.status = .settled ∨ row.status = .deadLetter ∨ row.acceptedSettlementId ≠ "" →
    trialAfter env calls key = some row
  claimed : ∀ before claim rest row, calls = before ++ .claim claim :: rest →
    claim.trialId = key → answerTo env before (.claim claim) = .claimed row true →
    ∃ old, trialAfter env before key = some old ∧
      trialAfter env (before ++ [.claim claim]) key = some row ∧
      row.attemptNumber = old.attemptNumber + 1
  unclaimed : ∀ before call rest row, calls = before ++ call :: rest →
    (∀ owner number, ¬Grants key owner number (call, answerTo env before call)) →
    trialAfter env before key = some row →
    ∃ kept, trialAfter env (before ++ [call]) key = some kept ∧
      kept.attemptNumber = row.attemptNumber
  bounded : ∀ before rest row, calls = before ++ rest → trialAfter env before key = some row →
    ∃ parent, (after env before).attempts.get? row.attemptId = some parent ∧
      (row.attemptNumber : Int) ≤ parent.maxTrialAttempts
  repeated : ∀ before settlement between later rest,
    calls = before ++ .settle settlement :: (between ++ .settle later :: rest) →
    settlement.trialId = key → later.trialId = key → later.outcome ∈ trialOutcomes →
    Accepted (answerTo env before (.settle settlement)) →
    ∃ row, trialAfter env (before ++ .settle settlement :: between) key = some row ∧
      (SameSettlement settlement later → perform env
        (after env (before ++ .settle settlement :: between)) (.settle later) =
          (.settled row .duplicate, after env (before ++ .settle settlement :: between))) ∧
      (¬SameSettlement settlement later → perform env
        (after env (before ++ .settle settlement :: between)) (.settle later) =
          (.settled row .stale, after env (before ++ .settle settlement :: between)))

theorem settlements_le_one (row : Option Trial) : settlements row ≤ 1 := by
  cases row with
  | none => exact Nat.zero_le 1
  | some row =>
      rw [settlements]
      split
      · exact Nat.zero_le 1
      · exact le_rfl

/-- The row that an accepted settlement leaves behind is there after every later call. -/
theorem accepted_after {before : List Call}
    (accepted : Accepted (answerTo env before (.settle settlement))) (between : List Call) :
    ∃ row, trialAfter env (before ++ .settle settlement :: between) settlement.trialId =
      some row ∧ row.acceptedSettlementId = settlementId env settlement := by
  obtain ⟨_, row, _, _, written, terminal, same⟩ :=
    (effect_after env before (.settle settlement)).accepted_inv accepted
  have kept : trialAfter env (before ++ [.settle settlement] ++ between) settlement.trialId =
      some row := terminal_after env _ between written terminal
  rw [List.append_assoc] at kept
  exact ⟨row, kept, same⟩

/-- In every sequence of calls of any number of workers a trial settles once. -/
theorem trials_settle_once (env : Env) (calls : List Call) (distinct : CollisionFree env calls)
    (key : String) : SettlesOnce env calls key where
  once := by
    rw [countP_accepts]
    exact settlements_le_one _
  byHolder := by
    rintro before settlement rest rfl rfl accepted
    obtain ⟨row, _, found, leased, _⟩ :=
      (effect_after env before (.settle settlement)).accepted_inv accepted
    refine ⟨row, found, leased.1, leased.2.2, ?_⟩
    rw [← leased.2.1]
    exact holdsAttempt_of_running env before found leased.1
  absorbing := by
    rintro before rest row rfl found (settled | dead | accepted)
    · exact terminal_after env before rest found (Or.inl settled)
    · exact terminal_after env before rest found (Or.inr dead)
    · have fits := (coherent_after env before).fits key row found
      exact terminal_after env before rest found (fits.accepted accepted)
  claimed := by
    rintro before claim rest row rfl rfl granted
    obtain ⟨other, old, same, answered, found, written, _, number⟩ :=
      (effect_after env before (.claim claim)).grants
        ⟨claim, row, congrArg _ granted, rfl, rfl, rfl⟩
    cases same
    rw [granted] at answered
    injection answered with rowSame
    exact ⟨old, found, rowSame ▸ written, number⟩
  unclaimed := by
    rintro before call rest row rfl none found
    exact (effect_after env before call).number_kept found none
  bounded := by
    rintro before rest row rfl found
    exact ((coherent_after env before).fits key row found).bounded
  repeated := by
    rintro before settlement between later rest rfl rfl sameTrial supported accepted
    obtain ⟨row, found, same⟩ := accepted_after accepted between
    rw [← sameTrial] at found
    have answered : perform env (after env (before ++ .settle settlement :: between))
        (.settle later) = _ :=
      settleTrial_of_accepted supported found (same ▸ settlementId_ne_empty env settlement)
    rw [sameTrial] at found
    refine ⟨row, found, fun repeats => ?_, fun differs => ?_⟩
    · rw [answered, same, if_pos (repeats.settlementId_eq env)]
    · rw [answered, same, if_neg]
      intro collision
      exact differs (distinct settlement later (by simp) (by simp) collision)

/-- A worker settles the only trial of an attempt, and another worker delivers
the same settlement again. -/
def sampleCalls : List Call :=
  let settlement : SettleTrial := {
    trialId := "evotrial-b10e557016c6ccbe6f07"
    leaseOwner := "worker-1"
    attemptNumber := 1
    outcome := "passed"
    settlementRef := []
    archiveRef := "archives/1"
    archiveDigest := "d1"
    costReceiptRefs := []
    failureClass := ""
    settledAt := "2025-01-01T00:05:00Z" }
  [.register ⟨"att-1", [], "key-1", 2, "2025-01-01T00:00:00Z", by decide⟩,
    .ensure ⟨"att-1", "candidate", 1, "2025-01-01T00:00:00Z"⟩,
    .claim ⟨settlement.trialId, "worker-1", "2025-01-01T00:01:00Z", "2025-01-01T00:02:00Z"⟩,
    .settle settlement,
    .settle { settlement with leaseOwner := "worker-2", settledAt := "2025-01-01T00:06:00Z" }]

/-- SHA-256 at the two texts that the sample calls digest; no lease is compared. -/
def sampleEnv : Env where
  sha256 := fun text => (Digest.tableDigest [
    ("\x7b\"arm\":\"candidate\",\"attempt_id\":\"att-1\",\"replicate\":1\x7d\n",
      "b10e557016c6ccbe6f0744998e81a50ba4b4f9d5172fc1f44b8a6f4f8ba146b0"),
    ("\x7b\"archive_digest\":\"d1\",\"archive_ref\":\"archives/1\",\"attempt_number\":1," ++
      "\"cost_receipt_refs\":[],\"failure_class\":\"\",\"outcome\":\"passed\"," ++
      "\"retryable\":null,\"settlement_ref\":\x7b\x7d," ++
      "\"trial_id\":\"evotrial-b10e557016c6ccbe6f07\"\x7d\n",
      "928b68a0964a0b8f13441068f46c39097922ee9b15ac829b39a633af3a9fc075")] (String.ofList text)).toList
  fromIsoFormat := fun _ => none

theorem sampleCalls_collisionFree : CollisionFree sampleEnv sampleCalls := by
  intro first second firstIn secondIn _
  simp only [sampleCalls, List.mem_cons, List.not_mem_nil, or_false, reduceCtorEq, false_or,
    Call.settle.injEq] at firstIn secondIn
  rcases firstIn with rfl | rfl <;> rcases secondIn with rfl | rfl <;> rfl

theorem repeated_settlement_once : CollisionFree sampleEnv sampleCalls ∧
    SettlesOnce sampleEnv sampleCalls "evotrial-b10e557016c6ccbe6f07" :=
  ⟨sampleCalls_collisionFree, trials_settle_once sampleEnv sampleCalls sampleCalls_collisionFree _⟩

end ZaofuFormal.Evolution.TrialStore
