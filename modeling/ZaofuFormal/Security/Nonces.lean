import Mathlib.Logic.Function.Basic
import ZaofuFormal.Foundation.Runs

/-!
# Single-use nonces

The file of an issued nonce lies in `unused/`, or at the root of the directory
when it was issued before that layout, and moves to `used/` when a call consumes
it.  A call takes several steps on the files: it looks for the file at both
places, checks that it exists, reads it, renames it and marks the renamed file.
Calls run side by side, and any other call may take its steps in between.
-/

namespace ZaofuFormal.Security.Nonces

open Foundation Foundation.Runs

structure NonceMeta where
  role : String
  issuedAt : Int
  used : Bool
  deriving DecidableEq

/-- What `json.loads` makes of the text of a file. -/
inductive Content where
  | decoded (value : NonceMeta)
  | undecodable
  deriving DecidableEq

/-- The places of a nonce that is not consumed. -/
inductive Place where
  | unused
  | legacy
  deriving DecidableEq

/-- The files of one nonce. -/
structure Files where
  unused : Option Content := none
  legacy : Option Content := none
  used : Option Content := none
  deriving DecidableEq

def Files.atPlace (files : Files) : Place → Option Content
  | .unused => files.unused
  | .legacy => files.legacy

def Files.remove (files : Files) : Place → Files
  | .unused => { files with unused := none }
  | .legacy => { files with legacy := none }

/-- Where a call of `validate_and_consume` stands. -/
inductive Phase where
  | idle
  | legacyCheck
  | sourceCheck (source : Place)
  | reading (source : Place)
  | checking (source : Place) (value : NonceMeta)
  | moving (source : Place) (value : NonceMeta)
  | marking (value : NonceMeta)
  | returned (accepted : Bool)
  | raised
  deriving DecidableEq

def issue (role : String) (now : Int) : Files where
  unused := some (.decoded ⟨role, now, false⟩)

/-- The next step of a call, and the phase behind it. -/
def advance (ttl now : Int) (files : Files) : Phase → Files × Phase
  | .idle =>
      (files, if files.unused.isSome then .sourceCheck .unused else .legacyCheck)
  | .legacyCheck =>
      (files, .sourceCheck (if files.legacy.isSome then .legacy else .unused))
  | .sourceCheck source =>
      (files, if (files.atPlace source).isSome then .reading source else .returned false)
  | .reading source =>
      match files.atPlace source with
      -- only a decoding error is caught
      | none => (files, .raised)
      | some .undecodable => (files, .returned false)
      | some (.decoded value) => (files, .checking source value)
  | .checking source value =>
      (files, if value.used ∨ ttl < now - value.issuedAt then .returned false
        else .moving source value)
  | .moving source value =>
      match files.atPlace source with
      | none => (files, .returned false)
      | some content => ({ files.remove source with used := some content }, .marking value)
  | .marking value =>
      ({ files with used := some (.decoded { value with used := true }) }, .returned true)
  | .returned accepted => (files, .returned accepted)
  | .raised => (files, .raised)

/-- The files of a nonce and the calls on it. -/
structure State (ι : Type) where
  files : Files
  phase : ι → Phase

/-- A call takes its next step; the clock is read at the given time. -/
structure Action (ι : Type) where
  call : ι
  now : Int

variable {ι : Type}

/-- No call has been made. -/
def start (files : Files) : State ι := ⟨files, fun _ => .idle⟩

def step [DecidableEq ι] (ttl : Int) (state : State ι) (action : Action ι) : State ι :=
  let next := advance ttl action.now state.files (state.phase action.call)
  ⟨next.1, Function.update state.phase action.call next.2⟩

/-- The call has not been made, or it has ended. -/
def Phase.Finished : Phase → Prop
  | .idle | .returned _ | .raised => True
  | _ => False

instance (phase : Phase) : Decidable phase.Finished := by
  cases phase <;> unfold Phase.Finished <;> infer_instance

/-- The call has renamed the file. -/
def Phase.Consumes : Phase → Prop
  | .marking _ | .returned true => True
  | _ => False

/-- One call has returned `True` and every other one that was made `False`. -/
def AcceptedOnce (state : State ι) : Prop :=
  ∃ winner, state.phase winner = .returned true ∧
    ∀ other, other ≠ winner → state.phase other = .idle ∨ state.phase other = .returned false

/-- The file of an unused nonce lies at one place only. -/
structure Issued (home : Place) (value : NonceMeta) (files : Files) : Prop where
  present : files.atPlace home = some (.decoded value)
  elsewhere : ∀ place, place ≠ home → files.atPlace place = none
  unused : value.used = false

theorem issued_issue (role : String) (now : Int) :
    Issued .unused ⟨role, now, false⟩ (issue role now) where
  present := rfl
  elsewhere place other := by
    cases place with
    | unused => exact absurd rfl other
    | legacy => rfl
  unused := rfl

/-- What the phase of a call says about the file at `home`. -/
def Phase.Sound (home : Place) (value : NonceMeta) (files : Files) : Phase → Prop
  | .idle | .legacyCheck => True
  | .sourceCheck source => source = home ∨ files.atPlace home = none
  | .reading source => source = home
  | .checking source seen | .moving source seen => source = home ∧ seen = value
  | .marking _ | .returned _ | .raised => files.atPlace home = none

theorem Phase.Sound.mono {home : Place} {value : NonceMeta} {files later : Files}
    {phase : Phase} (sound : phase.Sound home value files)
    (kept : files.atPlace home = none → later.atPlace home = none) :
    phase.Sound home value later := by
  cases phase with
  | idle | legacyCheck => exact True.intro
  | sourceCheck source => exact sound.imp_right kept
  | reading source | checking source seen | moving source seen => exact sound
  | marking seen | returned accepted | raised => exact kept sound

theorem absent_of_consumes {home : Place} {value : NonceMeta} {files : Files} {phase : Phase}
    (sound : phase.Sound home value files) (consumes : phase.Consumes) :
    files.atPlace home = none := by
  cases phase with
  | marking seen | returned accepted => exact sound
  | idle | legacyCheck | sourceCheck source | reading source | checking source seen
  | moving source seen | raised => exact consumes.elim

/-- The file is at `home` until one call renames it, and this call alone consumes it. -/
structure Tracks (home : Place) (value : NonceMeta) (state : State ι) : Prop where
  content : state.files.atPlace home = some (.decoded value) ∨ state.files.atPlace home = none
  elsewhere : ∀ place, place ≠ home → state.files.atPlace place = none
  sound : ∀ call, (state.phase call).Sound home value state.files
  consumer : state.files.atPlace home = none →
    ∃ winner, ∀ call, (state.phase call).Consumes ↔ call = winner

theorem tracks_start {home : Place} {value : NonceMeta} {files : Files}
    (issued : Issued home value files) : Tracks home value (start files : State ι) where
  content := Or.inl issued.present
  elsewhere := issued.elsewhere
  sound _ := True.intro
  consumer absent := by
    rw [start, issued.present] at absent
    cases absent

/-- The next step of the call renames the file. -/
def Phase.Renames (files : Files) : Phase → Prop
  | .moving source _ => files.atPlace source ≠ none
  | _ => False

instance (files : Files) (phase : Phase) : Decidable (phase.Renames files) := by
  cases phase <;> unfold Phase.Renames <;> infer_instance

section Advance

variable {ttl now : Int} {home : Place} {value : NonceMeta} {files : Files} {phase : Phase}

theorem at_remove (files : Files) (source place : Place) :
    (files.remove source).atPlace place = if place = source then none else files.atPlace place := by
  cases source <;> cases place <;> rfl

/-- Every other step leaves the file where it is. -/
theorem at_advance (kept : ¬phase.Renames files) (place : Place) :
    (advance ttl now files phase).1.atPlace place = files.atPlace place := by
  cases phase with
  | idle | legacyCheck | sourceCheck source | checking source seen | returned accepted | raised =>
      rfl
  | reading source =>
      unfold advance
      dsimp only
      split <;> rfl
  | moving source seen =>
      unfold advance
      dsimp only
      rw [not_not.mp kept]
  | marking seen => cases place <;> rfl

theorem at_advance_renames {source : Place} {seen : NonceMeta}
    (present : files.atPlace source ≠ none) (place : Place) :
    (advance ttl now files (.moving source seen)).1.atPlace place =
      if place = source then none else files.atPlace place := by
  obtain ⟨content, found⟩ := Option.ne_none_iff_exists'.mp present
  unfold advance
  dsimp only
  rw [found, ← at_remove]
  cases place <;> rfl

theorem consumes_advance :
    (advance ttl now files phase).2.Consumes ↔ phase.Consumes ∨ phase.Renames files := by
  cases phase with
  | idle | legacyCheck | sourceCheck source | checking source seen =>
      unfold advance
      dsimp only
      split <;> simp [Phase.Consumes, Phase.Renames]
  | reading source =>
      unfold advance
      dsimp only
      split <;> simp [Phase.Consumes, Phase.Renames]
  | moving source seen =>
      unfold advance
      cases found : files.atPlace source with
      | none => simp [Phase.Consumes, Phase.Renames, found]
      | some content => simp [Phase.Consumes, Phase.Renames, found]
  | marking seen => simp [advance, Phase.Consumes, Phase.Renames]
  | returned accepted => simp [advance, Phase.Renames]
  | raised => simp [advance, Phase.Renames]

/-- A call comes to read a file only where it is. -/
theorem present_of_reading {source : Place}
    (reads : (advance ttl now files phase).2 = .reading source) : files.atPlace source ≠ none := by
  cases phase with
  | idle | legacyCheck | checking place seen =>
      unfold advance at reads
      dsimp only at reads
      split at reads <;> cases reads
  | sourceCheck place =>
      unfold advance at reads
      dsimp only at reads
      split at reads
      · rename_i present
        cases reads
        exact Option.isSome_iff_ne_none.mp present
      · cases reads
  | reading place | moving place seen =>
      unfold advance at reads
      dsimp only at reads
      split at reads <;> cases reads
  | marking seen | returned accepted | raised => cases reads

/-- A call raises when it reads a file that is gone. -/
theorem raised_advance_iff :
    (advance ttl now files phase).2 = .raised ↔
      phase = .raised ∨ ∃ source, phase = .reading source ∧ files.atPlace source = none := by
  cases phase with
  | idle | legacyCheck | sourceCheck source | checking source seen =>
      unfold advance
      dsimp only
      split <;> simp
  | reading source =>
      unfold advance
      cases found : files.atPlace source with
      | none => simp [found]
      | some content => cases content <;> simp [found]
  | moving source seen =>
      unfold advance
      dsimp only
      split <;> simp
  | marking seen | returned accepted | raised => simp [advance]

/-- What a call knows stays true of it. -/
theorem sound_advance
    (content : files.atPlace home = some (.decoded value) ∨ files.atPlace home = none)
    (elsewhere : ∀ place, place ≠ home → files.atPlace place = none) (unused : value.used = false)
    (unexpired : now - value.issuedAt ≤ ttl) (sound : phase.Sound home value files) :
    (advance ttl now files phase).2.Sound home value (advance ttl now files phase).1 := by
  have only {source : Place} (present : files.atPlace source ≠ none) : source = home := by
    by_contra other
    exact present (elsewhere source other)
  have same (kept : ¬phase.Renames files) :
      (advance ttl now files phase).1.atPlace home = files.atPlace home := at_advance kept home
  cases phase with
  | idle =>
      unfold advance
      dsimp only
      split
      · rename_i present
        exact Or.inl (only (Option.isSome_iff_ne_none.mp present))
      · exact True.intro
  | legacyCheck =>
      unfold advance
      dsimp only
      split
      · rename_i present
        exact Or.inl (only (Option.isSome_iff_ne_none.mp present))
      · rename_i absent
        cases home with
        | unused => exact Or.inl rfl
        | legacy => exact Or.inr (Option.not_isSome_iff_eq_none.mp absent)
  | sourceCheck source =>
      unfold advance
      dsimp only
      split
      · rename_i present
        exact only (Option.isSome_iff_ne_none.mp present)
      · rename_i absent
        refine sound.elim (fun here => ?_) id
        rw [← here]
        exact Option.not_isSome_iff_eq_none.mp absent
  | reading source =>
      obtain rfl : source = home := sound
      unfold advance
      dsimp only
      rcases content with found | found
      · rw [found]
        exact ⟨rfl, rfl⟩
      · rw [found]
        exact found
  | checking source seen =>
      obtain ⟨rfl, rfl⟩ := sound
      unfold advance
      dsimp only
      rw [if_neg]
      · exact ⟨rfl, rfl⟩
      · rw [unused]
        rintro (impossible | expired)
        · cases impossible
        · omega
  | moving source seen =>
      obtain ⟨rfl, rfl⟩ := sound
      by_cases present : files.atPlace source ≠ none
      · have absent : (advance ttl now files (.moving source seen)).1.atPlace source = none :=
          (at_advance_renames present source).trans (if_pos rfl)
        obtain ⟨stored, found⟩ := Option.ne_none_iff_exists'.mp present
        have marking : (advance ttl now files (.moving source seen)).2 = .marking seen := by
          unfold advance
          dsimp only
          rw [found]
        rw [marking]
        exact absent
      · have gone := not_not.mp present
        unfold advance
        dsimp only
        rw [gone]
        exact gone
  | marking seen => exact (same id).trans sound
  | returned accepted => exact sound
  | raised => exact sound

end Advance

section Run

variable [DecidableEq ι] {ttl : Int} {home : Place} {value : NonceMeta} {state : State ι}
  {action : Action ι} {actions : List (Action ι)}

theorem phase_step_self (state : State ι) (action : Action ι) :
    (step ttl state action).phase action.call =
      (advance ttl action.now state.files (state.phase action.call)).2 := Function.update_self ..

theorem phase_step_of_ne (state : State ι) {action : Action ι} {call : ι}
    (other : call ≠ action.call) : (step ttl state action).phase call = state.phase call :=
  Function.update_of_ne other ..

theorem Tracks.step (tracks : Tracks home value state) (unused : value.used = false)
    (unexpired : action.now - value.issuedAt ≤ ttl) :
    Tracks home value (Nonces.step ttl state action) := by
  have own := sound_advance tracks.content tracks.elsewhere unused unexpired
    (tracks.sound action.call)
  by_cases renames : (state.phase action.call).Renames state.files
  · -- the file was there, so that no call has consumed it before
    have known := tracks.sound action.call
    cases here : state.phase action.call with
    | moving source seen =>
        rw [here] at renames known own
        obtain ⟨rfl, rfl⟩ := known
        have moved (place : Place) :
            (advance ttl action.now state.files (.moving source seen)).1.atPlace place =
              if place = source then none else state.files.atPlace place :=
          at_advance_renames renames place
        have absent : (Nonces.step ttl state action).files.atPlace source = none := by
          unfold Nonces.step
          rw [here]
          exact (moved source).trans (if_pos rfl)
        refine ⟨Or.inr absent, fun place other => ?_, fun call => ?_, fun _ => ⟨action.call, ?_⟩⟩
        · unfold Nonces.step
          rw [here]
          exact (moved place).trans ((if_neg other).trans (tracks.elsewhere place other))
        · by_cases same : call = action.call
          · rw [same, phase_step_self, here]
            unfold Nonces.step
            rw [here]
            exact own
          · rw [phase_step_of_ne state same]
            exact (tracks.sound call).mono fun _ => absent
        · intro call
          by_cases same : call = action.call
          · rw [same, phase_step_self, here, consumes_advance]
            exact iff_of_true (Or.inr renames) rfl
          · rw [phase_step_of_ne state same]
            refine iff_of_false (fun consumes => renames ?_) same
            exact absent_of_consumes (tracks.sound call) consumes
    | idle | legacyCheck | sourceCheck source | reading source | checking source seen
    | marking seen | returned accepted | raised =>
        rw [here] at renames
        exact renames.elim
  · have same (place : Place) : (Nonces.step ttl state action).files.atPlace place =
        state.files.atPlace place := at_advance renames place
    refine ⟨?_, fun place other => ?_, fun call => ?_, fun absent => ?_⟩
    · rw [same]
      exact tracks.content
    · rw [same]
      exact tracks.elsewhere place other
    · by_cases moved : call = action.call
      · rw [moved, phase_step_self]
        exact own
      · rw [phase_step_of_ne state moved]
        exact (tracks.sound call).mono (same home).trans
    · rw [same] at absent
      obtain ⟨winner, alone⟩ := tracks.consumer absent
      refine ⟨winner, fun call => ?_⟩
      by_cases moved : call = action.call
      · rw [moved, phase_step_self, consumes_advance, or_iff_left renames, alone]
      · rw [phase_step_of_ne state moved, alone]

theorem Tracks.run (tracks : Tracks home value state) (unused : value.used = false)
    (unexpired : ∀ action ∈ actions, action.now - value.issuedAt ≤ ttl) :
    Tracks home value (Runs.run (Nonces.step ttl) state actions) := by
  induction actions generalizing state with
  | nil => exact tracks
  | cons action rest ih =>
      obtain ⟨here, later⟩ := List.forall_mem_cons.mp unexpired
      exact ih (tracks.step unused here) later

/-- No call renames the file while another one is about to read it. -/
def Undisturbed (state : State ι) (action : Action ι) : Prop :=
  (state.phase action.call).Renames state.files →
    ∀ other source, state.phase other ≠ .reading source

/-- A call has raised, or is bound to raise. -/
def Lost (home : Place) (state : State ι) : Prop :=
  state.files.atPlace home = none ∧
    ∃ call, state.phase call = .raised ∨ state.phase call = .reading home

theorem atPlace_step_renames (tracks : Tracks home value state)
    (renames : (state.phase action.call).Renames state.files) :
    (Nonces.step ttl state action).files.atPlace home = none := by
  have known := tracks.sound action.call
  unfold Nonces.step
  cases here : state.phase action.call with
  | moving source seen =>
      rw [here] at renames known
      obtain ⟨rfl, rfl⟩ := known
      exact (at_advance_renames renames source).trans (if_pos rfl)
  | idle | legacyCheck | sourceCheck source | reading source | checking source seen
  | marking seen | returned accepted | raised =>
      rw [here] at renames
      exact renames.elim

omit [DecidableEq ι] in
theorem reading_home (tracks : Tracks home value state) {call : ι} {source : Place}
    (reads : state.phase call = .reading source) : source = home := by
  have known := tracks.sound call
  rw [reads] at known
  exact known

/-- A call that has raised, or is bound to, remains so. -/
theorem Lost.step (tracks : Tracks home value state) (lost : Lost home state) :
    Lost home (Nonces.step ttl state action) := by
  obtain ⟨absent, call, found⟩ := lost
  have kept : ¬(state.phase action.call).Renames state.files := by
    intro renames
    have known := tracks.sound action.call
    cases here : state.phase action.call with
    | moving source seen =>
        rw [here] at renames known
        exact renames (known.1 ▸ absent)
    | idle | legacyCheck | sourceCheck source | reading source | checking source seen
    | marking seen | returned accepted | raised =>
        rw [here] at renames
        exact renames.elim
  refine ⟨(at_advance kept home).trans absent, call, ?_⟩
  by_cases same : call = action.call
  · rw [same] at found ⊢
    left
    rw [phase_step_self, raised_advance_iff]
    exact found.imp_right fun reads => ⟨home, reads, absent⟩
  · rw [phase_step_of_ne state same]
    exact found

/-- A call is lost exactly when another one renames the file before it reads it. -/
theorem lost_step_iff (tracks : Tracks home value state) (unharmed : ¬Lost home state) :
    Lost home (Nonces.step ttl state action) ↔ ¬Undisturbed state action := by
  constructor
  · rintro ⟨absent, call, found⟩ undisturbed
    by_cases renames : (state.phase action.call).Renames state.files
    · by_cases same : call = action.call
      · have consumes : (advance ttl action.now state.files
            (state.phase action.call)).2.Consumes := consumes_advance.mpr (Or.inr renames)
        rw [← phase_step_self, ← same] at consumes
        rcases found with raised | reads
        · rw [raised] at consumes
          exact consumes
        · rw [reads] at consumes
          exact consumes
      · rw [phase_step_of_ne state same] at found
        rcases found with raised | reads
        · have gone := tracks.sound call
          rw [raised] at gone
          exact unharmed ⟨gone, call, Or.inl raised⟩
        · exact undisturbed renames call home reads
    · have before : state.files.atPlace home = none :=
        (at_advance renames home).symm.trans absent
      refine unharmed ⟨before, ?_⟩
      by_cases same : call = action.call
      · rw [same, phase_step_self] at found
        rcases found with raised | reads
        · rcases raised_advance_iff.mp raised with earlier | ⟨source, reads, _⟩
          · exact ⟨_, Or.inl earlier⟩
          · exact ⟨_, Or.inr (reading_home tracks reads ▸ reads)⟩
        · exact absurd before (present_of_reading reads)
      · rw [phase_step_of_ne state same] at found
        exact ⟨call, found⟩
  · intro disturbed
    simp only [Undisturbed, not_forall, not_not] at disturbed
    obtain ⟨renames, other, source, reads⟩ := disturbed
    refine ⟨atPlace_step_renames tracks renames, other, Or.inr ?_⟩
    have apart : other ≠ action.call := by
      rintro rfl
      rw [reads] at renames
      exact renames
    rw [phase_step_of_ne state apart, ← reading_home tracks reads]
    exact reads

theorem Lost.run (tracks : Tracks home value state) (unused : value.used = false)
    (unexpired : ∀ action ∈ actions, action.now - value.issuedAt ≤ ttl)
    (lost : Lost home state) : Lost home (Runs.run (Nonces.step ttl) state actions) := by
  induction actions generalizing state with
  | nil => exact lost
  | cons action rest ih =>
      obtain ⟨here, later⟩ := List.forall_mem_cons.mp unexpired
      exact ih (tracks.step unused here) later (lost.step tracks)

theorem along_undisturbed_iff (tracks : Tracks home value state) (unused : value.used = false)
    (unexpired : ∀ action ∈ actions, action.now - value.issuedAt ≤ ttl)
    (unharmed : ¬Lost home state) :
    Along (Nonces.step ttl) Undisturbed state actions ↔
      ¬Lost home (Runs.run (Nonces.step ttl) state actions) := by
  induction actions generalizing state with
  | nil => exact iff_of_true True.intro unharmed
  | cons action rest ih =>
      obtain ⟨here, later⟩ := List.forall_mem_cons.mp unexpired
      have next : Tracks home value (Nonces.step ttl state action) := tracks.step unused here
      by_cases undisturbed : Undisturbed state action
      · have still : ¬Lost home (Nonces.step ttl state action) := fun lost =>
          (lost_step_iff tracks unharmed).mp lost undisturbed
        rw [run_cons, ← ih next later still]
        exact and_iff_right undisturbed
      · have lost : Lost home (Nonces.step ttl state action) :=
          (lost_step_iff tracks unharmed).mpr undisturbed
        have lostLater := lost.run next unused later
        exact iff_of_false (fun along => undisturbed along.1) (not_not.mpr lostLater)

/-- When all calls have ended, one of them was accepted unless one has raised. -/
theorem acceptedOnce_iff (tracks : Tracks home value state)
    (finished : ∀ call, (state.phase call).Finished) (called : ∃ call, state.phase call ≠ .idle) :
    AcceptedOnce state ↔ ¬Lost home state := by
  constructor
  · rintro ⟨winner, accepted, others⟩ ⟨_, call, found⟩
    by_cases same : call = winner
    · rw [same, accepted] at found
      simp at found
    · rcases others call same with idle | refused
      · rw [idle] at found
        simp at found
      · rw [refused] at found
        simp at found
  · intro unharmed
    have absent : state.files.atPlace home = none := by
      obtain ⟨call, begun⟩ := called
      have known := tracks.sound call
      have ended := finished call
      cases here : state.phase call with
      | idle => exact absurd here begun
      | returned accepted | raised =>
          rw [here] at known
          exact known
      | legacyCheck | sourceCheck source | reading source | checking source seen
      | moving source seen | marking seen =>
          rw [here] at ended
          exact ended.elim
    obtain ⟨winner, alone⟩ := tracks.consumer absent
    refine ⟨winner, ?_, fun other apart => ?_⟩
    · have consumes := (alone winner).mpr rfl
      have ended := finished winner
      cases here : state.phase winner with
      | returned accepted =>
          cases accepted with
          | true => rfl
          | false =>
              rw [here] at consumes
              exact consumes.elim
      | marking seen =>
          rw [here] at ended
          exact ended.elim
      | idle | legacyCheck | sourceCheck source | reading source | checking source seen
      | moving source seen | raised =>
          rw [here] at consumes
          exact consumes.elim
    · have spared : ¬(state.phase other).Consumes := fun consumes =>
        apart ((alone other).mp consumes)
      have ended := finished other
      cases here : state.phase other with
      | idle => exact Or.inl rfl
      | returned accepted =>
          cases accepted with
          | true =>
              rw [here] at spared
              exact absurd True.intro spared
          | false => exact Or.inr rfl
      | raised => exact absurd ⟨absent, other, Or.inl here⟩ unharmed
      | legacyCheck | sourceCheck source | reading source | checking source seen
      | moving source seen | marking seen =>
          rw [here] at ended
          exact ended.elim

/-- Any number of interleaved calls on an unexpired nonce that have all ended
accept it once, and none of them raises, if and only if no call has renamed the
file between the existence check and the read of another one. -/
theorem nonce_accepted_once_iff {files : Files} (issued : Issued home value files)
    (unexpired : ∀ action ∈ actions, action.now - value.issuedAt ≤ ttl)
    (finished : ∀ call, ((Runs.run (Nonces.step ttl) (start files) actions).phase call).Finished)
    (called : ∃ call, (Runs.run (Nonces.step ttl) (start files) actions).phase call ≠ .idle) :
    AcceptedOnce (Runs.run (Nonces.step ttl) (start files) actions) ↔
      Along (Nonces.step ttl) Undisturbed (start files) actions := by
  have tracks : Tracks home value (start files : State ι) := tracks_start issued
  have unharmed : ¬Lost home (start files : State ι) := by
    rintro ⟨absent, _⟩
    rw [start, issued.present] at absent
    cases absent
  rw [acceptedOnce_iff (tracks.run issued.unused unexpired) finished called,
    along_undisturbed_iff tracks issued.unused unexpired unharmed]

end Run

/-- The steps of the two calls, in the order in which they are taken. -/
def interleaved (calls : List Bool) : List (Action Bool) := calls.map fun call => ⟨call, 1⟩

/-- The second call looks for the file when the first one has renamed it. -/
def inTurn : List (Action Bool) :=
  interleaved [false, false, false, false, false, true, true, true, false]

theorem nonce_accepted_in_turn :
    AcceptedOnce (run (step 300) (start (issue "dev" 0)) inTurn) := by
  have steps : Along (step 300) Undisturbed (start (issue "dev" 0)) inTurn := by
    refine ⟨nofun, nofun, nofun, nofun, fun _ other source => ?_, nofun, nofun, nofun, nofun,
      True.intro⟩
    cases other <;> cases source <;> decide
  refine (nonce_accepted_once_iff (issued_issue "dev" 0) ?_ ?_ ?_).mpr steps
  · decide
  · rintro (_ | _)
    · decide
    · decide
  · exact ⟨false, by decide⟩

/-- The second call has found the file when the first one renames it, and then
reads it. -/
theorem nonce_read_after_rename :
    let reached := run (step 300) (start (issue "dev" 0))
      (interleaved [true, true, false, false, false, false, false, false, true])
    (∀ call, (reached.phase call).Finished) ∧ reached.phase false = .returned true ∧
      reached.phase true = .raised ∧ ¬AcceptedOnce reached := by
  refine ⟨?_, by decide, by decide, ?_⟩
  · rintro (_ | _)
    · decide
    · decide
  · rintro ⟨winner, accepted, others⟩
    cases winner with
    | false => exact absurd (others true (by decide)) (by decide)
    | true => exact absurd accepted (by decide)

end ZaofuFormal.Security.Nonces
