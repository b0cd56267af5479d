import ZaofuFormal.Foundation.LockFile

/-!
# Session locks and file locks

Models of `zf/runtime/session_mutex.py` and `zf/core/state/locks.py`.  Both lock
a file behind a path; `SessionLock` fails at once when the file is locked and
removes the path on release, `FileLock` waits for the lock, or polls for it until
a deadline, and leaves the path in place.  The respawn lease takes a session lock
named after the role instance, so what holds of session locks holds of it.
-/

namespace ZaofuFormal.State

open Foundation Foundation.Runs Foundation.LockFile

/-- `SessionLock`: `LOCK_EX | LOCK_NB`, and `unlink` after `close`. -/
def sessionLock : Policy := ⟨false, true⟩

/-- `FileLock`: the lock file is intentionally left in place. -/
def fileLock : Policy := ⟨true, false⟩

namespace SessionLock

variable {ι : Type}

/-- The file-system steps of `__enter__`. -/
def enter (process : ι) : List (Action ι) := [.openPath process, .flock process]

/-- The steps of `__enter__` that raises `SessionLockBusy`. -/
def enterBusy (process : ι) : List (Action ι) := enter process ++ [.close process]

/-- The file-system steps of `__exit__`. -/
def exit (process : ι) : List (Action ι) := [.unlock process, .close process, .unlink process]

end SessionLock

variable {ι : Type} [DecidableEq ι]

/-- A session lock is held by at most one process in every state of a run whose
removals find no process that has the current lock file open for locking. -/
theorem session_lock_exclusive {actions : List (Action ι)}
    (guarded : Along (step sessionLock) Unengaged initial actions) :
    ∀ reached, reached <+: actions → (run (step sessionLock) initial reached).Exclusive := by
  rintro reached ⟨rest, rfl⟩
  exact exclusive_of_unengaged guarded.initial

/-- Two processes take the lock in turn; the second one is refused at first. -/
theorem session_lock_exclusive_in_turn :
    let actions := SessionLock.enter false ++ SessionLock.enterBusy true ++
      SessionLock.exit false ++ SessionLock.enter true
    (run (step sessionLock) initial actions).Holds true ∧
      ∀ reached, reached <+: actions →
        (run (step sessionLock) initial reached).Exclusive := by
  refine ⟨⟨1, by decide⟩, session_lock_exclusive ?_⟩
  refine ⟨trivial, trivial, trivial, trivial, trivial, trivial, trivial, ?_, trivial, trivial,
    trivial⟩
  rintro - other file - engaged
  cases other with
  | false => exact LockFile.State.not_engaged_of_apart .closed (by decide) trivial engaged
  | true => exact LockFile.State.not_engaged_of_apart .idle (by decide) trivial engaged

/-- The condition is the weakest one: the first removal that does not meet it
can be continued to a state with two holders. -/
theorem session_lock_lost {actions : List (Action ι)} {process : ι}
    (guarded : Along (step sessionLock) Unengaged initial actions)
    (engaged : ¬ Unengaged (run (step sessionLock) initial actions) (.unlink process)) :
    ∃ later, ¬ (run (step sessionLock) initial
      (actions ++ .unlink process :: later)).Exclusive := by
  simp only [Unengaged, not_forall] at engaged
  obtain ⟨closed, other, file, named, engaged⟩ := engaged
  obtain ⟨later, shared⟩ := exclusion_lost sessionLock
    (sound_of_unengaged guarded) closed named (not_not.mp engaged)
  exact ⟨later, by rwa [run_append]⟩

/-- The release of the first process removes the path while the second one holds
the lock of its file, and the third one locks a new file. -/
theorem session_lock_held_twice :
    let reached := run (step sessionLock) initial
      [.openPath 0, .flock 0, .openPath 1, .unlock 0, .flock 1, .close 0, .unlink 0,
        .openPath 2, .flock 2]
    reached.Holds 1 ∧ reached.Holds 2 ∧ ¬ reached.Exclusive := by
  have first : (run (step sessionLock) initial
      [.openPath 0, .flock 0, .openPath 1, .unlock 0, .flock 1, .close 0, .unlink 0,
        .openPath 2, .flock 2]).Holds 1 := ⟨0, by decide⟩
  have second : (run (step sessionLock) initial
      [.openPath 0, .flock 0, .openPath 1, .unlock 0, .flock 1, .close 0, .unlink 0,
        .openPath 2, .flock 2]).Holds 2 := ⟨1, by decide⟩
  exact ⟨first, second, fun exclusive => absurd (exclusive 1 2 first second) (by decide)⟩

/-- A file lock is held by at most one process in every state of every run. -/
theorem file_lock_exclusive (actions : List (Action ι)) :
    (run (step fileLock) initial actions).Exclusive :=
  exclusive_of_keeps rfl actions

end ZaofuFormal.State
