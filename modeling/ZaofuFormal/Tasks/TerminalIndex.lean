import ZaofuFormal.Foundation.Sorting
import ZaofuFormal.Tasks.Crash

/-!
# Rebuilding the terminal index

A rebuild scans every archive from the oldest on and gives each archived id the
last day that holds it.  It agrees with the index that the operations maintain
until a task is reopened: its record stays in the archive, its entry is removed.
-/

namespace ZaofuFormal.Tasks

open Foundation

/-- `str(record.get("id") or record.get("task_id") or "")`. -/
def archivedId (record : Record) : String :=
  if (record.get "id").truthy then (record.get "id").pyStr else (record.get "task_id").text

def indexDay (date : String) (index : Dict String String) (records : List Record) :
    Dict String String :=
  records.foldl (fun index record =>
    if archivedId record = "" then index else index.insert (archivedId record) date) index

def rebuiltIndex (disk : Disk) : Dict String String :=
  (archiveDays disk).foldl (fun index date => indexDay date index (archiveFile disk date))
    Dict.empty

def rebuildTerminalIndexFromArchive (disk : Disk) : Disk :=
  { disk with terminalIndex := rebuiltIndex disk }

/-- The archive of the day holds a record with the id. -/
def ArchivedOn (disk : Disk) (taskId date : String) : Prop :=
  taskId ≠ "" ∧ ∃ record ∈ archiveFile disk date, archivedId record = taskId

theorem get?_indexDay (date taskId : String) (index : Dict String String) (records : List Record) :
    ((indexDay date index records).get? taskId =
        some date ∧ taskId ≠ "" ∧ ∃ record ∈ records, archivedId record = taskId) ∨
      ((indexDay date index records).get? taskId = index.get? taskId ∧
        ¬(taskId ≠ "" ∧ ∃ record ∈ records, archivedId record = taskId)) := by
  induction records using List.reverseRecOn with
  | nil =>
      refine .inr ⟨rfl, ?_⟩
      rintro ⟨_, record, member, _⟩
      exact List.not_mem_nil member
  | append_singleton earlier record ih =>
      have last : indexDay date index (earlier ++ [record]) =
          if archivedId record = "" then indexDay date index earlier
          else (indexDay date index earlier).insert (archivedId record) date := by
        rw [indexDay, List.foldl_append]
        rfl
      rw [last]
      by_cases here : taskId ≠ "" ∧ archivedId record = taskId
      · obtain ⟨named, rfl⟩ := here
        left
        rw [if_neg named, Dict.get?_insert_self]
        exact ⟨rfl, named, record, List.mem_append_right _ (List.mem_singleton_self _), rfl⟩
      · have kept : (if archivedId record = "" then indexDay date index earlier
            else (indexDay date index earlier).insert (archivedId record) date).get? taskId =
            (indexDay date index earlier).get? taskId := by
          split
          case isTrue => rfl
          case isFalse named =>
            refine Dict.get?_insert_ne _ _ fun same => here ⟨?_, same.symm⟩
            exact same ▸ named
        have same : (taskId ≠ "" ∧ ∃ item ∈ earlier ++ [record], archivedId item = taskId) ↔
            (taskId ≠ "" ∧ ∃ item ∈ earlier, archivedId item = taskId) := by
          refine and_congr_right fun named => ⟨?_, ?_⟩
          · rintro ⟨item, member, hit⟩
            rcases List.mem_append.mp member with old | single
            · exact ⟨item, old, hit⟩
            · exact absurd ⟨named, List.mem_singleton.mp single ▸ hit⟩ here
          · rintro ⟨item, member, hit⟩
            exact ⟨item, List.mem_append_left _ member, hit⟩
        rw [kept, same]
        exact ih

/-- Over the first days, an id has the last of those that hold it. -/
theorem get?_foldl_indexDay (disk : Disk) (taskId : String) {days : List String}
    (sorted : days.Pairwise (· ≤ ·)) (date : String) :
    ((days.foldl (fun index day => indexDay day index (archiveFile disk day))
        Dict.empty).get? taskId = some date ↔
      date ∈ days ∧ ArchivedOn disk taskId date ∧
        ∀ day ∈ days, ArchivedOn disk taskId day → day ≤ date) := by
  induction days using List.reverseRecOn with
  | nil => simp [Dict.get?, Dict.empty, Dict.find]
  | append_singleton earlier last ih =>
      obtain ⟨earlierSorted, _, below⟩ := List.pairwise_append.mp sorted
      have top : ∀ day ∈ earlier, day ≤ last := fun day member =>
        below day member last (List.mem_singleton_self _)
      rw [List.foldl_append, List.foldl_cons, List.foldl_nil]
      rcases get?_indexDay last taskId (earlier.foldl (fun index day =>
        indexDay day index (archiveFile disk day)) Dict.empty) (archiveFile disk last) with
        ⟨found, archived⟩ | ⟨kept, notArchived⟩
      · rw [found]
        constructor
        · rintro ⟨rfl⟩
          refine ⟨List.mem_append_right _ (List.mem_singleton_self _), archived, ?_⟩
          intro day member _
          rcases List.mem_append.mp member with old | single
          · exact top day old
          · exact le_of_eq (List.mem_singleton.mp single)
        · rintro ⟨member, _, greatest⟩
          have above := greatest last (List.mem_append_right _ (List.mem_singleton_self _)) archived
          rcases List.mem_append.mp member with old | single
          · rw [le_antisymm (top date old) above]
          · rw [List.mem_singleton.mp single]
      · rw [kept, ih earlierSorted]
        constructor
        · rintro ⟨member, archived, greatest⟩
          refine ⟨List.mem_append_left _ member, archived, fun day inside held => ?_⟩
          rcases List.mem_append.mp inside with old | single
          · exact greatest day old held
          · exact absurd (List.mem_singleton.mp single ▸ held) notArchived
        · rintro ⟨member, archived, greatest⟩
          rcases List.mem_append.mp member with old | single
          · exact ⟨old, archived, fun day inside => greatest day (List.mem_append_left _ inside)⟩
          · exact absurd (List.mem_singleton.mp single ▸ archived) notArchived

theorem archiveDays_sorted (disk : Disk) : (archiveDays disk).Pairwise (· ≤ ·) := by
  rw [archiveDays, Dict.keys, List.pairwise_map]
  exact Sorting.sortedBy_pairwise Prod.fst disk.archives.entries

/-- A rebuilt entry is the last day that holds the id. -/
theorem get?_rebuiltIndex (disk : Disk) (taskId date : String) :
    (rebuiltIndex disk).get? taskId = some date ↔
      ArchivedOn disk taskId date ∧ ∀ day, ArchivedOn disk taskId day → day ≤ date := by
  rw [rebuiltIndex, get?_foldl_indexDay disk taskId (archiveDays_sorted disk) date]
  have listed : ∀ day, ArchivedOn disk taskId day → day ∈ archiveDays disk := by
    rintro day ⟨_, record, member, _⟩
    exact mem_archiveDays member
  constructor
  · rintro ⟨_, archived, greatest⟩
    exact ⟨archived, fun day held => greatest day (listed day held) held⟩
  · rintro ⟨archived, greatest⟩
    exact ⟨listed date archived, archived, fun day _ held => greatest day held⟩

variable {disk : Disk} {taskId : String}

theorem exists_rebuilt {day : String} (archived : ArchivedOn disk taskId day) :
    ∃ date, (rebuiltIndex disk).get? taskId = some date := by
  have listed : day ∈ archiveDays disk := by
    obtain ⟨_, record, member, _⟩ := archived
    exact mem_archiveDays member
  rw [rebuiltIndex]
  generalize archiveDays disk = days at listed
  induction days using List.reverseRecOn with
  | nil => exact absurd listed List.not_mem_nil
  | append_singleton earlier last ih =>
      rw [List.foldl_append, List.foldl_cons, List.foldl_nil]
      rcases get?_indexDay last taskId (earlier.foldl (fun index day =>
        indexDay day index (archiveFile disk day)) Dict.empty) (archiveFile disk last) with
        ⟨found, _⟩ | ⟨kept, notArchived⟩
      · exact ⟨last, found⟩
      · rw [kept]
        rcases List.mem_append.mp listed with old | single
        · exact ih old
        · exact absurd (List.mem_singleton.mp single ▸ archived) notArchived

/-- `for item in value`. -/
def iterate : Json → Except StoreError (List Json)
  | .arr items => .ok items
  | .str text => .ok (text.toList.map fun char => .str (String.ofList [char]))
  | .obj fields => .ok (fields.map fun field => .str field.1)
  | _ => .error (.type "object is not iterable")

/-- `all(item in known for item in items)`, where an item must be hashable. -/
def allKnown (known : Json → Bool) : List Json → Except StoreError Bool
  | [] => .ok true
  | item :: rest =>
      if !item.hashable then .error (.type "unhashable type")
      else if known item then allKnown known rest
      else .ok false

/-- The ids of the tasks on the board that have a terminal status. -/
def terminalActive : List Record → Except StoreError (List Json)
  | [] => .ok []
  | task :: rest => do
      let terminal ← inTerminalStates (task.get "status")
      let ids ← if terminal && !(task.get "id").hashable then
          .error (.type "unhashable type")
        else terminalActive rest
      return if terminal then task.get "id" :: ids else ids

def isReady (known : Json → Bool) (task : Record) : Except StoreError Bool :=
  if task.get "status" = .str "backlog" then do
    let blockers ← iterate (task.get "blocked_by")
    allKnown known blockers
  else .ok false

def indexKnows (index : Dict String String) : Json → Bool
  | .str taskId => index.contains taskId
  | _ => false

/-- Backlog tasks whose blockers are all terminal or archived. -/
def ready (clock : Clock) (disk : Disk) : Except StoreError (List Record) := do
  let tasks ← disk.active.mapM (toTask clock)
  let terminal ← terminalActive tasks
  tasks.filterM (isReady fun item =>
    decide (item ∈ terminal) || indexKnows disk.terminalIndex item)

theorem ready_congr (clock : Clock) (disk : Disk) {index : Dict String String}
    (same : ∀ taskId, index.get? taskId = disk.terminalIndex.get? taskId) :
    ready clock { disk with terminalIndex := index } = ready clock disk := by
  have known : indexKnows index = indexKnows disk.terminalIndex := by
    funext item
    cases item with
    | str taskId => rw [indexKnows, indexKnows, Dict.contains, Dict.contains, same taskId]
    | _ => rfl
  rw [ready, ready, known]

/-- The maintained index has the entries of a rebuild. -/
def Rebuildable (disk : Disk) : Prop :=
  ∀ taskId, (rebuiltIndex disk).get? taskId = disk.terminalIndex.get? taskId

/-- The update does not finish the task, or it archives it under its own id on a
day that is not before the one in the index. -/
def FinishesLater (disk : Disk) (clock : Clock) (taskId : String) (updates : Record) : Prop :=
  ∀ record ∈ disk.active.find? (hasId taskId),
    statusText (record.update updates) ∈ terminalStates →
      taskId ≠ "" ∧ KeepsId taskId updates ∧
        ∀ date ∈ disk.terminalIndex.get? taskId, date ≤ clock.today

/-- No archived task is reopened, and no task finishes before a day on which it
has finished already. -/
def Operation.KeepsArchived (disk : Disk) : Operation → Prop
  | .reopen task => disk.terminalIndex.get? task.id = none
  | .update clock taskId kwargs => FinishesLater disk clock taskId kwargs
  | .compareAndUpdateFields clock taskId _ updates => FinishesLater disk clock taskId updates
  | .compareAndUpdateContract _ request =>
      OnBoard request.taskId disk ∨ contractApplies request disk = false
  | _ => True

theorem archivedId_of_hasId {record : Record} (named : taskId ≠ "")
    (identified : hasId taskId record = true) : archivedId record = taskId := by
  rw [archivedId, (hasId_iff _ _).mp identified]
  simp [Json.truthy, named, Json.pyStr]

theorem archivedOn_retire {date : String} {changed : Record}
    (named : taskId ≠ "") (identified : hasId taskId changed = true) (rest : List Record)
    (other day : String) :
    ArchivedOn (retire disk taskId date changed rest) other day ↔
      ArchivedOn disk other day ∨ (other = taskId ∧ day = date) := by
  have own := archivedId_of_hasId named identified
  rw [ArchivedOn, ArchivedOn, archiveFile_retire]
  by_cases today : day = date
  · subst today
    rw [if_pos rfl]
    simp only [List.mem_append, List.mem_singleton]
    constructor
    · rintro ⟨nonempty, record, old | rfl, hit⟩
      · exact .inl ⟨nonempty, record, old, hit⟩
      · exact .inr ⟨hit.symm.trans own, trivial⟩
    · rintro (⟨nonempty, record, old, hit⟩ | ⟨rfl, _⟩)
      · exact ⟨nonempty, record, .inl old, hit⟩
      · exact ⟨named, changed, .inr rfl, own⟩
  · rw [if_neg today]
    simp [today]

theorem Rebuildable.retire {disk : Disk} (rebuildable : Rebuildable disk) {taskId date : String}
    {changed : Record} (named : taskId ≠ "") (identified : hasId taskId changed = true)
    (later : ∀ day ∈ disk.terminalIndex.get? taskId, day ≤ date) (rest : List Record) :
    Rebuildable (Tasks.retire disk taskId date changed rest) := by
  intro other
  have archived (other day : String) :
      ArchivedOn (Tasks.retire disk taskId date changed rest) other day ↔
        ArchivedOn disk other day ∨ (other = taskId ∧ day = date) :=
    archivedOn_retire named identified rest other day
  apply Option.ext
  intro day
  change _ ↔ (disk.terminalIndex.insert taskId date).get? other = some day
  rw [get?_rebuiltIndex, Dict.get?_insert]
  by_cases same : other = taskId
  · subst same
    rw [if_pos rfl, Option.some.injEq]
    -- The days that held the task so far are bounded by the entry of the index.
    have bounded : ∀ held, ArchivedOn disk other held → held ≤ date := by
      intro held inside
      obtain ⟨entry, found⟩ := exists_rebuilt inside
      have indexed : disk.terminalIndex.get? other = some entry := rebuildable other ▸ found
      exact le_trans (((get?_rebuiltIndex disk other entry).mp found).2 held inside)
        (later entry indexed)
    constructor
    · rintro ⟨held, greatest⟩
      refine le_antisymm (greatest date ((archived other date).mpr (.inr ⟨rfl, rfl⟩))) ?_
      rcases (archived other day).mp held with old | ⟨_, today⟩
      · exact bounded day old
      · exact le_of_eq today
    · rintro rfl
      refine ⟨(archived other date).mpr (.inr ⟨rfl, rfl⟩), fun held inside => ?_⟩
      rcases (archived other held).mp inside with old | ⟨_, today⟩
      · exact bounded held old
      · exact le_of_eq today
  · rw [if_neg same, ← rebuildable other, get?_rebuiltIndex]
    simp [archived, same]

theorem Rebuildable.congr {after : Disk} (rebuildable : Rebuildable disk)
    (archives : after.archives = disk.archives)
    (index : ∀ taskId, after.terminalIndex.get? taskId = disk.terminalIndex.get? taskId) :
    Rebuildable after := by
  intro taskId
  have same : rebuiltIndex after = rebuiltIndex disk := by
    simp only [rebuiltIndex, archiveDays, archiveFile, archives]
  rw [same, index taskId]
  exact rebuildable taskId

/-- An entry that is not there can be removed. -/
theorem get?_erase_absent {index : Dict String String}
    (absent : index.get? taskId = none) (other : String) :
    (index.erase taskId).get? other = index.get? other := by
  rw [Dict.get?_erase]
  split
  case isTrue same => rw [same, absent]
  case isFalse => rfl

theorem Rebuildable.step (rebuildable : Rebuildable disk) {operation : Operation}
    (keeps : operation.KeepsArchived disk) : Rebuildable (step disk operation) := by
  rw [← perform_writes]
  have effect := effect_writes disk operation
  generalize writes disk operation = performed at effect
  cases effect with
  | stay => exact rebuildable
  | rewrite located earlier selected changes => exact rebuildable.congr rfl fun _ => rfl
  | create creates => exact rebuildable.congr rfl fun _ => rfl
  | @retire before after record changed taskId date retires located earlier selected changes
      finished =>
      have found : disk.active.find? operation.selects = some record :=
        located ▸ find?_append_cons earlier selected
      cases changes with
      | update free =>
          cases retires
          obtain ⟨named, keepsId, later⟩ := keeps record found finished
          have sameId := update_id keepsId selected
          exact rebuildable.retire named ((hasId_iff _ _).mpr
            (sameId.trans ((hasId_iff _ _).mp selected))) later _
      | fields unprotected current =>
          cases retires
          obtain ⟨named, keepsId, later⟩ := keeps record found finished
          have sameId := update_id keepsId selected
          exact rebuildable.retire named ((hasId_iff _ _).mpr
            (sameId.trans ((hasId_iff _ _).mp selected))) later _
      | _ => cases retires
  | @reopen task reopens nonTerminal =>
      subst reopens
      rw [perform_reopenWrites, reopen, if_neg nonTerminal]
      exact rebuildable.congr rfl (get?_erase_absent keeps)
  | @reopenArchived clock request record updates absent archived applies changes =>
      subst updates
      rcases keeps with ⟨other, member, identified⟩ | refused
      · exact absurd identified (List.find?_eq_none.mp absent other member)
      · rw [applies] at refused
        cases refused

/-- As long as no archived task is reopened, a rebuild finds the index as the
operations have left it, and the same tasks are ready. -/
theorem rebuild_agrees {operations : List Operation}
    (keeps : Runs.Along step (fun disk operation => operation.KeepsArchived disk) Disk.empty
      operations) :
    (∀ taskId, (rebuildTerminalIndexFromArchive
        (Runs.run step Disk.empty operations)).terminalIndex.get? taskId =
      (Runs.run step Disk.empty operations).terminalIndex.get? taskId) ∧
    ∀ clock, ready clock (rebuildTerminalIndexFromArchive (Runs.run step Disk.empty operations)) =
      ready clock (Runs.run step Disk.empty operations) := by
  have rebuildable : Rebuildable (Runs.run step Disk.empty operations) :=
    keeps.invariant Rebuildable (fun _ _ held allowed => held.step allowed) fun _ => rfl
  exact ⟨rebuildable, fun clock => ready_congr clock _ rebuildable⟩

def dependentTask : Task :=
  { id := "T2", blockedBy := ["T1"], createdAt := "2026-07-09T08:00:00+00:00" }

/-- A task is finished while another one waits for it. -/
def finishedRun : List Operation := [.add firstTask, .add dependentTask, finishTask]

theorem finishedRun_rebuilt :
    ready sampleClock (rebuildTerminalIndexFromArchive (Runs.run step Disk.empty finishedRun)) =
      ready sampleClock (Runs.run step Disk.empty finishedRun) := by
  have first : FinishesLater (Runs.run step Disk.empty [.add firstTask, .add dependentTask])
      sampleClock "T1" (statusUpdate "done") := fun _ _ _ =>
    ⟨by decide, keepsId_statusUpdate "T1" "done", by decide +kernel⟩
  have keeps : Runs.Along step (fun disk operation => operation.KeepsArchived disk) Disk.empty
      finishedRun := ⟨trivial, trivial, first, trivial⟩
  exact (rebuild_agrees keeps).2 sampleClock

/-- Once the task is reopened, a rebuild takes it for finished. -/
theorem reopened_task_rebuilt :
    ¬∀ (operations : List Operation) (clock : Clock),
      (∀ taskId, (rebuildTerminalIndexFromArchive
          (Runs.run step Disk.empty operations)).terminalIndex.get? taskId =
        (Runs.run step Disk.empty operations).terminalIndex.get? taskId) ∧
      ready clock (rebuildTerminalIndexFromArchive (Runs.run step Disk.empty operations)) =
        ready clock (Runs.run step Disk.empty operations) := by
  intro claimed
  have same := (claimed (finishedRun ++ [.reopen firstTask]) sampleClock).1 "T1"
  revert same
  decide +kernel

end ZaofuFormal.Tasks
