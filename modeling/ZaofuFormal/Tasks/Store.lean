import ZaofuFormal.Tasks.Schema

/-!
# The task store

`kanban.json` holds the active tasks, one archive file per day holds the tasks
that became terminal on it, and the terminal index maps the id of an archived
task to its day.  An operation returns its outcome together with the three
files it leaves behind.  It works on the loaded list in memory, so that an
exception before the first write leaves the files as they were.
-/

namespace ZaofuFormal.Tasks

open Foundation

structure Disk where
  active : List Record
  archives : Dict String (List Record)
  terminalIndex : Dict String String
  deriving DecidableEq

def Disk.empty : Disk := ⟨[], Dict.empty, Dict.empty⟩

def terminalStates : List String := ["done", "cancelled"]

/-- `str(record.get("status") or "")`. -/
def statusText (record : Record) : String := (record.get "status").text

/-- `status in TERMINAL_STATES`, which raises for a value that cannot be hashed. -/
def inTerminalStates (status : Json) : Except StoreError Bool :=
  if !status.hashable then .error (.type "unhashable type")
  else .ok (decide (status ∈ terminalStates.map Json.str))

/-- Split a list at its first record that satisfies a test. -/
def locate (test : Record → Bool) : List Record → Option (List Record × Record × List Record)
  | [] => none
  | record :: rest =>
      if test record then some ([], record, rest)
      else (locate test rest).map fun found => (record :: found.1, found.2)

def hasId (taskId : String) (record : Record) : Bool := record.get "id" == .str taskId

def archiveFile (disk : Disk) (date : String) : List Record := (disk.archives.get? date).getD []

/-- Archive a record, index its id and take it off the board. -/
def retire (disk : Disk) (taskId date : String) (record : Record) (rest : List Record) : Disk where
  active := rest
  archives := disk.archives.insert date (archiveFile disk date ++ [record])
  terminalIndex := disk.terminalIndex.insert taskId date

/-- Archive days from the oldest on. -/
def archiveDays (disk : Disk) : List String := disk.archives.sortKeys.keys

def get (clock : Clock) (taskId : String) (disk : Disk) : Except StoreError (Option Record) :=
  match disk.active.find? (hasId taskId) with
  | some record => (toTask clock record).map some
  | none =>
      let indexed := (disk.terminalIndex.get? taskId).bind fun date =>
        (archiveFile disk date).find? (hasId taskId)
      match indexed.or ((archiveDays disk).findSome? fun date =>
          (archiveFile disk date).find? (hasId taskId)) with
      | some record => (toTask clock record).map some
      | none => .ok none

/-- The ids of the loaded records, as a set is built from them. -/
def loadedIds : List Record → Except StoreError (List Json)
  | [] => .ok []
  | record :: rest =>
      match record.get? "id" with
      | none => .error (.key "id")
      | some id =>
          if !id.hashable then .error (.type "unhashable type")
          else (loadedIds rest).map fun ids => id :: ids

def add (task : Task) (disk : Disk) : Except StoreError Task × Disk :=
  match loadedIds disk.active with
  | .error error => (.error error, disk)
  | .ok existingIds =>
      match task.blockedBy.find? fun ref =>
          !decide (Json.str ref ∈ existingIds) && !disk.terminalIndex.contains ref with
      | some ref => (.error (.value ("blocked_by reference not found: " ++ ref)), disk)
      | none => (.ok task, { disk with active := disk.active ++ [asdict task] })

/-- Append the tasks whose id is not known yet; the others are skipped. -/
def appendNew (terminalIndex : Dict String String) (raw : List Record)
    (existingIds : List String) : List Task → List Record × List String × List String
  | [] => (raw, [], [])
  | task :: rest =>
      if task.id ∈ existingIds ∨ terminalIndex.contains task.id then
        let (records, created, skipped) := appendNew terminalIndex raw existingIds rest
        (records, created, task.id :: skipped)
      else
        let (records, created, skipped) :=
          appendNew terminalIndex (raw ++ [asdict task]) (existingIds ++ [task.id]) rest
        (records, task.id :: created, skipped)

def missingReference (known : List String) (tasks : List Task) : Option (String × String) :=
  tasks.findSome? fun task =>
    (task.blockedBy.find? fun ref => !decide (ref ∈ known)).map fun ref => (task.id, ref)

def addMany (tasks : List Task) (disk : Disk) :
    Except StoreError (List String × List String) × Disk :=
  let ids := tasks.map Task.id
  if tasks = [] then (.ok ([], []), disk)
  else if ¬ ids.Nodup then (.error (.value "task batch contains duplicate ids"), disk)
  else
    let existingIds := disk.active.map fun record => (record.get "id").text
    match missingReference (existingIds ++ disk.terminalIndex.keys ++ ids) tasks with
    | some (taskId, ref) =>
        (.error (.value ("blocked_by reference not found: " ++ taskId ++ " -> " ++ ref)), disk)
    | none =>
        let (records, created, skipped) :=
          appendNew disk.terminalIndex disk.active existingIds tasks
        (.ok (created, skipped), if created = [] then disk else { disk with active := records })

def reopen (task : Task) (disk : Disk) : Except StoreError Task × Disk :=
  if task.status ∈ terminalStates then
    (.error (.value "reopened task must not be terminal"), disk)
  else
    let active :=
      match locate (hasId task.id) disk.active with
      | some (before, _, after) => before ++ asdict task :: after
      | none => disk.active ++ [asdict task]
    (.ok task, { disk with
      active := active
      terminalIndex := disk.terminalIndex.erase task.id })

/-- The fields that only the contract authority may write, in sorted order. -/
def authorityFields : List String :=
  ["contract", "contract_authority_revision", "contract_authority_sequence", "execution_binding"]

def authorityRevision (record : Record) : String :=
  (record.get "contract_authority_revision").text

def attemptedFields (updates : Record) : List String := authorityFields.filter updates.contains

def update (clock : Clock) (taskId : String) (kwargs : Record) (disk : Disk) :
    Except StoreError (Option Record) × Disk :=
  match locate (fun record => !record.contains "id" || hasId taskId record) disk.active with
  | none => (.ok none, disk)
  | some (before, record, after) =>
      if !record.contains "id" then (.error (.key "id"), disk)
      else if attemptedFields kwargs ≠ [] ∧ authorityRevision record ≠ "" then
        (.error (.value ("authority-stamped Task fields require " ++
          "TaskContractAuthorityService: " ++
          String.intercalate ", " (attemptedFields kwargs))), disk)
      else
        let changed : Record := record.update kwargs
        match inTerminalStates (changed.get "status") with
        | .error error => (.error error, disk)
        | .ok true =>
            ((toTask clock changed).map some,
              retire disk taskId clock.today changed (before ++ after))
        | .ok false =>
            ((toTask clock changed).map some, { disk with active := before ++ changed :: after })

structure ContractUpdate where
  taskId : String
  expectedAuthorityRevision : String
  expectedLegacyContract : Option Record := none
  expectedLegacyBinding : Option Record := none
  contract : Record
  executionBinding : Record
  contractAuthorityRevision : String
  contractAuthoritySequence : Int
  taskUpdates : Record := Dict.empty
  reopenTerminal : Bool := false

/-- The archived record that a reopening contract update starts from: the last
one of its indexed day, or of the newest day that has one. -/
def archivedRecord (disk : Disk) (taskId : String) : Option Record :=
  let days :=
    match disk.terminalIndex.get? taskId with
    | some date => if date = "" then (archiveDays disk).reverse else [date]
    | none => (archiveDays disk).reverse
  days.findSome? fun date => (archiveFile disk date).reverse.find? (hasId taskId)

/-- Does the record carry the expected authority revision and, when it carries
none, the expected legacy contract and binding? -/
def contractMatches (request : ContractUpdate) (record : Record) : Except StoreError Bool :=
  if authorityRevision record ≠ request.expectedAuthorityRevision then .ok false
  else
    match request.expectedLegacyContract with
    | none => .ok true
    | some expectedContract =>
        if authorityRevision record ≠ "" then .ok true
        else do
          let contract ← dictOf (record.get "contract")
          let normalizedContract := taskContractFromMapping (Json.ofDict contract)
          if !Json.equal (Json.ofDict normalizedContract) (Json.ofDict expectedContract) then
            return false
          let binding ← dictOf (record.get "execution_binding")
          let normalizedBinding ← construct "TaskExecutionBinding" bindingFields
            (binding.entries.filter fun entry => decide (entry.1 ∈ bindingFields.map Prod.fst))
          return Json.equal (Json.ofDict normalizedBinding)
            (Json.ofDict (request.expectedLegacyBinding.getD Dict.empty))

/-- The record with its contract replaced and the further updates applied. -/
def applyContract (request : ContractUpdate) (record : Record) : Record :=
  ((((record.insert "contract" (Json.ofDict request.contract)).insert
    "execution_binding" (Json.ofDict request.executionBinding)).insert
    "contract_authority_revision" (.str request.contractAuthorityRevision)).insert
    "contract_authority_sequence" (.int request.contractAuthoritySequence)).update
    request.taskUpdates

def compareAndUpdateContract (clock : Clock) (request : ContractUpdate) (disk : Disk) :
    Except StoreError (Option Record × Bool) × Disk :=
  match locate (hasId request.taskId) disk.active with
  | some (before, record, after) =>
      match contractMatches request record with
      | .error error => (.error error, disk)
      | .ok false => ((toTask clock record).map fun task => (some task, false), disk)
      | .ok true =>
          let changed := applyContract request record
          ((toTask clock changed).map fun task => (some task, true),
            { disk with active := before ++ changed :: after })
  | none =>
      match if request.reopenTerminal then archivedRecord disk request.taskId else none with
      | none => (.ok (none, false), disk)
      | some record =>
          match contractMatches request record with
          | .error error => (.error error, disk)
          | .ok false => ((toTask clock record).map fun task => (some task, false), disk)
          | .ok true =>
              let changed := applyContract request record
              if statusText changed ∈ terminalStates then
                (.error (.value "reopened contract mutation must set non-terminal status"), disk)
              else
                ((toTask clock changed).map fun task => (some task, true),
                  { disk with
                    active := disk.active ++ [changed]
                    terminalIndex := disk.terminalIndex.erase request.taskId })

def compareAndUpdateFields (clock : Clock) (taskId expectedAuthorityRevision : String)
    (updates : Record) (disk : Disk) : Except StoreError (Option Record × Bool) × Disk :=
  if attemptedFields updates ≠ [] then
    (.error (.value ("task field CAS cannot mutate authority fields: " ++
      String.intercalate ", " (attemptedFields updates))), disk)
  else
    match locate (hasId taskId) disk.active with
    | none => (.ok (none, false), disk)
    | some (before, record, after) =>
        if authorityRevision record ≠ expectedAuthorityRevision then
          ((toTask clock record).map fun task => (some task, false), disk)
        else
          let changed : Record := record.update updates
          ((toTask clock changed).map fun task => (some task, true),
            if statusText changed ∈ terminalStates then
              retire disk taskId clock.today changed (before ++ after)
            else { disk with active := before ++ changed :: after })

/-- Merge one metadata field into a contract. -/
def patchField (contract : Record) (entry : String × Json) : Except StoreError Record :=
  if entry.1 = "acceptance_evidence" then do
    let merged ← dictOf (contract.get entry.1)
    let value ← dictOf entry.2
    return contract.insert entry.1 (Json.ofDict (merged.update value))
  else .ok (contract.insert entry.1 entry.2)

def patchContract (record updates : Record) : Except StoreError Record := do
  let contract ← dictOf (record.get "contract")
  let patched ← updates.entries.foldlM patchField contract
  return record.insert "contract" (Json.ofDict patched)

def unknownMetadata (updates : Record) : List String :=
  updates.sortKeys.keys.filter fun name => !decide (name ∈ contractMetadataFields)

def patchContractFields (clock : Clock) (taskId : String) (updates : Record) (disk : Disk) :
    Except StoreError (Option Record) × Disk :=
  if updates.entries = [] then (get clock taskId disk, disk)
  else if unknownMetadata updates ≠ [] then
    (.error (.value ("contract metadata patch contains semantic fields: " ++
      String.intercalate ", " (unknownMetadata updates))), disk)
  else
    match locate (hasId taskId) disk.active with
    | none => (.ok none, disk)
    | some (before, record, after) =>
        match patchContract record updates with
        | .error error => (.error error, disk)
        | .ok changed =>
            ((toTask clock changed).map some, { disk with active := before ++ changed :: after })

def hasKey (key : String) (record : Record) : Bool := record.get "key" == .str key

/-- Update the task with this key, or create it.  The keyword arguments cannot
repeat the two positional ones. -/
def ensure (clock : Clock) (key title : String) (kwargs : Record) (disk : Disk) :
    Except StoreError Record × Disk :=
  if kwargs.contains "key" ∨ kwargs.contains "title" then
    (.error (.type "got multiple values for argument"), disk)
  else
    match locate (hasKey key) disk.active with
    | some (before, record, after) =>
        let changed := (record.insert "title" (.str title)).update kwargs
        (toTask clock changed, { disk with active := before ++ changed :: after })
    | none =>
        match construct "Task" (taskDefaults clock)
            ([("title", .str title), ("key", .str key)] ++ kwargs.entries) with
        | .error error => (.error error, disk)
        | .ok created => (.ok created, { disk with active := disk.active ++ [created] })

inductive Operation where
  | add (task : Task)
  | addMany (tasks : List Task)
  | reopen (task : Task)
  | update (clock : Clock) (taskId : String) (kwargs : Record)
  | compareAndUpdateContract (clock : Clock) (request : ContractUpdate)
  | compareAndUpdateFields (clock : Clock) (taskId expectedAuthorityRevision : String)
      (updates : Record)
  | patchContractFields (clock : Clock) (taskId : String) (updates : Record)
  | ensure (clock : Clock) (key title : String) (kwargs : Record)

/-- The files after one call, whatever its outcome. -/
def step (disk : Disk) : Operation → Disk
  | .add task => (add task disk).2
  | .addMany tasks => (addMany tasks disk).2
  | .reopen task => (reopen task disk).2
  | .update clock taskId kwargs => (update clock taskId kwargs disk).2
  | .compareAndUpdateContract clock request => (compareAndUpdateContract clock request disk).2
  | .compareAndUpdateFields clock taskId expectedAuthorityRevision updates =>
      (compareAndUpdateFields clock taskId expectedAuthorityRevision updates disk).2
  | .patchContractFields clock taskId updates => (patchContractFields clock taskId updates disk).2
  | .ensure clock key title kwargs => (ensure clock key title kwargs disk).2

end ZaofuFormal.Tasks
