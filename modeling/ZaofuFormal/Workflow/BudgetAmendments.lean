import ZaofuFormal.Foundation.Standing
import ZaofuFormal.Workflow.RedriveRuns

/-!
# Owner amendments of a budget

The search for an amendment keeps the last goal update of the owner that covers
the exceeded dimensions, until an event of the run withdraws it.  The events
that withdraw it are four of the seven that end a run, and a comparison with
something that is no number counts as covered.
-/

namespace ZaofuFormal.Workflow

open Foundation Foundation.Standing

/-- The events that end a run. -/
def runTerminalEventTypes : List String :=
  ["run.goal.completed", "run.goal.blocked", "run.completed", "run.failed", "run.cancelled",
    "run.abandoned", "workflow.result.available"]

/-- Those of them that the search does not list. -/
def unlistedStops : List String :=
  ["run.cancelled", "run.abandoned", "workflow.result.available"]

theorem mem_runTerminalEventTypes_iff {type : String} :
    type ∈ runTerminalEventTypes ↔ type ∈ stopsRun ∨ type ∈ unlistedStops := by
  simp only [runTerminalEventTypes, stopsRun, unlistedStops, List.mem_cons, List.not_mem_nil,
    or_false]
  tauto

def exceededDimensions (budgetPayload : Json) : List String :=
  match budgetPayload.get "exceeded_dimensions" with
  | .arr items => (items.map fun item : Json => PyString.strip item.text).filter
      fun text => decide (text ≠ "")
  | _ => []

/-- The amended limit of a dimension and its measured usage, as numbers. -/
def Amends (toFloat : Json → Except FloatError FloatValue) (patch measured : Json)
    (dimension : String) (amended current : FloatValue) : Prop :=
  ∃ limitKey measurementKey limit, budgetDimension dimension = some (limitKey, measurementKey) ∧
    Dict.find limitKey patch.fields = some limit ∧ toFloat limit = .ok amended ∧
    toFloat (if (measured.get measurementKey).truthy then measured.get measurementKey
      else .int 0) = .ok current

/-- The patch lifts the limit, or raises it above the usage. -/
def LiftsDimension (toFloat : Json → Except FloatError FloatValue) (patch measured : Json)
    (dimension : String) : Prop :=
  ∃ amended current, Amends toFloat patch measured dimension amended current ∧
    (amended = .finite 0 ∨
      (FloatValue.lt (.finite 0) amended = true ∧ current.lt amended = true))

/-- The budget event names dimensions, and the patch lifts or raises each of them. -/
def Lifts (toFloat : Json → Except FloatError FloatValue) (patch budgetPayload : Json) : Prop :=
  exceededDimensions budgetPayload ≠ [] ∧ ∀ dimension ∈ exceededDimensions budgetPayload,
    LiftsDimension toFloat patch (budgetPayload.get "measurement").objectOrEmpty dimension

/-- No limit is compared that is not a number, or with a usage that is none. -/
def Numeric (toFloat : Json → Except FloatError FloatValue) (patch budgetPayload : Json) : Prop :=
  ∀ dimension ∈ exceededDimensions budgetPayload, ∀ amended current,
    Amends toFloat patch (budgetPayload.get "measurement").objectOrEmpty dimension amended
      current → amended = .finite 0 ∨ (amended ≠ .notANumber ∧ current ≠ .notANumber)

section Limits

variable {toFloat : Json → Except FloatError FloatValue} {patch measured budgetPayload : Json}
  {dimension : String}

/-- The comparison of the code against the comparison of numbers. -/
theorem compare_iff (amended current : FloatValue) :
    (!amended.lt (.finite 0) && (decide (amended = .finite 0) || !amended.le current)) = true ∧
        (amended = .finite 0 ∨ (amended ≠ .notANumber ∧ current ≠ .notANumber)) ↔
      amended = .finite 0 ∨
        (FloatValue.lt (.finite 0) amended = true ∧ current.lt amended = true) := by
  cases amended with
  | finite limit =>
      cases current with
      | finite usage =>
          simp only [FloatValue.lt, FloatValue.le, FloatValue.finite.injEq]
          grind
      | infinite negative =>
          cases negative <;> simp only [FloatValue.lt, FloatValue.le, FloatValue.finite.injEq] <;>
            grind
      | notANumber =>
          simp only [FloatValue.lt, FloatValue.le, FloatValue.finite.injEq]
          grind
  | infinite negative =>
      cases negative <;> cases current with
      | finite usage => simp [FloatValue.lt, FloatValue.le]
      | infinite other => cases other <;> simp [FloatValue.lt, FloatValue.le]
      | notANumber => simp [FloatValue.lt, FloatValue.le]
  | notANumber => cases current <;> simp [FloatValue.lt, FloatValue.le]

theorem coversDimension_of_amends {amended current : FloatValue}
    (amends : Amends toFloat patch measured dimension amended current) :
    coversDimension toFloat patch measured dimension = .ok
      (!amended.lt (.finite 0) && (decide (amended = .finite 0) || !amended.le current)) := by
  obtain ⟨limitKey, measurementKey, limit, keys, found, limitRead, usageRead⟩ := amends
  unfold coversDimension
  rw [keys]
  dsimp only
  rw [found]
  dsimp only
  rw [limitRead, usageRead]
  rfl

theorem amends_of_covers (covers : coversDimension toFloat patch measured dimension = .ok true) :
    ∃ amended current, Amends toFloat patch measured dimension amended current := by
  unfold coversDimension at covers
  cases keys : budgetDimension dimension with
  | none =>
      rw [keys] at covers
      cases covers
  | some pair =>
      obtain ⟨limitKey, measurementKey⟩ := pair
      rw [keys] at covers
      dsimp only at covers
      cases found : Dict.find limitKey patch.fields with
      | none =>
          rw [found] at covers
          cases covers
      | some limit =>
          rw [found] at covers
          dsimp only at covers
          cases limitRead : toFloat limit with
          | error error =>
              rw [limitRead] at covers
              cases error <;> cases covers
          | ok amended =>
              rw [limitRead] at covers
              cases usageRead : toFloat (if (measured.get measurementKey).truthy then
                  measured.get measurementKey else .int 0) with
              | error error =>
                  rw [usageRead] at covers
                  cases error <;> cases covers
              | ok current =>
                  exact ⟨amended, current, limitKey, measurementKey, limit, keys, found, limitRead,
                    usageRead⟩

theorem Amends.unique {amended current other usage : FloatValue}
    (first : Amends toFloat patch measured dimension amended current)
    (second : Amends toFloat patch measured dimension other usage) :
    amended = other ∧ current = usage := by
  obtain ⟨limitKey, measurementKey, limit, keys, found, limitRead, usageRead⟩ := first
  obtain ⟨_, _, _, otherKeys, otherFound, otherLimit, otherUsage⟩ := second
  cases keys.symm.trans otherKeys
  cases found.symm.trans otherFound
  exact ⟨Except.ok.inj (limitRead.symm.trans otherLimit),
    Except.ok.inj (usageRead.symm.trans otherUsage)⟩

theorem liftsDimension_iff :
    LiftsDimension toFloat patch measured dimension ↔
      coversDimension toFloat patch measured dimension = .ok true ∧
        ∀ amended current, Amends toFloat patch measured dimension amended current →
          amended = .finite 0 ∨ (amended ≠ .notANumber ∧ current ≠ .notANumber) := by
  constructor
  · rintro ⟨amended, current, amends, lifts⟩
    obtain ⟨covers, numeric⟩ := (compare_iff amended current).mpr lifts
    refine ⟨by rw [coversDimension_of_amends amends, covers], fun other usage same => ?_⟩
    obtain ⟨rfl, rfl⟩ := amends.unique same
    exact numeric
  · rintro ⟨covers, numeric⟩
    obtain ⟨amended, current, amends⟩ := amends_of_covers covers
    rw [coversDimension_of_amends amends] at covers
    exact ⟨amended, current, amends,
      (compare_iff amended current).mp ⟨Except.ok.inj covers, numeric _ _ amends⟩⟩

theorem coversAll_iff (dimensions : List String) :
    coversAll toFloat patch measured dimensions = .ok true ↔
      ∀ dimension ∈ dimensions, coversDimension toFloat patch measured dimension = .ok true := by
  induction dimensions with
  | nil => exact iff_of_true rfl nofun
  | cons dimension rest ih =>
      rw [coversAll, List.forall_mem_cons]
      cases coversDimension toFloat patch measured dimension with
      | error error => exact iff_of_false nofun fun both => nomatch both.1
      | ok covered =>
          cases covered with
          | false => exact iff_of_false nofun fun both => nomatch both.1
          | true => exact ih.trans (and_iff_right rfl).symm

/-- The code takes a patch for covering exactly when it lifts every exceeded
dimension, or compares something that is no number. -/
theorem lifts_iff :
    Lifts toFloat patch budgetPayload ↔
      budgetPatchCovers toFloat patch budgetPayload = .ok true ∧
        Numeric toFloat patch budgetPayload := by
  have covers : budgetPatchCovers toFloat patch budgetPayload = .ok true ↔
      exceededDimensions budgetPayload ≠ [] ∧ ∀ dimension ∈ exceededDimensions budgetPayload,
        coversDimension toFloat patch (budgetPayload.get "measurement").objectOrEmpty dimension =
          .ok true := by
    change (if exceededDimensions budgetPayload = [] then .ok false else
      coversAll toFloat patch (budgetPayload.get "measurement").objectOrEmpty
        (exceededDimensions budgetPayload)) = .ok true ↔ _
    split
    · rename_i none
      exact iff_of_false nofun fun both => both.1 none
    · rename_i some
      exact (coversAll_iff _).trans (and_iff_right some).symm
  unfold Lifts Numeric
  rw [covers, and_assoc]
  refine and_congr_right fun _ => ?_
  simp only [liftsDimension_iff, forall_and]

end Limits

/-- What the search looks through: the payload of the exceeded budget, the run
and the events behind the block. -/
structure BudgetBlock where
  budgetPayload : Json
  aliases : Dict String String
  runId : String
  later : Log

def budgetBlock (log : Log) (row : OperationRow) : Option BudgetBlock :=
  if !isBudgetBlocked row then none
  else
    let operationId := PyString.strip row.operationId
    let workflowRunId := PyString.strip row.workflowRunId
    (splitAtBlock operationId (PyString.strip row.lastEventId) log).bind
      fun (earlier, block, later) =>
        (earlier.find? fun event =>
          decide (event.id = block.causationId.getD "" ∧ event.type = "workflow.budget.exceeded" ∧
            event.body.textAt "scope" = "operation" ∧
            event.body.textAt "scope_id" = operationId)).map fun budgetEvent =>
          { budgetPayload := budgetEvent.body
            aliases := runAliases log
            runId := ((runAliases log).get? workflowRunId).getD workflowRunId
            later }

def BudgetBlock.OfRun (block : BudgetBlock) (event : ZfEvent) : Prop :=
  eventRunId block.aliases event = block.runId

/-- A goal update of the owner in the run of the operation. -/
structure BudgetBlock.OwnerUpdate (block : BudgetBlock) (event : ZfEvent) : Prop where
  ofRun : block.OfRun event
  type : event.type = "run.goal.updated"
  status : strippedAt event.body "status" ∈ ["active", "running"]
  source : event.body.textAt "source" = "zf_goal_cli"

/-- An event of the run with one of the listed types, or an inactive goal. -/
def BudgetBlock.Stops (block : BudgetBlock) (event : ZfEvent) : Prop :=
  block.OfRun event ∧ (event.type ∈ stopsRun ∨
    (event.type = "run.goal.updated" ∧ strippedAt event.body "status" ∉ ["active", "running"]))

/-- An update of the owner whose patch passes the check of the limits. -/
def BudgetBlock.Covers (toFloat : Json → Except FloatError FloatValue) (block : BudgetBlock)
    (event : ZfEvent) : Prop :=
  block.OwnerUpdate event ∧
    budgetPatchCovers toFloat (event.body.get "run_limits_patch") block.budgetPayload = .ok true

/-- The event ends the run, or its goal is no longer active. -/
def EndsRun (event : ZfEvent) : Prop :=
  event.type ∈ runTerminalEventTypes ∨
    (event.type = "run.goal.updated" ∧ strippedAt event.body "status" ∉ ["active", "running"])

section Search

variable (toFloat : Json → Except FloatError FloatValue)

/-- What the search makes of one event behind the block. -/
def BudgetBlock.judge (block : BudgetBlock) (event : ZfEvent) : Except FloatError Verdict :=
  if eventRunId block.aliases event ≠ block.runId then .ok .leave
  else if event.type ∈ stopsRun then .ok .withdraw
  else if event.type ≠ "run.goal.updated" then .ok .leave
  else if strippedAt event.body "status" ∉ ["active", "running"] then .ok .withdraw
  else if event.body.textAt "source" ≠ "zf_goal_cli" then .ok .leave
  else
    let patch := event.body.get "run_limits_patch"
    if patch.isObject then
      (budgetPatchCovers toFloat patch block.budgetPayload).map fun covers =>
        if covers then .offer else .leave
    else .ok .leave

theorem noteAmendment_eq (block : BudgetBlock) :
    noteAmendment toFloat block.aliases block.runId block.budgetPayload =
      Standing.note (block.judge toFloat) := by
  funext candidate event
  unfold noteAmendment Standing.note BudgetBlock.judge
  dsimp only
  split
  · rfl
  split
  · rfl
  split
  · rfl
  split
  · rfl
  split
  · rfl
  split
  · cases budgetPatchCovers toFloat (event.body.get "run_limits_patch") block.budgetPayload with
    | error error => rfl
    | ok covers => cases covers <;> rfl
  · rfl

theorem findTaskPipelineBudgetAmendment_eq (log : Log) (row : OperationRow) :
    findTaskPipelineBudgetAmendment toFloat log row =
      match budgetBlock log row with
      | none => .ok none
      | some block => block.later.foldlM (Standing.note (block.judge toFloat)) none := by
  unfold findTaskPipelineBudgetAmendment budgetBlock
  split
  · rfl
  dsimp only
  cases splitAtBlock (PyString.strip row.operationId) (PyString.strip row.lastEventId) log with
  | none => rfl
  | some parts =>
      obtain ⟨earlier, block, later⟩ := parts
      dsimp only [Option.bind_some]
      cases earlier.find? _ with
      | none => rfl
      | some budgetEvent =>
          dsimp only [Option.map_some]
          rw [← noteAmendment_eq]

end Search

section Judging

variable {toFloat : Json → Except FloatError FloatValue} {block : BudgetBlock} {event : ZfEvent}

theorem isObject_of_covers {patch budgetPayload : Json}
    (covers : budgetPatchCovers toFloat patch budgetPayload = .ok true) :
    patch.isObject = true := by
  change (if exceededDimensions budgetPayload = [] then .ok false else
    coversAll toFloat patch (budgetPayload.get "measurement").objectOrEmpty
      (exceededDimensions budgetPayload)) = .ok true at covers
  split at covers
  · cases covers
  rename_i some
  obtain ⟨dimension, member⟩ := List.exists_mem_of_ne_nil _ some
  obtain ⟨_, _, _, _, _, _, found, _⟩ := amends_of_covers ((coversAll_iff _).mp covers _ member)
  cases patch with
  | obj fields => rfl
  | null | bool _ | int _ | float _ _ | str _ | arr _ => cases found

theorem judge_update (update : block.OwnerUpdate event) :
    block.judge toFloat event =
      if (event.body.get "run_limits_patch").isObject then
        (budgetPatchCovers toFloat (event.body.get "run_limits_patch") block.budgetPayload).map
          fun covers => if covers then .offer else .leave
      else .ok .leave := by
  have ofRun : eventRunId block.aliases event = block.runId := update.ofRun
  have unstopped : event.type ∉ stopsRun := by
    rw [update.type]
    decide
  unfold BudgetBlock.judge
  dsimp only
  rw [if_neg (not_not.mpr ofRun), if_neg unstopped, if_neg (not_not.mpr update.type),
    if_neg (not_not.mpr update.status), if_neg (not_not.mpr update.source)]

theorem judge_offer_iff :
    block.judge toFloat event = .ok .offer ↔ block.Covers toFloat event := by
  constructor
  · intro offers
    unfold BudgetBlock.judge at offers
    dsimp only at offers
    split at offers
    · cases offers
    rename_i ofRun
    split at offers
    · cases offers
    split at offers
    · cases offers
    rename_i updated
    split at offers
    · cases offers
    rename_i active
    split at offers
    · cases offers
    rename_i source
    split at offers
    · refine ⟨⟨not_not.mp ofRun, not_not.mp updated, not_not.mp active, not_not.mp source⟩, ?_⟩
      cases covers : budgetPatchCovers toFloat (event.body.get "run_limits_patch")
          block.budgetPayload with
      | error error =>
          rw [covers] at offers
          cases offers
      | ok covered =>
          rw [covers] at offers
          cases covered with
          | true => rfl
          | false => cases offers
    · cases offers
  · rintro ⟨update, covers⟩
    rw [judge_update update, if_pos (isObject_of_covers covers), covers]
    rfl

theorem judge_withdraw_iff :
    block.judge toFloat event = .ok .withdraw ↔ block.Stops event := by
  unfold BudgetBlock.judge BudgetBlock.Stops BudgetBlock.OfRun
  dsimp only
  split
  · rename_i other
    exact iff_of_false nofun fun both => other both.1
  rename_i ofRun
  split
  · rename_i stops
    exact iff_of_true rfl ⟨not_not.mp ofRun, Or.inl stops⟩
  rename_i unstopped
  split
  · rename_i other
    exact iff_of_false nofun fun both => both.2.elim unstopped fun goal => other goal.1
  rename_i updated
  split
  · rename_i inactive
    exact iff_of_true rfl ⟨not_not.mp ofRun, Or.inr ⟨not_not.mp updated, inactive⟩⟩
  rename_i active
  have kept : ¬(eventRunId block.aliases event = block.runId ∧
      (event.type ∈ stopsRun ∨ (event.type = "run.goal.updated" ∧
        strippedAt event.body "status" ∉ ["active", "running"]))) :=
    fun both => both.2.elim unstopped fun goal => active goal.2
  split
  · exact iff_of_false nofun kept
  split
  · refine iff_of_false ?_ kept
    cases budgetPatchCovers toFloat (event.body.get "run_limits_patch") block.budgetPayload with
    | error error => exact nofun
    | ok covered => cases covered <;> exact nofun
  · exact iff_of_false nofun kept

/-- The check of a patch is the one step that can raise. -/
theorem judge_error_iff {error : FloatError} :
    block.judge toFloat event = .error error ↔ block.OwnerUpdate event ∧
      (event.body.get "run_limits_patch").isObject = true ∧
      budgetPatchCovers toFloat (event.body.get "run_limits_patch") block.budgetPayload =
        .error error := by
  constructor
  · intro raises
    unfold BudgetBlock.judge at raises
    dsimp only at raises
    split at raises
    · cases raises
    rename_i ofRun
    split at raises
    · cases raises
    split at raises
    · cases raises
    rename_i updated
    split at raises
    · cases raises
    rename_i active
    split at raises
    · cases raises
    rename_i source
    split at raises
    · rename_i object
      refine ⟨⟨not_not.mp ofRun, not_not.mp updated, not_not.mp active, not_not.mp source⟩,
        object, ?_⟩
      cases covers : budgetPatchCovers toFloat (event.body.get "run_limits_patch")
          block.budgetPayload with
      | error other =>
          rw [covers] at raises
          cases raises
          rfl
      | ok covered =>
          rw [covers] at raises
          cases raises
    · cases raises
  · rintro ⟨update, object, covers⟩
    rw [judge_update update, if_pos object, covers]
    rfl

/-- An event that is checked without a raise is left if and only if it neither offers nor stops. -/
theorem judge_leave_iff (checked : ∀ error, block.judge toFloat event ≠ .error error) :
    block.judge toFloat event = .ok .leave ↔
      ¬block.Covers toFloat event ∧ ¬block.Stops event := by
  rw [← judge_offer_iff, ← judge_withdraw_iff]
  cases judged : block.judge toFloat event with
  | error error => exact absurd judged (checked error)
  | ok verdict => cases verdict <;> simp

end Judging

section Authorised

variable (toFloat : Json → Except FloatError FloatValue)

/-- The event amends every exceeded dimension, and no later event ends the run. -/
structure BudgetBlock.Authorises (block : BudgetBlock) (event : ZfEvent) (after : Log) : Prop where
  update : block.OwnerUpdate event
  lifts : Lifts toFloat (event.body.get "run_limits_patch") block.budgetPayload
  current : ∀ other ∈ after, block.OfRun other → ¬EndsRun other

/-- The event authorises a redrive where it stands behind the block. -/
def BudgetBlock.Authorised (block : BudgetBlock) (event : ZfEvent) : Prop :=
  ∃ before after, block.later = before ++ event :: after ∧ block.Authorises toFloat event after

/-- What is found authorises a redrive, and something is found if anything does. -/
structure AmendmentsCurrent (log : Log) (row : OperationRow) : Prop where
  sound : ∀ event, findTaskPipelineBudgetAmendment toFloat log row = .ok (some event) →
    ∃ block, budgetBlock log row = some block ∧ block.Authorised toFloat event
  complete : (∃ block event, budgetBlock log row = some block ∧ block.Authorised toFloat event) →
    ∃ event, findTaskPipelineBudgetAmendment toFloat log row = .ok (some event)

/-- The check of the patch of an update behind the block overflows. -/
def BudgetBlock.Overflows (block : BudgetBlock) : Prop :=
  ∃ event ∈ block.later, block.OwnerUpdate event ∧
    (event.body.get "run_limits_patch").isObject = true ∧
    ∃ error, budgetPatchCovers toFloat (event.body.get "run_limits_patch") block.budgetPayload =
      .error error

/-- The last covering update that neither a listed stop nor an inactive goal
withdraws is compared as a number, and no unlisted stop follows it. -/
def BudgetBlock.Settled (block : BudgetBlock) : Prop :=
  ∀ before event after, block.later = before ++ event :: after → block.Covers toFloat event →
    (∀ other ∈ after, ¬block.Covers toFloat other ∧ ¬block.Stops other) →
    Numeric toFloat (event.body.get "run_limits_patch") block.budgetPayload ∧
      ∀ other ∈ after, block.OfRun other → other.type ∉ unlistedStops

end Authorised

section Equivalence

variable {toFloat : Json → Except FloatError FloatValue} {block : BudgetBlock} {event : ZfEvent}

theorem BudgetBlock.Authorises.covers {after : Log}
    (authorises : block.Authorises toFloat event after) : block.Covers toFloat event :=
  ⟨authorises.update, (lifts_iff.mp authorises.lifts).1⟩

theorem overflows_iff :
    block.Overflows toFloat ↔
      ∃ error, block.later.foldlM (Standing.note (block.judge toFloat)) none = .error error := by
  simp only [foldlM_note_error_iff, judge_error_iff, exists_and_left]
  rfl

/-- A covering update that stands last authorises a redrive unless an unlisted stop follows it. -/
theorem authorised_iff {before after : Log} (shape : block.later = before ++ event :: after)
    (covers : block.Covers toFloat event)
    (left : ∀ other ∈ after, ¬block.Covers toFloat other ∧ ¬block.Stops other) :
    block.Authorised toFloat event ↔
      Numeric toFloat (event.body.get "run_limits_patch") block.budgetPayload ∧
        ∀ other ∈ after, block.OfRun other → other.type ∉ unlistedStops := by
  constructor
  · rintro ⟨earlier, rest, split, authorises⟩
    refine ⟨(lifts_iff.mp authorises.lifts).2, fun other member ofRun unlisted => ?_⟩
    have inRest : other ∈ rest := by
      rw [shape, List.append_eq_append_iff] at split
      rcases split with ⟨middle, _, same⟩ | ⟨middle, _, same⟩
      · cases middle with
        | nil =>
            obtain ⟨_, rfl⟩ := List.cons.inj same
            exact member
        | cons head middle =>
            obtain ⟨_, rfl⟩ := List.cons.inj same
            -- the event would stand behind itself
            exact absurd covers (left event (by simp)).1
      · cases middle with
        | nil =>
            obtain ⟨_, rfl⟩ := List.cons.inj same
            exact member
        | cons head middle =>
            obtain ⟨_, rfl⟩ := List.cons.inj same
            exact List.mem_append_right _ (List.mem_cons_of_mem _ member)
    exact authorises.current other inRest ofRun
      (Or.inl (mem_runTerminalEventTypes_iff.mpr (Or.inr unlisted)))
  · rintro ⟨numeric, unstopped⟩
    obtain ⟨update, lifts⟩ := covers
    refine ⟨before, after, shape, update, lifts_iff.mpr ⟨lifts, numeric⟩, ?_⟩
    intro other member ofRun ends
    have kept := not_and.mp (left other member).2
    rcases ends with terminal | inactive
    · rcases mem_runTerminalEventTypes_iff.mp terminal with listed | unlisted
      · exact kept ofRun (Or.inl listed)
      · exact unstopped other member ofRun unlisted
    · exact kept ofRun (Or.inr inactive)

/-- A block whose checks raise nothing has a candidate whenever an event authorises a redrive. -/
theorem isSome_of_authorised {result : Option ZfEvent}
    (passed : block.later.foldlM (Standing.note (block.judge toFloat)) none = .ok result)
    (authorised : block.Authorised toFloat event) : result.isSome = true := by
  obtain ⟨before, after, shape, authorises⟩ := authorised
  rw [shape] at passed
  refine isSome_of_offer passed (judge_offer_iff.mpr authorises.covers) ?_
  intro other member withdraws
  obtain ⟨ofRun, ends⟩ := judge_withdraw_iff.mp withdraws
  refine authorises.current other member ofRun (ends.imp_left fun listed => ?_)
  exact mem_runTerminalEventTypes_iff.mpr (Or.inl listed)

/-- The search finds what authorises a redrive if and only if the last standing
update is settled; where a check overflows, if and only if nothing authorises one. -/
theorem amendments_current_iff (log : Log) (row : OperationRow) :
    AmendmentsCurrent toFloat log row ↔
      ∀ block, budgetBlock log row = some block →
        (block.Overflows toFloat → ∀ event, ¬block.Authorised toFloat event) ∧
          (¬block.Overflows toFloat → block.Settled toFloat) := by
  have found := findTaskPipelineBudgetAmendment_eq toFloat log row
  cases blocked : budgetBlock log row with
  | none =>
      rw [blocked] at found
      refine iff_of_true ⟨fun event same => ?_, ?_⟩ ?_
      · rw [found] at same
        cases same
      · rintro ⟨block, _, same, _⟩
        rw [blocked] at same
        cases same
      · intro _ impossible
        cases impossible
  | some block =>
      rw [blocked] at found
      dsimp only at found
      have only : (∀ other, some block = some other →
          (other.Overflows toFloat → ∀ event, ¬other.Authorised toFloat event) ∧
            (¬other.Overflows toFloat → other.Settled toFloat)) ↔
          (block.Overflows toFloat → ∀ event, ¬block.Authorised toFloat event) ∧
            (¬block.Overflows toFloat → block.Settled toFloat) := by
        simp only [Option.some.injEq, forall_eq']
      rw [only]
      cases passed : block.later.foldlM (Standing.note (block.judge toFloat)) none with
      | error error =>
          rw [passed] at found
          have raised : block.Overflows toFloat := overflows_iff.mpr ⟨error, passed⟩
          constructor
          · intro current
            refine ⟨fun _ event authorised => ?_, fun quiet => absurd raised quiet⟩
            obtain ⟨other, same⟩ := current.complete ⟨block, event, blocked, authorised⟩
            rw [found] at same
            cases same
          · rintro ⟨nothing, _⟩
            refine ⟨fun event same => ?_, ?_⟩
            · rw [found] at same
              cases same
            · rintro ⟨other, event, same, authorised⟩
              cases blocked.symm.trans same
              exact absurd authorised (nothing raised event)
      | ok result =>
          rw [passed] at found
          have quiet : ¬block.Overflows toFloat := by
            rw [overflows_iff, passed]
            rintro ⟨_, impossible⟩
            cases impossible
          have checked : ∀ other ∈ block.later, ∀ error,
              block.judge toFloat other ≠ .error error := by
            intro other member error raises
            obtain ⟨update, object, overflow⟩ := judge_error_iff.mp raises
            exact quiet ⟨other, member, update, object, error, overflow⟩
          have stands : ∀ {before event after}, block.later = before ++ event :: after →
              ((block.judge toFloat event = .ok .offer ∧
                  ∀ other ∈ after, block.judge toFloat other = .ok .leave) ↔
                (block.Covers toFloat event ∧
                  ∀ other ∈ after, ¬block.Covers toFloat other ∧ ¬block.Stops other)) := by
            intro before event after shape
            refine and_congr judge_offer_iff (forall₂_congr fun other member => ?_)
            exact judge_leave_iff (checked other (by simp [shape, member]))
          constructor
          · intro current
            refine ⟨fun raised => absurd raised quiet, ?_⟩
            intro _ before event after shape covers left
            have standing : result = some event :=
              (foldlM_note_iff passed event).mpr
                (Or.inl ⟨before, after, shape, (stands shape).mpr ⟨covers, left⟩⟩)
            obtain ⟨other, same, authorised⟩ := current.sound event (found.trans (by rw [standing]))
            cases blocked.symm.trans same
            exact (authorised_iff shape covers left).mp authorised
          · rintro ⟨_, settled⟩
            refine ⟨fun event same => ?_, ?_⟩
            · have standing : result = some event := Except.ok.inj (found.symm.trans same)
              rcases (foldlM_note_iff passed event).mp standing with
                ⟨before, after, shape, standing⟩ | ⟨impossible, _⟩
              · obtain ⟨covers, left⟩ := (stands shape).mp standing
                exact ⟨block, blocked, (authorised_iff shape covers left).mpr
                  (settled quiet before event after shape covers left)⟩
              · cases impossible
            · rintro ⟨other, event, same, authorised⟩
              cases blocked.symm.trans same
              obtain ⟨last, standing⟩ := Option.isSome_iff_exists.mp
                (isSome_of_authorised passed authorised)
              exact ⟨last, found.trans (by rw [standing])⟩

end Equivalence

/-- One event of a run whose operation runs out of tokens. -/
def budgetEvent (type id : String) (fields : List (String × Json))
    (causationId : Option String := none) : ZfEvent where
  type := type
  id := id
  ts := "2026-07-09T08:00:00+00:00"
  payload := .obj (("run_id", .str "run-1") :: fields)
  causationId := causationId

/-- The owner doubles the token budget of an operation that exceeded it. -/
def tokenAmendment : ZfEvent :=
  budgetEvent "run.goal.updated" "evt-update" [("status", .str "active"),
    ("source", .str "zf_goal_cli"), ("run_limits_patch", .obj [("token_budget", .int 200)])]

def cancelledRun : ZfEvent := budgetEvent "run.cancelled" "evt-cancel" []

/-- A run is cancelled behind the amendment of its budget. -/
def cancelledRunLog : Log :=
  [budgetEvent "run.started" "evt-start" [],
    budgetEvent "workflow.operation.requested" "evt-request"
      [("workflow_run_id", .str "run-1"), ("operation_id", .str "op-1"),
        ("request_hash", .str "h1"), ("task_pipeline_stage", .str "implementation")],
    budgetEvent "workflow.budget.exceeded" "evt-budget"
      [("scope", .str "operation"), ("scope_id", .str "op-1"),
        ("exceeded_dimensions", .arr [.str "tokens"]),
        ("measurement", .obj [("total_tokens", .int 120)])],
    budgetEvent "workflow.operation.blocked" "evt-block"
      [("operation_id", .str "op-1"), ("request_hash", .str "h1"),
        ("reason", .str "workflow_budget_exceeded:tokens")] (some "evt-budget"),
    tokenAmendment, cancelledRun]

/-- The amendment of a cancelled run is still found. -/
theorem cancelled_run_amended :
    ∃ row, loadWorkflowOperation cancelledRunLog "op-1" = .ok (some row) ∧
      ¬AmendmentsCurrent numberToFloat cancelledRunLog row := by
  have evaluated : ((loadWorkflowOperation cancelledRunLog "op-1").toOption.join.any fun row =>
      decide (((budgetBlock cancelledRunLog row).map fun block : BudgetBlock =>
          (block.later, decide (eventRunId block.aliases cancelledRun = block.runId))) =
            some ([tokenAmendment, cancelledRun], true) ∧
        findTaskPipelineBudgetAmendment numberToFloat cancelledRunLog row =
          .ok (some tokenAmendment))) = true := by
    decide +kernel
  cases loaded : loadWorkflowOperation cancelledRunLog "op-1" with
  | error error =>
      rw [loaded] at evaluated
      cases evaluated
  | ok found =>
      rw [loaded] at evaluated
      cases found with
      | none => cases evaluated
      | some row =>
          obtain ⟨shape, found⟩ := of_decide_eq_true evaluated
          obtain ⟨block, blocked, same⟩ := Option.map_eq_some_iff.mp shape
          obtain ⟨later, decided⟩ := Prod.mk.inj same
          have ofRun : eventRunId block.aliases cancelledRun = block.runId :=
            of_decide_eq_true decided
          refine ⟨row, rfl, fun current => ?_⟩
          obtain ⟨other, again, authorised⟩ := current.sound tokenAmendment found
          cases blocked.symm.trans again
          have left : ∀ event ∈ [cancelledRun],
              ¬block.Covers numberToFloat event ∧ ¬block.Stops event := by
            intro event member
            cases List.mem_singleton.mp member
            exact ⟨fun covers => absurd covers.1.type (by decide),
              fun stops => absurd stops.2 (by decide)⟩
          have shape : block.later = [] ++ tokenAmendment :: [cancelledRun] := later
          have covers : block.Covers numberToFloat tokenAmendment := by
            obtain ⟨_, _, _, authorises⟩ := authorised
            exact authorises.covers
          have stands := (authorised_iff shape covers left).mp authorised
          exact stands.2 cancelledRun (List.mem_singleton_self _) ofRun (by decide)

end ZaofuFormal.Workflow
