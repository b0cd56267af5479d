import ZaofuFormal.Foundation.Digest
import ZaofuFormal.Workflow.DependencyBarrier
import ZaofuFormal.Workflow.RunMembers

/-!
# Barrier verdicts are replay-stable

The event of a verdict carries only ids that already lead to its run, so that
appending it changes neither the runs nor the groups, and it records what
suppresses the same verdict in the next reconciliation.
-/

namespace ZaofuFormal.Workflow

open Foundation

theorem fst_fields (refs : PropagatedRefs) : refs.fields.map Prod.fst = refs.map Prod.fst := by
  simp [PropagatedRefs.fields]

theorem mem_propagatedRefFields {events : List ZfEvent} {field : String}
    (member : field ∈ (propagatedRefs events).fields.map Prod.fst) :
    field ∈ propagatedRefFields := by
  rw [fst_fields] at member
  obtain ⟨entry, kept, rfl⟩ := List.mem_map.mp member
  obtain ⟨key, listed, rfl⟩ := List.mem_map.mp (List.mem_filter.mp kept).1
  exact listed

theorem nodup_blockedFields (barrier : Barrier) (sha256 : Sha256) (group : Group)
    (failed : List ZfEvent) :
    ((barrier.blockedFields sha256 group failed).map Prod.fst).Nodup := by
  change ["flow_kind", "workflow_run_id", "stage_id", "barrier_id", "barrier_digest",
    "generation_key", "dependencies", "required_events", "failure_events", "failed_event_ids",
    "source_fingerprint", "reason"].Nodup
  decide

theorem nodup_satisfiedFields (barrier : Barrier) (sha256 : Sha256) (group : Group)
    (selected : List ZfEvent) :
    ((barrier.satisfiedFields sha256 group selected).map Prod.fst).Nodup := by
  change ["flow_kind", "workflow_run_id", "stage_id", "barrier_id", "barrier_digest",
    "generation_key", "dependencies", "required_events", "source_event_ids",
    "source_fingerprint", "propagation_digest", "dependency_sources"].Nodup
  decide

theorem textAt_ofDict {first second : Dict String Json} {key : String}
    (same : first.get? key = second.get? key) :
    (Json.ofDict first).textAt key = (Json.ofDict second).textAt key := by
  rw [Json.textAt, Json.textAt, Json.get_ofDict, Json.get_ofDict, same]

/-- What a field of an event becomes in the identity of a verdict. -/
theorem textAt_identityPayload (event : ZfEvent) (key : String) :
    (Json.ofDict (Dict.ofEntries (identityPayload event))).textAt key =
      if key ∈ propagatedFields then event.body.textAt key else "" := by
  have distinct : ((identityPayload event).map Prod.fst).Nodup := by
    refine List.Nodup.sublist (List.filter_sublist.map Prod.fst) ?_
    change propagatedFields.Nodup
    decide
  rw [Json.textAt, Json.get_ofDict, Dict.get?_ofEntries distinct]
  by_cases vacant : isVacant (event.body.get key) = true
  · have missing : Dict.find key (identityPayload event) = none := by
      rw [Option.eq_none_iff_forall_not_mem]
      intro value found
      have present := (Dict.find_eq_some_iff distinct key value).mp found
      obtain ⟨listed, kept⟩ := List.mem_filter.mp present
      obtain ⟨_, _, same⟩ := List.mem_map.mp listed
      cases same
      rw [vacant] at kept
      cases kept
    have blank : event.body.textAt key = "" := by
      have listed := of_decide_eq_true vacant
      rw [Json.textAt]
      simp only [List.mem_cons, List.not_mem_nil, or_false] at listed
      rcases listed with same | same | same | same <;> rw [same] <;> rfl
    rw [missing, blank, ite_self]
    rfl
  · by_cases listed : key ∈ propagatedFields
    · have found : Dict.find key (identityPayload event) = some (event.body.get key) := by
        refine (Dict.find_eq_some_iff distinct key _).mpr (List.mem_filter.mpr ⟨?_, ?_⟩)
        · exact List.mem_map.mpr ⟨key, listed, rfl⟩
        · simpa using vacant
      rw [found, if_pos listed]
      rfl
    · have missing : Dict.find key (identityPayload event) = none := by
        rw [Option.eq_none_iff_forall_not_mem]
        intro value found
        have present := (Dict.find_eq_some_iff distinct key value).mp found
        obtain ⟨other, member, same⟩ := List.mem_map.mp (List.mem_filter.mp present).1
        cases same
        exact listed member
      rw [missing, if_neg listed]
      rfl

/-- The fields that a verdict writes, over those that it takes from its source. -/
structure DependencyBarrierDecision.Carries (decision : DependencyBarrierDecision)
    (barrier : Barrier) (group : Group) (source : ZfEvent) : Prop where
  kind : decision.eventType ∈ [satisfiedEvent, blockedEvent]
  correlation : decision.correlationId = group.1
  barrierId : decision.payload.get? "barrier_id" = some (.str barrier.barrierId)
  barrierDigest : decision.payload.get? "barrier_digest" = some (.str barrier.barrierDigest)
  run : decision.payload.get? "workflow_run_id" = some (.str group.1)
  generation : decision.payload.get? "generation_key" = some (.str group.2)
  runId : (Json.ofDict decision.payload).textAt "run_id" = source.body.textAt "run_id"
  traceId : (Json.ofDict decision.payload).textAt "trace_id" = ""

theorem blocked_carries (barrier : Barrier) (sha256 : Sha256) (group : Group)
    (failed : List ZfEvent) (source : ZfEvent) :
    (barrier.blocked sha256 group failed source).Carries barrier group source := by
  have fields := Dict.get?_insertAll (nodup_blockedFields barrier sha256 group failed)
    (Dict.ofEntries (identityPayload source))
  constructor
  · exact List.mem_cons_of_mem _ List.mem_cons_self
  · rfl
  · exact fields "barrier_id"
  · exact fields "barrier_digest"
  · exact fields "workflow_run_id"
  · exact fields "generation_key"
  · exact (textAt_ofDict (fields "run_id")).trans
      ((textAt_identityPayload source "run_id").trans (if_pos (by decide)))
  · exact (textAt_ofDict (fields "trace_id")).trans
      ((textAt_identityPayload source "trace_id").trans (if_neg (by decide)))

theorem get?_fields_of_notMem (events : List ZfEvent) (dict : Dict String Json) {key : String}
    (other : key ∉ propagatedRefFields) :
    (dict.insertAll (propagatedRefs events).fields).get? key = dict.get? key :=
  Dict.get?_insertAll_of_notMem (fun member => other (mem_propagatedRefFields member)) dict

theorem satisfied_carries (barrier : Barrier) (sha256 : Sha256) (group : Group)
    (selected : List ZfEvent) (source : ZfEvent) :
    (barrier.satisfied sha256 group selected source).Carries barrier group source := by
  have fields := Dict.get?_insertAll (nodup_satisfiedFields barrier sha256 group selected)
    ((Dict.ofEntries (identityPayload source)).insertAll (propagatedRefs selected).fields)
  constructor
  · exact List.mem_cons_self
  · rfl
  · exact fields "barrier_id"
  · exact fields "barrier_digest"
  · exact fields "workflow_run_id"
  · exact fields "generation_key"
  · exact (textAt_ofDict ((fields "run_id").trans
      (get?_fields_of_notMem selected _ (by decide)))).trans
        ((textAt_identityPayload source "run_id").trans (if_pos (by decide)))
  · exact (textAt_ofDict ((fields "trace_id").trans
      (get?_fields_of_notMem selected _ (by decide)))).trans
        ((textAt_identityPayload source "trace_id").trans (if_neg (by decide)))

/-- The event of a decision, as any writer appends it. -/
structure DependencyBarrierDecision.Records (decision : DependencyBarrierDecision)
    (event : ZfEvent) : Prop where
  kind : event.type = decision.eventType
  payload : event.payload = Json.ofDict decision.payload
  correlation : decision.correlationId ≠ "" →
    event.correlationId = some decision.correlationId

theorem records_enrich (decision : DependencyBarrierDecision) (writer : Writer) (log : Log) :
    decision.Records (decision.toEvent.enrich writer log) where
  kind := rfl
  payload := rfl
  correlation := by
    intro filled
    simp only [Draft.enrich, DependencyBarrierDecision.toEvent, optional, if_neg filled,
      Option.some_or, reduceCtorEq, and_false, if_false]

/-- The decisions are appended one after the other and nothing else is. -/
theorem appendDecisions_eq (writer : Writer) (decisions : List DependencyBarrierDecision)
    (log : Log) : ∃ events, appendDecisions writer decisions log = log ++ events ∧
      List.Forall₂ DependencyBarrierDecision.Records decisions events := by
  induction decisions generalizing log with
  | nil => exact ⟨[], (List.append_nil log).symm, .nil⟩
  | cons decision rest ih =>
      obtain ⟨events, same, records⟩ := ih (log ++ [decision.toEvent.enrich writer log])
      refine ⟨decision.toEvent.enrich writer log :: events, ?_,
        .cons (records_enrich decision writer log) records⟩
      rw [appendDecisions, List.foldl_cons]
      refine same.trans ?_
      rw [List.append_assoc, List.singleton_append]

section Recorded

variable {decision : DependencyBarrierDecision} {barrier : Barrier} {group : Group}
  {source event : ZfEvent}

theorem DependencyBarrierDecision.Records.body (records : decision.Records event) :
    event.body = Json.ofDict decision.payload := by
  rw [ZfEvent.body, records.payload]
  rfl

theorem DependencyBarrierDecision.Records.isBarrierEvent (records : decision.Records event)
    (carries : decision.Carries barrier group source) : IsBarrierEvent event := by
  rw [IsBarrierEvent, records.kind]
  exact carries.kind

theorem textAt_of_get? {dict : Dict String Json} {key text : String}
    (found : dict.get? key = some (.str text)) : (Json.ofDict dict).textAt key = text := by
  rw [Json.textAt, Json.get_ofDict, found]
  exact Json.text_str text

/-- A recorded verdict is read back under its group. -/
theorem DependencyBarrierDecision.Records.recordedGroup (records : decision.Records event)
    (carries : decision.Carries barrier group source) (run : Tidy group.1)
    (generation : Tidy group.2) : barrier.recordedGroup event = some group := by
  unfold Barrier.recordedGroup strippedAt
  rw [records.body]
  dsimp only
  rw [textAt_of_get? carries.barrierId, textAt_of_get? carries.barrierDigest,
    textAt_of_get? carries.run, textAt_of_get? carries.generation, run.1, generation.1]
  simp [run.2, generation.2]

/-- A recorded verdict carries no id but its run and the run id of its source. -/
theorem DependencyBarrierDecision.Records.carriedIds (records : decision.Records event)
    (carries : decision.Carries barrier group source) (run : Tidy group.1) {identity : String}
    (member : identity ∈ carriedIds event) :
    identity = group.1 ∨
      (identity = strippedAt source.body "run_id" ∧ strippedAt source.body "run_id" ≠ "") := by
  obtain ⟨listed, filled⟩ := List.mem_filter.mp member
  have nonempty : identity ≠ "" := of_decide_eq_true filled
  have correlated : event.correlation = group.1 := by
    rw [ZfEvent.correlation, records.correlation (by rw [carries.correlation]; exact run.2),
      carries.correlation]
    exact run.1
  simp only [strippedAt, records.body, carries.runId, carries.traceId, textAt_of_get? carries.run,
    correlated, run.1, List.map_cons, List.map_nil, List.cons_append, List.nil_append,
    List.mem_cons, List.not_mem_nil, or_false] at listed
  rcases listed with same | same | same | same
  · subst same
    exact .inr ⟨rfl, nonempty⟩
  · exact .inl same
  · rw [same] at nonempty
    exact absurd PyString.strip_empty nonempty
  · exact .inl same

end Recorded

/-- The run of an event is an alias target, and the run id that the event
carries leads to it. -/
theorem eventRunId_leads {log : Log} {event : ZfEvent}
    (filled : eventRunId (runAliases log) event ≠ "") :
    (∃ name, (runAliases log).get? name = some (eventRunId (runAliases log) event)) := by
  obtain ⟨candidate, _, same⟩ := List.mem_map.mp (firstText_mem filled)
  cases found : (runAliases log).get? candidate with
  | none =>
      rw [found] at same
      exact absurd same.symm filled
  | some target =>
      rw [found, Option.getD_some] at same
      exact ⟨candidate, found.trans (congrArg some same)⟩

theorem eventRunId_of_runId {log : Log} {event : ZfEvent} {target : String}
    (leads : (runAliases log).get? (strippedAt event.body "run_id") = some target) :
    eventRunId (runAliases log) event = target := by
  rw [eventRunId, List.map_cons, leads, Option.getD_some]
  exact firstText_cons (tidy_runAliases leads).2 _

theorem singletonRun_leads {log : Log} (filled : (runViewOf log).singletonRun ≠ "") :
    ∃ name, (runAliases log).get? name = some (runViewOf log).singletonRun := by
  unfold runViewOf at filled ⊢
  dsimp only at filled ⊢
  split at filled
  · rename_i run alone
    have listed : run ∈ (runAliases log).values := by
      rw [← List.mem_eraseDups, alone]
      exact List.mem_singleton_self run
    exact ((runAliases log).mem_values_iff run).mp listed
  · exact absurd rfl filled

/-- What the group of an event says about the aliases. -/
structure GroupLeads (log : Log) (event : ZfEvent) (group : Group) : Prop where
  self : (runAliases log).get? group.1 = some group.1
  run : Tidy group.1
  generation : Tidy group.2
  runId : ∀ target, (runAliases log).get? (strippedAt event.body "run_id") = some target →
    target = group.1

theorem groupLeads {sha256 : Sha256} {log : Log} {event : ZfEvent} {group : Group}
    (found : (runViewOf log).group? sha256 event = some group) : GroupLeads log event group := by
  unfold RunView.group? at found
  dsimp only at found
  split at found
  · cases found
  rename_i filled
  cases found
  have target : ∃ name, (runAliases log).get? name =
      some (firstText [eventRunId (runAliases log) event, (runViewOf log).singletonRun]) := by
    by_cases resolved : eventRunId (runAliases log) event = ""
    · have single : firstText [eventRunId (runAliases log) event, (runViewOf log).singletonRun] =
          (runViewOf log).singletonRun := by
        rw [resolved, firstText_cons_empty]
        by_cases blank : (runViewOf log).singletonRun = ""
        · rw [blank]
          rfl
        · exact firstText_cons blank []
      rw [single]
      refine singletonRun_leads fun blank => filled ?_
      exact single.trans blank
    · rw [firstText_cons resolved]
      exact eventRunId_leads resolved
  obtain ⟨name, leads⟩ := target
  refine ⟨(scoped_runAliases log).idempotent name _ leads, tidy_runAliases leads,
    ⟨sha256.trimmed _, sha256.filled _⟩, fun target runId => ?_⟩
  have resolved := eventRunId_of_runId runId
  have nonempty := (tidy_runAliases runId).2
  change target = firstText [eventRunId (runAliases log) event, _]
  rw [resolved, firstText_cons nonempty]

theorem mem_of_latestOf {success failure : String} {grouped : Log} {event : ZfEvent}
    (latest : latestOf success failure grouped = some event) : event ∈ grouped :=
  List.mem_of_mem_filter (List.mem_of_getLast? latest)

theorem mem_of_standing {success failure : String} {grouped : Log} {event : ZfEvent}
    (stands : (standing grouped success failure).success? = some event ∨
      (standing grouped success failure).failure? = some event) : event ∈ grouped := by
  unfold standing at stands
  cases latest : latestOf success failure grouped with
  | none =>
      rw [latest] at stands
      rcases stands with impossible | impossible <;> cases impossible
  | some last =>
      rw [latest] at stands
      dsimp only at stands
      split at stands <;> rcases stands with same | same <;> cases same <;>
        exact mem_of_latestOf latest

theorem mem_of_mem_selected {barrier : Barrier} {grouped : Log} {event : ZfEvent}
    (member : event ∈ barrier.selected grouped) : event ∈ grouped := by
  obtain ⟨stands, listed, success⟩ := List.mem_filterMap.mp member
  obtain ⟨dependency, _, rfl⟩ := List.mem_map.mp listed
  exact mem_of_standing (.inl success)

theorem mem_of_mem_failed {barrier : Barrier} {grouped : Log} {event : ZfEvent}
    (member : event ∈ barrier.failed grouped) : event ∈ grouped := by
  obtain ⟨stands, listed, failure⟩ := List.mem_filterMap.mp member
  obtain ⟨dependency, _, rfl⟩ := List.mem_map.mp listed
  exact mem_of_standing (.inr failure)

/-- What a decision on a group says. -/
theorem decide_eq_some {barrier : Barrier} {sha256 : Sha256} {log : Log} {view : RunView}
    {group : Group} {decision : DependencyBarrierDecision}
    (found : barrier.verdict? sha256 log view group = some decision) :
    ∃ source ∈ barrier.scopedEvents sha256 view log group,
      decision = barrier.blocked sha256 group
        (barrier.failed (barrier.scopedEvents sha256 view log group)) source ∨
      decision = barrier.satisfied sha256 group
        (barrier.selected (barrier.scopedEvents sha256 view log group)) source := by
  unfold Barrier.verdict? at found
  dsimp only at found
  split at found
  · rename_i source last
    split at found
    · cases found
    · cases found
      exact ⟨source, mem_of_mem_failed (List.mem_of_getLast? last), .inl rfl⟩
  · split at found
    · cases found
    · obtain ⟨source, last, rfl⟩ := Option.map_eq_some_iff.mp found
      exact ⟨source, mem_of_mem_selected (List.mem_of_getLast? last), .inr rfl⟩

/-- A decision comes from an event of its group that is in the log. -/
theorem decision_carries {barrier : Barrier} {sha256 : Sha256} {log : Log} {view : RunView}
    {group : Group} {decision : DependencyBarrierDecision}
    (found : barrier.verdict? sha256 log view group = some decision) :
    ∃ source ∈ log, view.group? sha256 source = some group ∧
      decision.Carries barrier group source := by
  obtain ⟨source, member, verdict⟩ := decide_eq_some found
  obtain ⟨listed, meets⟩ := List.mem_filter.mp member
  refine ⟨source, listed, (of_decide_eq_true meets).2, ?_⟩
  rcases verdict with rfl | rfl
  · exact blocked_carries barrier sha256 group _ source
  · exact satisfied_carries barrier sha256 group _ source

theorem mem_reconcile {sha256 : Sha256} {stages : List WorkflowStageConfig} {log : Log}
    {decision : DependencyBarrierDecision} :
    decision ∈ reconcileDependencyBarriers sha256 stages log ↔
      ∃ barrier ∈ stages.filterMap WorkflowStageConfig.barrier?,
        ∃ group ∈ barrier.groups sha256 (runViewOf log) log,
          barrier.verdict? sha256 log (runViewOf log) group = some decision := by
  simp only [reconcileDependencyBarriers, reconcileStage, List.mem_flatMap, List.mem_filterMap]

/-- The event of a decision changes no alias of a log with the same runs. -/
theorem runAliases_append_recorded {sha256 : Sha256} {log current : Log} {event source : ZfEvent}
    {decision : DependencyBarrierDecision} {barrier : Barrier} {group : Group}
    (one : ∀ event ∈ log, ¬NamesTwoRuns log event) (same : runAliases current = runAliases log)
    (listed : source ∈ log) (found : (runViewOf log).group? sha256 source = some group)
    (carries : decision.Carries barrier group source) (records : decision.Records event) :
    runAliases (current ++ [event]) = runAliases log := by
  have leads := groupLeads found
  have other : event.type ∉ canonicalRunAnchorEvents := by
    have kind := records.isBarrierEvent carries
    simp only [IsBarrierEvent, List.mem_cons, List.not_mem_nil, or_false] at kind
    rcases kind with kind | kind <;> rw [kind] <;> decide
  have toRun : ∀ identity ∈ runIdentities (runAliases current) event,
      (runAliases current).get? identity = some group.1 := by
    intro identity member
    rw [same]
    rcases records.carriedIds carries leads.run (mem_carriedIds_of_mem_runIdentities member) with
      rfl | ⟨rfl, filled⟩
    · exact leads.self
    · obtain ⟨target, known⟩ := Option.isSome_iff_exists.mp
        (known_of_one_run listed (one source listed) List.mem_cons_self filled)
      rw [known, leads.runId target known]
  rw [runAliases_append_other current other, ← same]
  exact (scoped_runAliases current).noteRun_eq_self toRun

theorem runAliases_appendAll {log : Log} {decisions : List DependencyBarrierDecision}
    {events : List ZfEvent}
    (harmless : ∀ decision ∈ decisions, ∀ event, decision.Records event → ∀ current,
      runAliases current = runAliases log → runAliases (current ++ [event]) = runAliases log)
    (records : List.Forall₂ DependencyBarrierDecision.Records decisions events) {current : Log}
    (same : runAliases current = runAliases log) :
    runAliases (current ++ events) = runAliases log := by
  induction records generalizing current with
  | nil => rwa [List.append_nil]
  | @cons decision event decisions events recorded _ ih =>
      have step := harmless decision List.mem_cons_self event recorded current same
      have whole : current ++ event :: events = (current ++ [event]) ++ events := by simp
      rw [whole]
      exact ih (fun other member => harmless other (List.mem_cons_of_mem _ member)) step

section Next

variable {sha256 : Sha256} {barrier : Barrier} {log later : Log} {view : RunView}

/-- Only barrier events were appended to the log. -/
theorem scopedEvents_append (barriers : ∀ event ∈ later, IsBarrierEvent event) (group : Group) :
    barrier.scopedEvents sha256 view (log ++ later) group =
      barrier.scopedEvents sha256 view log group := by
  have none : later.filter (fun event => decide
      (barrier.Concerns event ∧ view.group? sha256 event = some group)) = [] := by
    rw [List.filter_eq_nil_iff]
    intro event member
    simp [Barrier.Concerns, barriers event member]
  rw [Barrier.scopedEvents, List.filter_append, none, List.append_nil]
  rfl

theorem groups_append (barriers : ∀ event ∈ later, IsBarrierEvent event) :
    barrier.groups sha256 view (log ++ later) = barrier.groups sha256 view log := by
  have none : later.filter (fun event => decide (barrier.Concerns event)) = [] := by
    rw [List.filter_eq_nil_iff]
    intro event member
    simp [Barrier.Concerns, barriers event member]
  rw [Barrier.groups, List.filter_append, none, List.append_nil]
  rfl

theorem blockRecorded_append {group : Group} {failed : List ZfEvent}
    (recorded : barrier.BlockRecorded sha256 log group failed) :
    barrier.BlockRecorded sha256 (log ++ later) group failed := by
  rw [Barrier.BlockRecorded, List.filterMap_append]
  exact List.mem_append_left _ recorded

theorem settled_append {group : Group} {selected : List ZfEvent}
    (settled : barrier.Settled sha256 log group selected) :
    barrier.Settled sha256 (log ++ later) group selected := by
  obtain ⟨settlement, member, covers⟩ := settled
  refine ⟨settlement, ?_, covers⟩
  rw [List.filterMap_append]
  exact List.mem_append_left _ member

end Next

/-- A recorded block suppresses the block of the same failures. -/
theorem blockRecorded_of_records {barrier : Barrier} {sha256 : Sha256} {log : Log}
    {group : Group} {failed : List ZfEvent} {source event : ZfEvent} (run : Tidy group.1)
    (generation : Tidy group.2) (listed : event ∈ log)
    (records : (barrier.blocked sha256 group failed source).Records event) :
    barrier.BlockRecorded sha256 log group failed := by
  have carries := blocked_carries barrier sha256 group failed source
  have fingerprint : (barrier.blocked sha256 group failed source).payload.get?
      "source_fingerprint" = some (.str (stableDigest sha256 (idsJson failed))) :=
    Dict.get?_insertAll (nodup_blockedFields barrier sha256 group failed)
      (Dict.ofEntries (identityPayload source)) "source_fingerprint"
  refine List.mem_filterMap.mpr ⟨event, listed, ?_⟩
  have kind : event.type = blockedEvent := records.kind
  rw [Barrier.block?, if_neg (not_not.mpr kind), records.recordedGroup carries run generation,
    Option.map_some, records.body, textAt_of_get? fingerprint]

/-- A recorded satisfaction suppresses the one with the same references. -/
theorem settled_of_records {barrier : Barrier} {sha256 : Sha256} {log : Log}
    {group : Group} {selected : List ZfEvent} {source event : ZfEvent} (run : Tidy group.1)
    (generation : Tidy group.2) (listed : event ∈ log)
    (records : (barrier.satisfied sha256 group selected source).Records event) :
    barrier.Settled sha256 log group selected := by
  have carries := satisfied_carries barrier sha256 group selected source
  have digest : (barrier.satisfied sha256 group selected source).payload.get?
      "propagation_digest" =
        some (.str (stableDigest sha256 (.obj (propagatedRefs selected).fields))) :=
    Dict.get?_insertAll (nodup_satisfiedFields barrier sha256 group selected)
      ((Dict.ofEntries (identityPayload source)).insertAll (propagatedRefs selected).fields)
      "propagation_digest"
  have kind : event.type = satisfiedEvent := records.kind
  have settles : ∃ settlement, barrier.settlement? sha256 event = some settlement ∧
      settlement.group = group ∧ settlement.propagationDigest =
        stableDigest sha256 (.obj (propagatedRefs selected).fields) := by
    rw [Barrier.settlement?, if_neg (not_not.mpr kind),
      records.recordedGroup carries run generation, Option.map_some]
    refine ⟨_, rfl, rfl, ?_⟩
    dsimp only
    rw [strippedAt, records.body, textAt_of_get? digest]
    rw [show PyString.strip (stableDigest sha256 (.obj (propagatedRefs selected).fields)) =
      stableDigest sha256 (.obj (propagatedRefs selected).fields) from sha256.trimmed _]
    exact firstText_cons (sha256.filled _) _
  obtain ⟨settlement, found, same, digested⟩ := settles
  exact ⟨settlement, List.mem_filterMap.mpr ⟨event, listed, found⟩, same, .inl digested⟩

/-- A verdict that was returned is not returned again once its event is in the
log, and a verdict that was suppressed stays suppressed. -/
theorem decide_replayed {barrier : Barrier} {sha256 : Sha256} {log later : Log} {group : Group}
    (barriers : ∀ event ∈ later, IsBarrierEvent event) (run : Tidy group.1)
    (generation : Tidy group.2)
    (recorded : ∀ decision, barrier.verdict? sha256 log (runViewOf log) group = some decision →
      ∃ event ∈ later, decision.Records event) :
    barrier.verdict? sha256 (log ++ later) (runViewOf log) group = none := by
  unfold Barrier.verdict? at recorded ⊢
  dsimp only at recorded ⊢
  rw [scopedEvents_append barriers]
  generalize barrier.scopedEvents sha256 (runViewOf log) log group = grouped at recorded ⊢
  cases last : (barrier.failed grouped).getLast? with
  | some source =>
      rw [last] at recorded
      dsimp only at recorded ⊢
      by_cases before : barrier.BlockRecorded sha256 log group (barrier.failed grouped)
      · rw [if_pos (blockRecorded_append before)]
      · rw [if_neg before] at recorded
        obtain ⟨event, listed, records⟩ := recorded _ rfl
        rw [if_pos (blockRecorded_of_records run generation
          (List.mem_append_right log listed) records)]
  | none =>
      rw [last] at recorded
      dsimp only at recorded ⊢
      by_cases short : (barrier.selected grouped).length ≠ barrier.requiredEvents.length
      · rw [if_pos (.inl short)]
      by_cases before : barrier.Settled sha256 log group (barrier.selected grouped)
      · rw [if_pos (.inr (settled_append before))]
      · rw [if_neg (not_or.mpr ⟨short, before⟩)] at recorded
        cases source : (barrier.selected grouped).getLast? with
        | none => simp
        | some source =>
            rw [source] at recorded
            obtain ⟨event, listed, records⟩ := recorded _ rfl
            rw [if_pos (.inr (settled_of_records run generation
              (List.mem_append_right log listed) records))]

/-- When no event carries ids of two established runs, reconciling again after the
events of all decisions were appended returns no decision. -/
theorem dependency_barriers_replay_stable (sha256 : Sha256) (stages : List WorkflowStageConfig)
    (writer : Writer) (log : Log) (one : ∀ event ∈ log, ¬NamesTwoRuns log event) :
    reconcileDependencyBarriers sha256 stages
      (appendDecisions writer (reconcileDependencyBarriers sha256 stages log) log) = [] := by
  obtain ⟨events, appended, records⟩ :=
    appendDecisions_eq writer (reconcileDependencyBarriers sha256 stages log) log
  rw [appended]
  have sourced : ∀ decision ∈ reconcileDependencyBarriers sha256 stages log,
      ∃ barrier group source, source ∈ log ∧
        (runViewOf log).group? sha256 source = some group ∧
        decision.Carries barrier group source := by
    intro decision member
    obtain ⟨barrier, _, group, _, found⟩ := mem_reconcile.mp member
    obtain ⟨source, listed, grouped, carries⟩ := decision_carries found
    exact ⟨barrier, group, source, listed, grouped, carries⟩
  have aliases : runAliases (log ++ events) = runAliases log := by
    refine runAliases_appendAll (fun decision member event recorded current same => ?_) records rfl
    obtain ⟨barrier, group, source, listed, grouped, carries⟩ := sourced decision member
    exact runAliases_append_recorded one same listed grouped carries recorded
  have view : runViewOf (log ++ events) = runViewOf log := by
    unfold runViewOf
    rw [aliases]
  have barriers : ∀ event ∈ events, IsBarrierEvent event := by
    intro event member
    obtain ⟨decision, listed, recorded⟩ := Lists.exists_mem_of_forall₂ records member
    obtain ⟨barrier, group, source, _, _, carries⟩ := sourced decision listed
    exact recorded.isBarrierEvent carries
  rw [List.eq_nil_iff_forall_not_mem]
  intro decision member
  obtain ⟨barrier, kept, group, listed, found⟩ := mem_reconcile.mp member
  rw [view] at listed found
  rw [groups_append barriers] at listed
  obtain ⟨source, _, grouped, _⟩ := decision_carries found
  have leads := groupLeads grouped
  rw [decide_replayed barriers leads.run leads.generation fun first decided => ?_] at found
  · cases found
  · have first_listed := mem_reconcile.mpr ⟨barrier, kept, group, listed, decided⟩
    obtain ⟨event, present, recorded⟩ := Lists.exists_mem_of_forall₂ records.flip first_listed
    exact ⟨event, present, recorded⟩

theorem tidy_unlisted : Tidy "unlisted" := ⟨by decide +kernel, by decide⟩

/-- A hexadecimal digest known at finitely many texts. -/
def tableSha256 (table : List (String × String)) (tidy : ∀ entry ∈ table, Tidy entry.2) :
    Sha256 where
  hexdigest := fun text =>
    match table.find? fun entry => decide (entry.1 = text) with
    | some entry => entry.2
    | none => "unlisted"
  filled := by
    intro text
    cases found : table.find? fun entry => decide (entry.1 = text) with
    | some entry => exact (tidy entry (List.mem_of_find?_eq_some found)).2
    | none => exact tidy_unlisted.2
  trimmed := by
    intro text
    cases found : table.find? fun entry => decide (entry.1 = text) with
    | some entry => exact (tidy entry (List.mem_of_find?_eq_some found)).1
    | none => exact tidy_unlisted.1

instance (text : String) : Decidable (Tidy text) := inferInstanceAs (Decidable (_ ∧ _))

/-- The digests of the generation, of the sources, of the failures and of no references. -/
def synthesizeDigests : List (String × String) :=
  [("\x7b\"request_revision\":\"1\"\x7d",
      "75fde28ec6c3dc023b9f5424c2d2bb5f681db1dd7850383c3d2bc544062c16ea"),
    ("[\"e-2\",\"e-3\"]", "70d120545f85394f9c6948f2b87dc6b7d090530f0bbe4a28f64743ae4dcceebf"),
    ("[\"e-5\"]", "96d95dc079dc36500a065e059cefa77111dca5bbff364cd3a20433cd733806c7"),
    ("\x7b\x7d", "44136fa355b3678a1146ad16f7e8649e94fb4fc21fe77e8310c060f61caaff8a")]

def synthesizeSha256 : Sha256 := tableSha256 synthesizeDigests (by decide +kernel)

def synthesizeStage : WorkflowStageConfig where
  id := "synthesize"
  dependencies := ["collect-a", "collect-b"]
  dependencyEvents := ["collect-a.completed", "collect-b.completed"]
  dependencyFailureEvents := ["collect-a.failed", "collect-b.failed"]
  dependencyBarrierId := "barrier:synthesize:test"
  dependencyBarrierDigest := "aaaaaaaa"

def synthesizeEvent (type id : String) : ZfEvent where
  type := type
  id := id
  ts := "2026-07-01T00:00:00+00:00"
  actor := some "zf-cli"
  correlationId := some "run-1"
  payload := .obj [("workflow_run_id", .str "run-1"), ("flow_kind", .str "workflow"),
    ("request_revision", .str "1")]

def synthesizeWriter : Writer where
  stamp := fun position =>
    ⟨"e-" ++ toString (position + 1), "2026-07-01T00:00:00+00:00", "trace"⟩

def collectedLog : Log :=
  [synthesizeEvent "workflow.invoke.requested" "e-1", synthesizeEvent "collect-a.completed" "e-2",
    synthesizeEvent "collect-b.completed" "e-3"]

theorem not_namesTwoRuns_of_values {log : Log} {run : String}
    (alone : ∀ value ∈ (runAliases log).values, value = run) (event : ZfEvent) :
    ¬NamesTwoRuns log event := by
  rintro ⟨first, _, second, _, root, other, _, _, different, firstLeads, secondLeads⟩
  refine different ((alone root ?_).trans (alone other ?_).symm)
  · exact ((runAliases log).mem_values_iff root).mpr ⟨first, firstLeads⟩
  · exact ((runAliases log).mem_values_iff other).mpr ⟨second, secondLeads⟩

theorem collectedLog_alone : ∀ value ∈ (runAliases collectedLog).values, value = "run-1" := by
  decide +kernel

theorem collectedLog_replay_stable :
    (reconcileDependencyBarriers synthesizeSha256 [synthesizeStage] collectedLog).map
        (fun decision => (decision.eventType, decision.payload.get? "generation_key")) =
      [(satisfiedEvent,
        some (.str "75fde28ec6c3dc023b9f5424c2d2bb5f681db1dd7850383c3d2bc544062c16ea"))] ∧
      reconcileDependencyBarriers synthesizeSha256 [synthesizeStage]
        (appendDecisions synthesizeWriter
          (reconcileDependencyBarriers synthesizeSha256 [synthesizeStage] collectedLog)
          collectedLog) = [] :=
  ⟨by decide +kernel, dependency_barriers_replay_stable synthesizeSha256 [synthesizeStage]
    synthesizeWriter collectedLog fun event _ =>
      not_namesTwoRuns_of_values collectedLog_alone event⟩

end ZaofuFormal.Workflow
