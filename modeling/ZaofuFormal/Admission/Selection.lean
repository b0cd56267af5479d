import ZaofuFormal.Admission.StageRuns

/-!
# What a reconcile round selects

In a log whose runs are all in a stage, every candidate names a logged invoke of
its own run.  A round therefore selects the first candidate that was not tried
before, and the queue is tried in the order in which its runs were queued.
-/

namespace ZaofuFormal.Admission

open Foundation Workflow

section Selection

variable {runtime : Runtime} {log : Log} {runId : String} {entry : RunAdmissionEntry}
  {attempted : List String} {source : ZfEvent}

theorem invokeById?_eq_some (core : Core runtime.writer log) (stamped : Stamped runtime.writer)
    (invoked : Invoked log source) : invokeById? log source.id = some source := by
  cases hit : invokeById? log source.id with
  | none =>
      have missing := List.find?_eq_none.mp hit source invoked.1
      exact absurd (decide_eq_true ⟨rfl, invoked.2⟩) missing
  | some other =>
      have shape := List.find?_some hit
      obtain ⟨sameId, type⟩ := of_decide_eq_true shape
      have known : Invoked log other := ⟨List.mem_of_find?_eq_some hit, type⟩
      rw [core.unique stamped known invoked sameId]

/-- A run that names its invoke offers it until it was tried. -/
theorem candidateSource_of_hasSource (attempted : List String) (core : Core runtime.writer log)
    (stamped : Stamped runtime.writer) (found : (runsOf log).get? runId = some entry)
    (named : HasSource log runId entry) :
    ∃ source, Invoked log source ∧ eventRunId source = runId ∧ entry.sourceEventId = source.id ∧
      candidateSource attempted log runId =
        if source.id ∈ attempted then none else some source := by
  obtain ⟨source, invoked, run, name⟩ := named
  refine ⟨source, invoked, run, name, ?_⟩
  obtain ⟨_, nonempty⟩ := core.trimmed stamped invoked
  simp only [candidateSource, found, name, nonempty, false_or,
    invokeById?_eq_some core stamped invoked]

theorem mem_candidates_cases (member : runId ∈ reconcileCandidates runtime log) :
    (Active log runId ∧ crashGap log runId = true) ∨
      runId ∈ (buildRunAdmissionProjection log).queuedRunIds := by
  rcases List.mem_append.mp member with gap | queued
  · exact Or.inl (List.mem_filter.mp gap)
  · right
    split at queued
    · exact queued
    · cases queued

theorem queued_of_mem (member : runId ∈ (buildRunAdmissionProjection log).queuedRunIds) :
    ∃ entry, (runsOf log).get? runId = some entry ∧ entry.status = .queued := by
  obtain ⟨entry, found, status, _⟩ := (mem_queuedRunIds (runsOf_keyed log) runId).mp member
  exact ⟨entry, found, status⟩

theorem running_of_crashGap (gap : crashGap log runId = true) :
    ∃ entry, (runsOf log).get? runId = some entry ∧ entry.status = .running ∧
      entry.admittedEventId ≠ "" ∧ sourceHasOutcome log entry.sourceEventId = false := by
  obtain ⟨entry, found, shape⟩ := (Option.any_eq_true _ _).mp gap
  simp only [Bool.and_eq_true, decide_eq_true_eq, Bool.not_eq_true'] at shape
  exact ⟨entry, found, shape.1.1, shape.1.2, shape.2⟩

theorem Staged.waiting_of_queued (staged : Staged log runId)
    (found : (runsOf log).get? runId = some entry) (queued : entry.status = .queued) :
    Waiting log runId entry := by
  cases staged with
  | fresh absent _ => rw [absent] at found; cases found
  | waiting known waiting =>
      cases Option.some.inj (known.symm.trans found)
      exact waiting
  | holding known holding =>
      cases Option.some.inj (known.symm.trans found)
      rw [holding.status] at queued
      cases queued
  | ended known terminal =>
      cases Option.some.inj (known.symm.trans found)
      rw [RunAdmissionEntry.terminal, queued] at terminal
      cases terminal

theorem ne_empty_of_found (found : (runsOf log).get? runId = some entry) : runId ≠ "" := by
  rintro rfl
  have unnamed : (runsOf log).get? "" = none := foldRuns_get?_unnamed _ log
  rw [unnamed] at found
  cases found

theorem candidate_hasSource (tracked : Tracked runtime.writer log)
    (member : runId ∈ reconcileCandidates runtime log) :
    ∃ entry, (runsOf log).get? runId = some entry ∧ HasSource log runId entry := by
  rcases mem_candidates_cases member with ⟨_, gap⟩ | queued
  · obtain ⟨entry, found, status, _⟩ := running_of_crashGap gap
    have named := ne_empty_of_found found
    exact ⟨entry, found, ((tracked.staged _ named named).holding_of_running found status).source⟩
  · obtain ⟨entry, found, status⟩ := queued_of_mem queued
    have named := ne_empty_of_found found
    exact ⟨entry, found, ((tracked.staged _ named named).waiting_of_queued found status).source⟩

/-- The invoke of a candidate was tried in this pass. -/
def Tried (attempted : List String) (log : Log) (runId : String) : Prop :=
  ∃ entry, (runsOf log).get? runId = some entry ∧ entry.sourceEventId ∈ attempted

/-- A round selects the first candidate that was not tried. -/
theorem reconcileSource_eq_some_iff (stamped : Stamped runtime.writer)
    (tracked : Tracked runtime.writer log) :
    reconcileSource runtime attempted log = some source ↔
      ∃ before after, reconcileCandidates runtime log = before ++ eventRunId source :: after ∧
        (∃ entry, (runsOf log).get? (eventRunId source) = some entry ∧
          entry.sourceEventId = source.id ∧ source.id ∉ attempted ∧ Invoked log source) ∧
        ∀ runId ∈ before, Tried attempted log runId := by
  rw [reconcileSource, List.findSome?_eq_some_iff]
  constructor
  · rintro ⟨before, runId, after, split, hit, missed⟩
    have member (candidate : String) (present : candidate ∈ before ++ runId :: after) :
        candidate ∈ reconcileCandidates runtime log := split ▸ present
    obtain ⟨entry, found, named⟩ := candidate_hasSource tracked (member runId (by simp))
    obtain ⟨offered, invoked, run, name, offer⟩ := candidateSource_of_hasSource
      attempted tracked.core stamped found named
    rw [offer] at hit
    split_ifs at hit with tried
    cases Option.some.inj hit
    refine ⟨before, after, run ▸ split, ⟨entry, run ▸ found, name, tried, invoked⟩, ?_⟩
    intro other earlier
    obtain ⟨otherEntry, otherFound, otherNamed⟩ :=
      candidate_hasSource tracked (member other (by simp [earlier]))
    obtain ⟨otherSource, _, _, otherName, otherOffer⟩ := candidateSource_of_hasSource
      attempted tracked.core stamped otherFound otherNamed
    refine ⟨otherEntry, otherFound, otherName ▸ ?_⟩
    by_contra untried
    rw [missed other earlier, if_neg untried] at otherOffer
    cases otherOffer
  · rintro ⟨before, after, split, ⟨entry, found, name, untried, invoked⟩, tried⟩
    refine ⟨before, eventRunId source, after, split, ?_, fun other earlier => ?_⟩
    · obtain ⟨offered, known, _, offeredName, offer⟩ := candidateSource_of_hasSource
        attempted tracked.core stamped found
        ⟨source, invoked, rfl, name⟩
      have same : offered = source :=
        tracked.core.unique stamped known invoked (offeredName.symm.trans name)
      rw [offer, same, if_neg untried]
    · obtain ⟨otherEntry, otherFound, attemptedSource⟩ := tried other earlier
      simp only [candidateSource, otherFound, attemptedSource, or_true, if_true]

/-- The queue is sorted by its keys. -/
theorem queueKey_le_of_split (before : List String) {after : List String}
    {first second : RunAdmissionEntry}
    {other : String}
    (split : (buildRunAdmissionProjection log).queuedRunIds = before ++ runId :: after)
    (firstFound : (runsOf log).get? runId = some first) (later : other ∈ after)
    (secondFound : (runsOf log).get? other = some second) : queueKey first ≤ queueKey second := by
  obtain ⟨left, right, parts, _, rightIds⟩ := List.map_eq_append_iff.mp split
  obtain ⟨head, tail, shape, headId, tailIds⟩ := List.map_eq_cons_iff.mp rightIds
  have sorted := Sorting.sortedBy_pairwise queueKey ((runsOf log).values.filter fun entry =>
    decide (entry.status = .queued) && entry.queuedIndex.isSome)
  have stored (item : RunAdmissionEntry) (member : item ∈ left ++ right) :
      (runsOf log).get? item.runId = some item := by
    rw [← parts, Sorting.mem_sortedBy] at member
    obtain ⟨key, found⟩ := (Dict.mem_values_iff _ _).mp (List.mem_filter.mp member).1
    exact runsOf_keyed log key item found ▸ found
  have headStored := stored head (by simp [shape])
  rw [headId, firstFound] at headStored
  obtain ⟨item, itemMember, itemId⟩ := List.mem_map.mp (tailIds ▸ later)
  have itemStored := stored item (by simp [shape, itemMember])
  rw [itemId, secondFound] at itemStored
  have ordered : (left ++ right).Pairwise fun first second => queueKey first ≤ queueKey second :=
    parts ▸ sorted
  rw [shape] at ordered
  have below := (List.pairwise_cons.mp (List.pairwise_append.mp ordered).2.1).1 item itemMember
  rw [Option.some.inj headStored, Option.some.inj itemStored]
  exact below

end Selection

end ZaofuFormal.Admission
