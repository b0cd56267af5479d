import ZaofuFormal.Workflow.RunNamespaces

/-!
# The members of a run

The ids of one run as the aliases hold them: they are stripped and filled, an
event that names one run at most has all its ids among them, and an event whose
ids already lead to one run changes no alias.
-/

namespace ZaofuFormal.Workflow

open Foundation

def Tidy (text : String) : Prop := PyString.strip text = text ∧ text ≠ ""

theorem Anchored.tidy {log : Log} {root : String} (anchored : Anchored log root) : Tidy root := by
  obtain ⟨event, _, _, same, filled⟩ := anchored
  refine ⟨?_, filled⟩
  rw [← same, anchorId, PyString.strip_strip]

/-- The ids that an event carries in the fields that can name a run. -/
def carriedIds (event : ZfEvent) : List String :=
  (["run_id", "workflow_run_id", "trace_id"].map (strippedAt event.body) ++
    [event.correlation]).filter fun text => decide (text ≠ "")

variable {aliases : Dict String String} {event : ZfEvent} {identity : String}
  {roots : Dict String Nat}

theorem mem_carriedIds_of_mem_runIdentities (member : identity ∈ runIdentities aliases event) :
    identity ∈ carriedIds event := by
  unfold runIdentities at member
  dsimp only at member
  rw [carriedIds, List.filter_append, List.mem_append]
  split at member
  · rename_i correlated
    rcases List.mem_append.mp member with explicit | same
    · exact .inl explicit
    · rw [List.mem_singleton.mp same]
      exact .inr (List.mem_filter.mpr ⟨List.mem_singleton_self _, decide_eq_true correlated.1⟩)
  · exact .inl member

theorem tidy_of_mem_carriedIds (member : identity ∈ carriedIds event) : Tidy identity := by
  obtain ⟨listed, filled⟩ := List.mem_filter.mp member
  refine ⟨?_, of_decide_eq_true filled⟩
  rcases List.mem_append.mp listed with explicit | same
  · obtain ⟨key, _, rfl⟩ := List.mem_map.mp explicit
    exact PyString.strip_strip _
  · rw [List.mem_singleton.mp same]
    exact PyString.strip_strip _

theorem tidy_noteRun {log : Log} (event : ZfEvent)
    (tidy : ∀ name target, aliases.get? name = some target → Tidy target) :
    ∀ name target, (noteRun (canonicalRoots log) aliases event).get? name = some target →
      Tidy target := by
  have notes := noteRun_notes (canonicalRoots log) aliases event
  generalize noteRun (canonicalRoots log) aliases event = noted at notes ⊢
  intro name target leads
  cases notes with
  | nothing unnamed => exact tidy name target leads
  | conflict established _ held every entries =>
      rw [entries] at leads
      split at leads
      · rename_i listed
        cases leads
        exact ((contains_canonicalRoots log name).mp (held name listed)).tidy
      · exact tidy name target leads
  | merge canonical _ chosen named agree entries =>
      have canonicalTidy : Tidy canonical := by
        rw [chosen]
        rcases canonicalRun_cases (canonicalRoots log) aliases named with
          ⟨_, _, held, _⟩ | ⟨_, member | ⟨identity, _, found⟩⟩
        · exact ((contains_canonicalRoots log _).mp held).tidy
        · exact tidy_of_mem_carriedIds (mem_carriedIds_of_mem_runIdentities member)
        · exact tidy identity _ found
      rw [entries] at leads
      split at leads
      · cases leads
        exact canonicalTidy
      · obtain ⟨old, oldLeads, same⟩ := Option.map_eq_some_iff.mp leads
        split at same
        · cases same
          exact canonicalTidy
        · rw [← same]
          exact tidy name old oldLeads

/-- Every canonical id is stripped and filled. -/
theorem tidy_runAliases {log : Log} {name target : String}
    (leads : (runAliases log).get? name = some target) : Tidy target := by
  have fold : ∀ (rest : Log) (aliases : Dict String String),
      (∀ name target, aliases.get? name = some target → Tidy target) →
      ∀ name target, (rest.foldl (noteRun (canonicalRoots log)) aliases).get? name = some target →
        Tidy target := by
    intro rest
    induction rest with
    | nil => exact fun _ tidy => tidy
    | cons event rest ih => exact fun aliases tidy => ih _ (tidy_noteRun event tidy)
  exact fold log Dict.empty (fun _ _ impossible => nomatch impossible) name target leads

/-- The event carries ids of two established runs. -/
def NamesTwoRuns (log : Log) (event : ZfEvent) : Prop :=
  ∃ first ∈ carriedIds event, ∃ second ∈ carriedIds event, ∃ root other,
    Anchored log root ∧ Anchored log other ∧ root ≠ other ∧
      (runAliases log).get? first = some root ∧ (runAliases log).get? second = some other

/-- An id that stands for a root leads to it once its event was read. -/
theorem Scoped.noted (apart : Scoped roots aliases) (event : ZfEvent) {root : String}
    (member : identity ∈ runIdentities aliases event)
    (stands : StandsFor roots aliases identity root) :
    (noteRun roots aliases event).get? identity = some root := by
  obtain ⟨held, same | ⟨_, leads⟩⟩ := stands
  · subst same
    have own : StandsFor roots aliases identity identity := ⟨held, .inl rfl⟩
    have notes := noteRun_notes roots aliases event
    generalize noteRun roots aliases event = noted at notes ⊢
    cases notes with
    | nothing unnamed =>
        rw [unnamed] at member
        cases member
    | conflict established _ _ every entries => rw [entries, if_pos (every _ member _ own)]
    | merge canonical _ chosen named agree entries =>
        rw [entries, if_pos member, chosen, canonicalRun_eq named agree member own]
  · exact apart.keeps_root event held leads

/-- Reading an event makes its ids known, unless they stand for two roots. -/
theorem noteRun_known (unnamed : roots.contains "" = false) (event : ZfEvent) :
    (∃ first ∈ runIdentities aliases event, ∃ second ∈ runIdentities aliases event,
      ∃ root other, StandsFor roots aliases first root ∧ StandsFor roots aliases second other ∧
        root ≠ other) ∨
    ∀ identity ∈ runIdentities aliases event,
      ((noteRun roots aliases event).get? identity).isSome = true := by
  unfold noteRun
  generalize runIdentities aliases event = identities
  dsimp only
  by_cases blank : identities = []
  · right
    subst blank
    exact fun _ impossible => nomatch impossible
  rw [if_neg blank]
  have stood : ∀ root, root ∈ ((identities.map fun identity =>
      if roots.contains identity then identity else (aliases.get? identity).getD "").filter
        roots.contains).eraseDups →
      ∃ identity ∈ identities, StandsFor roots aliases identity root := by
    intro root member
    rw [List.mem_eraseDups, List.mem_filter, List.mem_map] at member
    obtain ⟨⟨identity, listed, same⟩, held⟩ := member
    refine ⟨identity, listed, held, ?_⟩
    by_cases own : roots.contains identity = true
    · rw [if_pos own] at same
      exact .inl same
    · rw [if_neg own] at same
      cases found : aliases.get? identity with
      | none =>
          rw [found, Option.getD_none] at same
          rw [← same, unnamed] at held
          cases held
      | some target =>
          rw [found, Option.getD_some] at same
          exact .inr ⟨Bool.eq_false_iff.mpr own, by rw [same]⟩
  by_cases several : 1 < ((identities.map fun identity =>
      if roots.contains identity then identity else (aliases.get? identity).getD "").filter
        roots.contains).eraseDups.length
  · left
    obtain ⟨root, rootListed, other, otherListed, different⟩ :=
      Lists.exists_ne_of_one_lt_length (Lists.nodup_eraseDups _) several
    obtain ⟨first, firstMember, firstStands⟩ := stood root rootListed
    obtain ⟨second, secondMember, secondStands⟩ := stood other otherListed
    exact ⟨first, firstMember, second, secondMember, root, other, firstStands, secondStands,
      different⟩
  · right
    rw [if_neg several]
    intro identity member
    rw [Dict.get?_insertAll_map (fun _ => canonicalRun roots aliases identities), if_pos member]
    rfl

theorem isSome_noteRun (event : ZfEvent)
    {name : String} (known : (aliases.get? name).isSome = true) :
    ((noteRun roots aliases event).get? name).isSome = true := by
  have notes := noteRun_notes roots aliases event
  generalize noteRun roots aliases event = noted at notes ⊢
  cases notes with
  | nothing unnamed => exact known
  | conflict established _ _ every entries =>
      rw [entries]
      split
      · rfl
      · exact known
  | merge canonical _ chosen named agree entries =>
      rw [entries]
      split
      · rfl
      · rwa [Option.isSome_map]

theorem isSome_foldl (log : Log) {name : String} (known : (aliases.get? name).isSome = true) :
    ((log.foldl (noteRun roots) aliases).get? name).isSome = true := by
  induction log generalizing aliases with
  | nil => exact known
  | cons event rest ih => exact ih (isSome_noteRun event known)

theorem contains_canonicalRoots_empty (log : Log) :
    (canonicalRoots log).contains "" = false := by
  rw [← Bool.not_eq_true, contains_canonicalRoots]
  exact fun anchored => anchored.tidy.2 rfl

/-- An event of the log that carries no ids of two established runs has all the
ids that name runs among the aliases. -/
theorem known_of_one_run {log : Log} (listed : event ∈ log)
    (one : ¬NamesTwoRuns log event) {key : String}
    (field : key ∈ ["run_id", "workflow_run_id", "trace_id"])
    (filled : strippedAt event.body key ≠ "") :
    ((runAliases log).get? (strippedAt event.body key)).isSome = true := by
  obtain ⟨before, after, split⟩ := List.append_of_mem listed
  have whole : runAliases log = after.foldl (noteRun (canonicalRoots log))
      (noteRun (canonicalRoots log)
        (before.foldl (noteRun (canonicalRoots log)) Dict.empty) event) := by
    rw [runAliases]
    conv_lhs => rw [split]
    rw [List.foldl_append, List.foldl_cons]
    rw [← split]
  have apart : Scoped (canonicalRoots log)
      (before.foldl (noteRun (canonicalRoots log)) Dict.empty) :=
    scoped_foldl _ before (scoped_empty _)
  generalize before.foldl (noteRun (canonicalRoots log)) Dict.empty = aliases at whole apart
  have final : ∀ identity root, identity ∈ runIdentities aliases event →
      StandsFor (canonicalRoots log) aliases identity root →
      (runAliases log).get? identity = some root := by
    intro identity root member stands
    rw [whole]
    exact foldl_keeps_root _ after (apart.step event) stands.1 (apart.noted event member stands)
  rcases noteRun_known (contains_canonicalRoots_empty log) event with
    ⟨first, firstMember, second, secondMember, root, other, firstStands, secondStands,
      different⟩ | known
  · refine absurd ⟨first, mem_carriedIds_of_mem_runIdentities firstMember, second,
      mem_carriedIds_of_mem_runIdentities secondMember, root, other,
      (contains_canonicalRoots log root).mp firstStands.1,
      (contains_canonicalRoots log other).mp secondStands.1, different,
      final first root firstMember firstStands, final second other secondMember secondStands⟩ one
  · rw [whole]
    exact isSome_foldl after (known _ (mem_runIdentities_of_explicit field filled))

theorem canonicalRun_of_leads
    (apart : Scoped roots aliases) {identities : List String} (named : identities ≠ [])
    {run : String} (leads : ∀ identity ∈ identities, aliases.get? identity = some run) :
    canonicalRun roots aliases identities = run := by
  unfold canonicalRun
  cases best : bestRoot roots identities with
  | some root =>
      obtain ⟨member, held⟩ := bestRoot_some best
      exact (apart.rooted root run held (leads root member)).symm
  | none =>
      dsimp only
      cases rooted : (identities.filterMap aliases.get?).find? roots.contains with
      | some root =>
          obtain ⟨identity, member, found⟩ :=
            List.mem_filterMap.mp (List.mem_of_find?_eq_some rooted)
          exact Option.some.inj (found.symm.trans (leads identity member))
      | none =>
          cases identities with
          | nil => exact absurd rfl named
          | cons first rest =>
              rw [List.filterMap_cons, leads first List.mem_cons_self]
              rfl

/-- An event whose ids all lead to one run changes no alias. -/
theorem Scoped.noteRun_eq_self (apart : Scoped roots aliases) {run : String}
    (leads : ∀ identity ∈ runIdentities aliases event, aliases.get? identity = some run) :
    noteRun roots aliases event = aliases := by
  unfold noteRun
  generalize runIdentities aliases event = identities at leads
  dsimp only
  by_cases blank : identities = []
  · rw [if_pos blank]
  rw [if_neg blank]
  have alone : ∀ root, root ∈ ((identities.map fun identity =>
      if roots.contains identity then identity else (aliases.get? identity).getD "").filter
        roots.contains).eraseDups → root = run := by
    intro root member
    rw [List.mem_eraseDups, List.mem_filter, List.mem_map] at member
    obtain ⟨⟨identity, listed, same⟩, held⟩ := member
    by_cases own : roots.contains identity = true
    · rw [if_pos own] at same
      subst same
      exact (apart.rooted _ run own (leads _ listed)).symm
    · rw [if_neg own, leads identity listed, Option.getD_some] at same
      exact same.symm
  by_cases several : 1 < ((identities.map fun identity =>
      if roots.contains identity then identity else (aliases.get? identity).getD "").filter
        roots.contains).eraseDups.length
  · obtain ⟨first, firstListed, second, secondListed, different⟩ :=
      Lists.exists_ne_of_one_lt_length (Lists.nodup_eraseDups _) several
    exact absurd ((alone first firstListed).trans (alone second secondListed).symm) different
  rw [if_neg several]
  rw [canonicalRun_of_leads apart blank leads]
  have nothing : (identities.filterMap aliases.get?).filter (fun target =>
      decide (target ≠ run)) = [] := by
    rw [List.filter_eq_nil_iff]
    intro target member
    obtain ⟨identity, listed, found⟩ := List.mem_filterMap.mp member
    simp [Option.some.inj (found.symm.trans (leads identity listed))]
  rw [nothing, Dict.mapValues_eq_self fun target => if_neg List.not_mem_nil]
  refine Dict.insertAll_eq_self fun entry member => ?_
  obtain ⟨identity, listed, rfl⟩ := List.mem_map.mp member
  exact leads identity listed

end ZaofuFormal.Workflow
