import ZaofuFormal.Workflow.RunScope

/-!
# Run namespaces stay apart

`runAliases` is a union of namespaces folded over the log.  The aliases read so
far are `Scoped`: every alias leads in one step to an id that maps to itself,
and an established root maps to itself.  A later event keeps every alias of an
established root, whatever ids it carries.
-/

namespace ZaofuFormal.Workflow

open Foundation

/-- The id that an anchor event carries. -/
def anchorId (event : ZfEvent) : String :=
  PyString.strip (firstText [event.body.textAt "run_id",
    event.body.textAt "workflow_run_id", event.correlationId.getD ""])

def Anchors (event : ZfEvent) (root : String) : Prop :=
  event.type ∈ canonicalRunAnchorEvents ∧ anchorId event = root ∧ root ≠ ""

/-- A run id that some event of the log anchors. -/
def Anchored (log : Log) (root : String) : Prop := ∃ event ∈ log, Anchors event root

theorem canonicalRoots_append (log : Log) (event : ZfEvent) :
    ∃ priority, canonicalRoots (log ++ [event]) =
      if event.type ∉ canonicalRunAnchorEvents ∨ anchorId event = "" then canonicalRoots log
      else (canonicalRoots log).insert (anchorId event) priority := by
  simp only [canonicalRoots, List.foldl_append, List.foldl_cons, List.foldl_nil, anchorId]
  split
  · exact ⟨0, by simp [*]⟩
  · split
    · exact ⟨0, by simp [*]⟩
    · exact ⟨_, by simp [*]; rfl⟩

theorem contains_canonicalRoots (log : Log) (root : String) :
    (canonicalRoots log).contains root = true ↔ Anchored log root := by
  induction log using List.reverseRecOn with
  | nil =>
      refine iff_of_false Bool.false_ne_true ?_
      rintro ⟨event, impossible, _⟩
      cases impossible
  | append_singleton log event ih =>
      obtain ⟨priority, appended⟩ := canonicalRoots_append log event
      rw [appended]
      have split : Anchored (log ++ [event]) root ↔ Anchored log root ∨ Anchors event root := by
        unfold Anchored
        simp only [List.mem_append, List.mem_singleton, or_and_right, exists_or,
          exists_eq_left]
      rw [split, ← ih]
      by_cases silent : event.type ∉ canonicalRunAnchorEvents ∨ anchorId event = ""
      · rw [if_pos silent]
        refine (or_iff_left ?_).symm
        rintro ⟨anchor, rfl, filled⟩
        rcases silent with other | blank
        · exact other anchor
        · exact filled blank
      · rw [if_neg silent, Dict.contains_insert, Bool.or_eq_true, decide_eq_true_eq, or_comm]
        rw [not_or, not_not] at silent
        refine or_congr_right ⟨?_, ?_⟩
        · rintro rfl
          exact ⟨silent.1, rfl, silent.2⟩
        · rintro ⟨_, same, _⟩
          exact same.symm

/-- The better of the root that is best so far and a further identity. -/
def betterRoot (roots : Dict String Nat) (best : Option (Nat × String)) (identity : String) :
    Option (Nat × String) :=
  match roots.get? identity, best with
  | none, _ => best
  | some priority, none => some (priority, identity)
  | some priority, some (least, chosen) =>
      if priority < least then some (priority, identity) else some (least, chosen)

theorem bestRoot_fold (roots : Dict String Nat) (identities : List String)
    (best : Option (Nat × String)) :
    let chosen := identities.foldl (betterRoot roots) best
    (chosen = none → best = none ∧ ∀ identity ∈ identities, roots.contains identity = false) ∧
      ∀ pair, chosen = some pair → best = some pair ∨
        (pair.2 ∈ identities ∧ roots.contains pair.2 = true) := by
  induction identities generalizing best with
  | nil =>
      refine ⟨fun none => ⟨none, fun _ member => absurd member List.not_mem_nil⟩, ?_⟩
      intro pair chosen
      exact Or.inl chosen
  | cons identity rest ih =>
      simp only [List.foldl_cons, betterRoot]
      cases found : roots.get? identity with
      | none =>
          obtain ⟨nothing, something⟩ := ih best
          refine ⟨?_, ?_⟩
          · intro none
            obtain ⟨start, absent⟩ := nothing none
            refine ⟨start, List.forall_mem_cons.mpr ⟨?_, absent⟩⟩
            rw [Dict.contains, found]
            rfl
          · intro pair chosen
            exact (something pair chosen).imp_right fun both =>
              ⟨List.mem_cons_of_mem _ both.1, both.2⟩
      | some priority =>
          have held : roots.contains identity = true := by
            rw [Dict.contains, found]
            rfl
          cases best with
          | none =>
              obtain ⟨nothing, something⟩ := ih (some (priority, identity))
              refine ⟨fun none => absurd (nothing none).1 (by simp), ?_⟩
              intro pair chosen
              right
              rcases something pair chosen with same | ⟨member, contained⟩
              · cases same
                exact ⟨List.mem_cons_self, held⟩
              · exact ⟨List.mem_cons_of_mem _ member, contained⟩
          | some least =>
              obtain ⟨least, chosenSoFar⟩ := least
              dsimp only
              split
              · obtain ⟨nothing, something⟩ := ih (some (priority, identity))
                refine ⟨fun none => absurd (nothing none).1 (by simp), ?_⟩
                intro pair chosen
                right
                rcases something pair chosen with same | ⟨member, contained⟩
                · cases same
                  exact ⟨List.mem_cons_self, held⟩
                · exact ⟨List.mem_cons_of_mem _ member, contained⟩
              · obtain ⟨nothing, something⟩ := ih (some (least, chosenSoFar))
                refine ⟨fun none => absurd (nothing none).1 (by simp), ?_⟩
                intro pair chosen
                exact (something pair chosen).imp_right fun both =>
                  ⟨List.mem_cons_of_mem _ both.1, both.2⟩

variable {identities : List String} {root : String} {roots : Dict String Nat}
  {aliases : Dict String String} {event : ZfEvent}

theorem bestRoot_some (best : bestRoot roots identities = some root) :
    root ∈ identities ∧ roots.contains root = true := by
  obtain ⟨pair, chosen, rfl⟩ := Option.map_eq_some_iff.mp best
  rcases (bestRoot_fold roots identities none).2 pair chosen with impossible | found
  · cases impossible
  · exact found

theorem bestRoot_none (best : bestRoot roots identities = none) :
    ∀ identity ∈ identities, roots.contains identity = false :=
  ((bestRoot_fold roots identities none).1 (Option.map_eq_none_iff.mp best)).2

/-- The root that an identity stands for: itself, or the one it is an alias of. -/
def StandsFor (roots : Dict String Nat) (aliases : Dict String String)
    (identity root : String) : Prop :=
  roots.contains root = true ∧
    (identity = root ∨ (roots.contains identity = false ∧ aliases.get? identity = some root))

/-- The canonical id of an event: a root that one of its identities stands for,
or, when none stands for a root, an id that they lead to. -/
theorem canonicalRun_cases (roots : Dict String Nat) (aliases : Dict String String)
    (named : identities ≠ []) :
    (∃ identity ∈ identities,
      StandsFor roots aliases identity (canonicalRun roots aliases identities)) ∨
    ((∀ identity ∈ identities, ∀ root, ¬StandsFor roots aliases identity root) ∧
      (canonicalRun roots aliases identities ∈ identities ∨
        ∃ identity ∈ identities,
          aliases.get? identity = some (canonicalRun roots aliases identities))) := by
  unfold canonicalRun
  cases best : bestRoot roots identities with
  | some root =>
      obtain ⟨member, held⟩ := bestRoot_some best
      exact Or.inl ⟨root, member, held, Or.inl rfl⟩
  | none =>
      have foreign := bestRoot_none best
      dsimp only
      cases rooted : (identities.filterMap aliases.get?).find? roots.contains with
      | some root =>
          left
          have held := List.find?_some rooted
          obtain ⟨identity, member, leads⟩ :=
            List.mem_filterMap.mp (List.mem_of_find?_eq_some rooted)
          exact ⟨identity, member, held, Or.inr ⟨foreign identity member, leads⟩⟩
      | none =>
          right
          have unrooted := List.find?_eq_none.mp rooted
          constructor
          · rintro identity member root ⟨held, rfl | ⟨_, leads⟩⟩
            · rw [foreign _ member] at held
              cases held
            · exact unrooted root (List.mem_filterMap.mpr ⟨identity, member, leads⟩) held
          · cases known : identities.filterMap aliases.get? with
            | cons target others =>
                right
                have listed : target ∈ identities.filterMap aliases.get? := by
                  rw [known]
                  exact List.mem_cons_self
                obtain ⟨identity, member, leads⟩ := List.mem_filterMap.mp listed
                exact ⟨identity, member, leads⟩
            | nil =>
                left
                cases identities with
                | nil => exact absurd rfl named
                | cons first rest => exact List.mem_cons_self

/-- Every alias leads in one step to an id that maps to itself, and a root maps
to itself. -/
structure Scoped (roots : Dict String Nat) (aliases : Dict String String) : Prop where
  idempotent : ∀ name target, aliases.get? name = some target →
    aliases.get? target = some target
  rooted : ∀ root target, roots.contains root = true → aliases.get? root = some target →
    target = root

/-- What an event does to the aliases. -/
inductive Notes (roots : Dict String Nat) (aliases : Dict String String)
    (identities : List String) : Dict String String → Prop where
  | nothing (unnamed : identities = []) : Notes roots aliases identities aliases
  /-- The event names two established roots: they are kept apart. -/
  | conflict (established : List String) (after : Dict String String)
      (held : ∀ root ∈ established, roots.contains root = true)
      (every : ∀ identity ∈ identities, ∀ root, StandsFor roots aliases identity root →
        root ∈ established)
      (entries : ∀ name, after.get? name =
        if name ∈ established then some name else aliases.get? name) :
      Notes roots aliases identities after
  /-- The classes that the event names become one class. -/
  | merge (canonical : String) (after : Dict String String)
      (chosen : canonical = canonicalRun roots aliases identities)
      (named : identities ≠ [])
      (agree : ∀ first ∈ identities, ∀ second ∈ identities, ∀ root other,
        StandsFor roots aliases first root → StandsFor roots aliases second other →
          root = other)
      (entries : ∀ name, after.get? name =
        if name ∈ identities then some canonical
        else (aliases.get? name).map fun target =>
          if ∃ identity ∈ identities, aliases.get? identity = some target then canonical
          else target) :
      Notes roots aliases identities after

theorem noteRun_notes (roots : Dict String Nat) (aliases : Dict String String)
    (event : ZfEvent) :
    Notes roots aliases (runIdentities aliases event) (noteRun roots aliases event) := by
  generalize same : runIdentities aliases event = identities
  unfold noteRun
  rw [same]
  dsimp only
  by_cases unnamed : identities = []
  · rw [if_pos unnamed]
    exact .nothing unnamed
  rw [if_neg unnamed]
  generalize recorded : ((identities.map fun identity =>
    if roots.contains identity then identity else (aliases.get? identity).getD "").filter
      roots.contains).eraseDups = established
  have every : ∀ identity ∈ identities, ∀ root, StandsFor roots aliases identity root →
      root ∈ established := by
    rintro identity member root ⟨held, stands⟩
    rw [← recorded, List.mem_eraseDups, List.mem_filter, List.mem_map]
    refine ⟨⟨identity, member, ?_⟩, held⟩
    rcases stands with rfl | ⟨foreign, leads⟩
    · rw [if_pos held]
    · rw [if_neg (by rw [foreign]; exact Bool.false_ne_true), leads]
      rfl
  split
  · apply Notes.conflict established _ _ every
    · intro name
      exact Dict.get?_insertAll_map id established aliases name
    · intro root member
      rw [← recorded, List.mem_eraseDups] at member
      exact (List.mem_filter.mp member).2
  · rename_i short
    apply Notes.merge _ _ rfl unnamed
    · intro first firstMember second secondMember root other firstStands secondStands
      exact Lists.eq_of_length_le_one (by omega) (every first firstMember root firstStands)
        (every second secondMember other secondStands)
    · intro name
      refine (Dict.get?_insertAll_map (fun _ => canonicalRun roots aliases identities) identities _
        name).trans ?_
      congr 1
      rw [Dict.get?_mapValues]
      congr 1
      funext target
      simp only [List.mem_filter, List.mem_filterMap, decide_eq_true_eq]
      by_cases reached : ∃ identity ∈ identities, aliases.get? identity = some target
      · by_cases kept : target = canonicalRun roots aliases identities
        · rw [if_pos reached, if_neg fun both => both.2 kept]
          exact kept
        · rw [if_pos reached, if_pos ⟨reached, kept⟩]
      · rw [if_neg reached, if_neg fun both => reached both.1]

/-- In a merge the canonical id is the root that any of the identities stands for. -/
theorem canonicalRun_eq (named : identities ≠ [])
    (agree : ∀ first ∈ identities, ∀ second ∈ identities, ∀ root other,
      StandsFor roots aliases first root → StandsFor roots aliases second other → root = other)
    {identity : String} (member : identity ∈ identities)
    (stands : StandsFor roots aliases identity root) :
    canonicalRun roots aliases identities = root := by
  rcases canonicalRun_cases roots aliases named with ⟨other, otherMember, otherStands⟩ | ⟨none, _⟩
  · exact agree other otherMember identity member _ _ otherStands stands
  · exact absurd stands (none identity member root)

/-- An identity that leads to a root stands for it. -/
theorem Scoped.standsFor
    (apart : Scoped roots aliases) {name : String} (held : roots.contains root = true)
    (leads : aliases.get? name = some root) : StandsFor roots aliases name root := by
  by_cases own : roots.contains name = true
  · exact ⟨held, Or.inl (apart.rooted name root own leads).symm⟩
  · exact ⟨held, Or.inr ⟨Bool.eq_false_iff.mpr own, leads⟩⟩

/-- An alias of an established root stays one, whatever the event carries. -/
theorem Scoped.keeps_root (apart : Scoped roots aliases) (event : ZfEvent) {name : String}
    (held : roots.contains root = true) (leads : aliases.get? name = some root) :
    (noteRun roots aliases event).get? name = some root := by
  have notes := noteRun_notes roots aliases event
  generalize noteRun roots aliases event = noted at notes ⊢
  cases notes with
  | nothing unnamed => exact leads
  | conflict established _ established_held every entries =>
      rw [entries]
      split
      · rename_i listed
        rw [apart.rooted name root (established_held name listed) leads]
      · exact leads
  | merge canonical _ chosen named agree entries =>
      rw [entries]
      split
      · rename_i member
        rw [chosen, canonicalRun_eq named agree member (apart.standsFor held leads)]
      · rw [leads, Option.map_some]
        split
        · rename_i reached
          obtain ⟨identity, member, same⟩ := reached
          rw [chosen, canonicalRun_eq named agree member (apart.standsFor held same)]
        · rfl

/-- After a merge the canonical id maps to itself. -/
theorem Scoped.merged_canonical {after : Dict String String}
    (apart : Scoped roots aliases) (named : identities ≠ [])
    (entries : ∀ name, after.get? name =
      if name ∈ identities then some (canonicalRun roots aliases identities)
      else (aliases.get? name).map fun target =>
        if ∃ identity ∈ identities, aliases.get? identity = some target then
          canonicalRun roots aliases identities
        else target) :
    after.get? (canonicalRun roots aliases identities) =
      some (canonicalRun roots aliases identities) := by
  have reached : canonicalRun roots aliases identities ∈ identities ∨ ∃ identity ∈ identities,
      aliases.get? identity = some (canonicalRun roots aliases identities) := by
    rcases canonicalRun_cases roots aliases named with
      ⟨identity, member, _, same | ⟨_, leads⟩⟩ | ⟨_, found⟩
    · exact Or.inl (same ▸ member)
    · exact Or.inr ⟨identity, member, leads⟩
    · exact found
  rw [entries]
  split
  · rfl
  · rename_i outside
    obtain ⟨identity, member, leads⟩ := reached.resolve_left outside
    rw [apart.idempotent _ _ leads, Option.map_some, if_pos ⟨identity, member, leads⟩]

theorem Scoped.step (apart : Scoped roots aliases) (event : ZfEvent) :
    Scoped roots (noteRun roots aliases event) := by
  have notes := noteRun_notes roots aliases event
  generalize noteRun roots aliases event = noted at notes ⊢
  generalize runIdentities aliases event = identities at notes
  cases notes with
  | nothing unnamed => exact apart
  | conflict established _ held every entries =>
      constructor
      · intro name target leads
        have fixed : ∀ other, other ∈ established → noted.get? other = some other := by
          intro other listed
          rw [entries, if_pos listed]
        rw [entries] at leads
        split at leads
        · rename_i listed
          cases leads
          exact fixed name listed
        · by_cases listed : target ∈ established
          · exact fixed target listed
          · rw [entries, if_neg listed]
            exact apart.idempotent name target leads
      · intro root target rooted leads
        rw [entries] at leads
        split at leads
        · cases leads
          rfl
        · exact apart.rooted root target rooted leads
  | merge canonical _ chosen named agree entries =>
      subst chosen
      have self := apart.merged_canonical named entries
      constructor
      · intro name target leads
        rw [entries] at leads
        split at leads
        · cases leads
          exact self
        · obtain ⟨old, oldLeads, same⟩ := Option.map_eq_some_iff.mp leads
          split at same
          · cases same
            exact self
          · rename_i untouched
            cases same
            have fixed := apart.idempotent name target oldLeads
            have outside : target ∉ identities := fun member => untouched ⟨target, member, fixed⟩
            rw [entries, if_neg outside, fixed, Option.map_some, if_neg untouched]
      · intro root target rooted leads
        rw [entries] at leads
        split at leads
        · rename_i member
          cases leads
          exact canonicalRun_eq named agree member ⟨rooted, Or.inl rfl⟩
        · obtain ⟨old, oldLeads, same⟩ := Option.map_eq_some_iff.mp leads
          have own := apart.rooted root old rooted oldLeads
          subst own
          split at same
          · rename_i reached
            obtain ⟨identity, member, identityLeads⟩ := reached
            rw [← same]
            exact canonicalRun_eq named agree member (apart.standsFor rooted identityLeads)
          · exact same.symm

theorem mem_runIdentities_of_explicit
    {key : String} (listed : key ∈ ["run_id", "workflow_run_id", "trace_id"])
    (filled : strippedAt event.body key ≠ "") :
    strippedAt event.body key ∈ runIdentities aliases event := by
  have explicit : strippedAt event.body key ∈
      (["run_id", "workflow_run_id", "trace_id"].map (strippedAt event.body)).filter
        fun text => decide (text ≠ "") :=
    List.mem_filter.mpr ⟨List.mem_map_of_mem listed, decide_eq_true filled⟩
  unfold runIdentities
  dsimp only
  split
  · exact List.mem_append_left _ explicit
  · exact explicit

theorem anchor_counts : ∀ kind ∈ canonicalRunAnchorEvents, kind ∈ correlationRunAnchorEvents := by
  decide

/-- An anchor event names the id that it establishes. -/
theorem Anchors.named (anchors : Anchors event root)
    (aliases : Dict String String) : root ∈ runIdentities aliases event := by
  obtain ⟨anchor, same, filled⟩ := anchors
  subst same
  by_cases run : event.body.textAt "run_id" = ""
  · by_cases workflow : event.body.textAt "workflow_run_id" = ""
    · have correlation : anchorId event = event.correlation := by
        by_cases blank : event.correlationId.getD "" = ""
        · simp [anchorId, firstText, run, workflow, blank, ZfEvent.correlation]
        · simp [anchorId, firstText, run, workflow, blank, ZfEvent.correlation]
      rw [correlation] at filled ⊢
      have counted := anchor_counts event.type anchor
      unfold runIdentities
      dsimp only
      rw [if_pos ⟨filled, Or.inr (Or.inr counted)⟩]
      exact List.mem_append_right _ List.mem_cons_self
    · have same : anchorId event = strippedAt event.body "workflow_run_id" := by
        simp [anchorId, firstText, run, workflow, strippedAt]
      rw [same] at filled ⊢
      exact mem_runIdentities_of_explicit (by simp) filled
  · have same : anchorId event = strippedAt event.body "run_id" := by
      simp [anchorId, firstText, run, strippedAt]
    rw [same] at filled ⊢
    exact mem_runIdentities_of_explicit (by simp) filled

/-- An anchor event maps the id that it establishes to itself. -/
theorem Anchors.noted (aliases : Dict String String) (anchors : Anchors event root)
    (held : roots.contains root = true) :
    (noteRun roots aliases event).get? root = some root := by
  have member := anchors.named aliases
  have stands : StandsFor roots aliases root root := ⟨held, Or.inl rfl⟩
  have notes := noteRun_notes roots aliases event
  generalize noteRun roots aliases event = noted at notes ⊢
  cases notes with
  | nothing unnamed =>
      rw [unnamed] at member
      cases member
  | conflict established _ _ every entries => rw [entries, if_pos (every root member root stands)]
  | merge canonical _ chosen named agree entries =>
      rw [entries, if_pos member, chosen, canonicalRun_eq named agree member stands]

theorem scoped_foldl (roots : Dict String Nat) (log : Log)
    (apart : Scoped roots aliases) : Scoped roots (log.foldl (noteRun roots) aliases) := by
  induction log generalizing aliases with
  | nil => exact apart
  | cons event rest ih => exact ih (apart.step event)

theorem foldl_keeps_root (roots : Dict String Nat) (log : Log)
    (apart : Scoped roots aliases) {name : String} (held : roots.contains root = true)
    (leads : aliases.get? name = some root) :
    (log.foldl (noteRun roots) aliases).get? name = some root := by
  induction log generalizing aliases with
  | nil => exact leads
  | cons event rest ih => exact ih (apart.step event) (apart.keeps_root event held leads)

theorem foldl_anchor (roots : Dict String Nat) (log : Log)
    (apart : Scoped roots aliases) (held : roots.contains root = true)
    (anchored : Anchored log root) :
    (log.foldl (noteRun roots) aliases).get? root = some root := by
  induction log generalizing aliases with
  | nil =>
      obtain ⟨event, impossible, _⟩ := anchored
      cases impossible
  | cons event rest ih =>
      obtain ⟨anchor, member, anchors⟩ := anchored
      rcases List.mem_cons.mp member with rfl | later
      · exact foldl_keeps_root roots rest (apart.step anchor) held (anchors.noted _ held)
      · exact ih (apart.step event) ⟨anchor, later, anchors⟩

theorem scoped_empty (roots : Dict String Nat) : Scoped roots Dict.empty :=
  ⟨fun _ _ impossible => (nomatch impossible), fun _ _ _ impossible => (nomatch impossible)⟩

theorem scoped_runAliases (log : Log) : Scoped (canonicalRoots log) (runAliases log) :=
  scoped_foldl (canonicalRoots log) log (scoped_empty (canonicalRoots log))

theorem runAliases_anchored {log : Log} (anchored : Anchored log root) :
    (runAliases log).get? root = some root :=
  foldl_anchor (canonicalRoots log) log (scoped_empty (canonicalRoots log))
    ((contains_canonicalRoots log root).mpr anchored) anchored

/-- An event that is no anchor changes the roots of no log. -/
theorem canonicalRoots_append_other (log : Log) (other : event.type ∉ canonicalRunAnchorEvents) :
    canonicalRoots (log ++ [event]) = canonicalRoots log := by
  obtain ⟨priority, appended⟩ := canonicalRoots_append log event
  rw [appended, if_pos (Or.inl other)]

theorem runAliases_append_other (log : Log) (other : event.type ∉ canonicalRunAnchorEvents) :
    runAliases (log ++ [event]) = noteRun (canonicalRoots log) (runAliases log) event := by
  rw [runAliases, canonicalRoots_append_other log other, List.foldl_append]
  rfl

/-- Run namespaces never merge: an anchored id maps to itself, the aliases are
idempotent, so that no two anchored runs share a canonical id, and an event that
is no anchor leaves every alias of an anchored run as it is. -/
theorem run_namespaces_apart (log : Log) :
    (∀ root, Anchored log root → (runAliases log).get? root = some root) ∧
    (∀ name target, (runAliases log).get? name = some target →
      (runAliases log).get? target = some target) ∧
    (∀ first second, Anchored log first → Anchored log second →
      (runAliases log).get? first = (runAliases log).get? second → first = second) ∧
    (∀ event, event.type ∉ canonicalRunAnchorEvents → ∀ name root, Anchored log root →
      (runAliases log).get? name = some root →
        (runAliases (log ++ [event])).get? name = some root) := by
  refine ⟨fun root anchored => runAliases_anchored anchored, (scoped_runAliases log).idempotent,
    ?_, ?_⟩
  · intro first second firstAnchored secondAnchored same
    rw [runAliases_anchored firstAnchored, runAliases_anchored secondAnchored] at same
    exact Option.some.inj same
  · intro event other name root anchored leads
    rw [runAliases_append_other log other]
    exact (scoped_runAliases log).keeps_root event
      ((contains_canonicalRoots log root).mpr anchored) leads

end ZaofuFormal.Workflow
