import Mathlib.Data.Finset.Sort
import Mathlib.Data.Finset.Union
import Mathlib.Data.String.Basic
import Mathlib.Order.Bounds.Basic
import ZaofuFormal.Foundation.Passes
import ZaofuFormal.Foundation.PosixPath
import ZaofuFormal.Foundation.PyString

/-!
# The package scope of a candidate

The declared files of a task name the workspace packages it works in.  Commits
that touch what is already in scope pull in the packages of all their files,
and the commits are scanned again until none adds a package.
-/

namespace ZaofuFormal.Candidates

open Foundation

/-- `rstrip("/")`. -/
def rstripSlash (path : String) : String :=
  String.ofList (path.toList.reverse.dropWhile (· == '/')).reverse

/-- A path without surrounding white space and closing slashes. -/
def trimmed (path : String) : String := rstripSlash (PyString.strip path)

/-- `path.startswith(f"{directory}/")`. -/
def beneath (directory path : String) : Bool := PyString.startsWith path (directory ++ "/")

/-- One pair of paths of `_paths_overlap`. -/
def pathOverlaps (commitFile declaredFile : String) : Bool :=
  let commitPath := rstripSlash commitFile
  let declaredPath := rstripSlash declaredFile
  commitPath == declaredPath || beneath declaredPath commitPath || beneath commitPath declaredPath

def workspaceFolders : List (List Char) :=
  ["packages".toList, "apps".toList, "services".toList, "libs".toList]

/-- The first two parts of a path below a workspace folder; an absolute path starts with
another part. -/
def workspacePackageRoot (path : String) : String :=
  if PosixPath.isAbsolute path.toList then ""
  else
    match PosixPath.parts path.toList with
    | first :: second :: _ =>
        if first ∈ workspaceFolders then String.ofList (first ++ '/' :: second) else ""
    | _ => ""

/-- The order in which the items of a set are visited. -/
structure SetOrder where
  list : Finset String → List String
  mem_list : ∀ items path, path ∈ list items ↔ path ∈ items

def SetOrder.sorted : SetOrder where
  list items := items.sort
  mem_list _ _ := Finset.mem_sort _

def pathsOverlap (order : SetOrder) (commitFiles declaredFiles : Finset String) : Bool :=
  (order.list commitFiles).any fun commitFile =>
    (order.list declaredFiles).any fun declaredFile => pathOverlaps commitFile declaredFile

/-- `{path.strip().rstrip("/") for path in files if path.strip()}`. -/
def normalizedFiles (files : Finset String) : Finset String :=
  (files.filter fun path => PyString.isBlank path = false).image trimmed

/-- The two sets that the loop grows. -/
structure Expansion where
  roots : Finset String
  scope : Finset String

/-- The given package roots that hold a path of the scope. -/
def holdingRoots (packageRoots scope : Finset String) : Finset String :=
  packageRoots.filter fun root => ∃ path ∈ scope, (path == root || beneath root path) = true

def Expansion.start (declaredFiles : Finset String) (packageRoots : Option (Finset String)) :
    Expansion :=
  let scope := normalizedFiles declaredFiles
  let roots := (scope.image workspacePackageRoot).filter (· ≠ "") ∪
    holdingRoots (packageRoots.getD ∅) scope
  ⟨roots, scope ∪ roots⟩

/-- Add the package of one file, when it is new. -/
def addRoot (path : String) (state : Expansion) : Option Expansion :=
  let root := workspacePackageRoot path
  if root ≠ "" ∧ root ∉ state.roots then
    some ⟨insert root state.roots, insert root state.scope⟩
  else none

/-- One commit of a pass; nothing when it leaves `changed` as it is. -/
def scanCommit (order : SetOrder) (commitFiles : Finset String) (state : Expansion) :
    Option Expansion :=
  let files := normalizedFiles commitFiles
  if files = ∅ ∨ pathsOverlap order files state.scope = false then none
  else
    let grown := Passes.scan ((order.list files).map addRoot) state
    if grown.2 then some grown.1 else none

/-- `_expand_package_scope_closure` with a bound on the number of passes. -/
def expandPackageScopeClosure (fuel : Nat) (order : SetOrder) (declaredFiles : Finset String)
    (commitFileSets : List (Finset String)) (packageRoots : Option (Finset String)) :
    Option (Finset String) :=
  (Passes.settle (commitFileSets.map (scanCommit order)) fuel
    (.start declaredFiles packageRoots)).map Expansion.scope

/-- A commit overlaps a set of paths. -/
def Overlaps (commitFiles : Finset String) (scope : Set String) : Prop :=
  ∃ file ∈ normalizedFiles commitFiles, ∃ path ∈ scope, pathOverlaps file path = true

/-- The sets of paths that are whole for the declared files, the commits and the given roots. -/
structure ScopeClosed (declaredFiles : Finset String) (commitFileSets : List (Finset String))
    (packageRoots : Option (Finset String)) (scope : Set String) : Prop where
  declared : ∀ path ∈ normalizedFiles declaredFiles, path ∈ scope
  workspace : ∀ path ∈ normalizedFiles declaredFiles, workspacePackageRoot path ≠ "" →
    workspacePackageRoot path ∈ scope
  given : ∀ root ∈ packageRoots.getD ∅, ∀ path ∈ normalizedFiles declaredFiles,
    path = root ∨ beneath root path = true → root ∈ scope
  commits : ∀ commitFiles ∈ commitFileSets, Overlaps commitFiles scope →
    ∀ file ∈ normalizedFiles commitFiles, workspacePackageRoot file ≠ "" →
      workspacePackageRoot file ∈ scope

/-- All packages that the commits can add. -/
def commitRoots (commitFileSets : List (Finset String)) : Finset String :=
  (commitFileSets.toFinset.biUnion normalizedFiles).image workspacePackageRoot

variable {commitFiles : Finset String} {order : SetOrder}

theorem overlaps_iff {scope : Finset String} :
    pathsOverlap order (normalizedFiles commitFiles) scope = true ↔
      Overlaps commitFiles (scope : Set String) := by
  simp only [pathsOverlap, List.any_eq_true, order.mem_list, Overlaps, Finset.mem_coe]

theorem addRoot_eq_some {path : String} {before after : Expansion}
    (added : addRoot path before = some after) :
    workspacePackageRoot path ≠ "" ∧ workspacePackageRoot path ∉ before.roots ∧
      after = ⟨insert (workspacePackageRoot path) before.roots,
        insert (workspacePackageRoot path) before.scope⟩ := by
  unfold addRoot at added
  dsimp only at added
  split at added
  · rename_i isNew
    exact ⟨isNew.1, isNew.2, (Option.some.inj added).symm⟩
  · cases added

theorem addRoot_eq_none {path : String} {state : Expansion} (skipped : addRoot path state = none)
    (named : workspacePackageRoot path ≠ "") : workspacePackageRoot path ∈ state.roots := by
  unfold addRoot at skipped
  dsimp only at skipped
  split at skipped
  · cases skipped
  · rename_i old
    by_contra isNew
    exact old ⟨named, isNew⟩

theorem scanCommit_eq_some
    {before after : Expansion} (scanned : scanCommit order commitFiles before = some after) :
    Overlaps commitFiles (before.scope : Set String) ∧
      (Passes.scan ((order.list (normalizedFiles commitFiles)).map addRoot) before).2 = true ∧
      after = (Passes.scan ((order.list (normalizedFiles commitFiles)).map addRoot) before).1 := by
  unfold scanCommit at scanned
  dsimp only at scanned
  split at scanned
  · cases scanned
  · rename_i touched
    rw [not_or, Bool.not_eq_false, overlaps_iff] at touched
    split at scanned
    · rename_i changed
      exact ⟨touched.2, changed, (Option.some.inj scanned).symm⟩
    · cases scanned

/-- A commit that a pass leaves aside overlaps nothing or has all its packages in the scope. -/
theorem scanCommit_eq_none {state : Expansion} (skipped : scanCommit order commitFiles state = none)
    (touched : Overlaps commitFiles (state.scope : Set String)) :
    ∀ file ∈ normalizedFiles commitFiles, workspacePackageRoot file ≠ "" →
      workspacePackageRoot file ∈ state.roots := by
  intro file member named
  unfold scanCommit at skipped
  dsimp only at skipped
  split at skipped
  · rename_i aside
    rcases aside with empty | apart
    · rw [empty] at member
      exact absurd member (Finset.notMem_empty file)
    · rw [overlaps_iff.mpr touched] at apart
      cases apart
  · split at skipped
    · cases skipped
    · rename_i still
      have allOld := (Passes.scan_still (Bool.eq_false_iff.mpr still)).2
      have listed : addRoot file ∈ (order.list (normalizedFiles commitFiles)).map addRoot :=
        List.mem_map_of_mem ((order.mem_list _ _).mpr member)
      exact addRoot_eq_none (allOld _ listed) named

section Kept

variable {declaredFiles : Finset String} {commitFileSets : List (Finset String)}
  {packageRoots : Option (Finset String)}

/-- What the passes keep: the start is in scope, so are the roots, and the scope is part of
every closed set. -/
structure Growing (declaredFiles : Finset String) (commitFileSets : List (Finset String))
    (packageRoots : Option (Finset String)) (state : Expansion) : Prop where
  rooted : state.roots ⊆ state.scope
  started : (Expansion.start declaredFiles packageRoots).scope ⊆ state.scope
  least : ∀ closed, ScopeClosed declaredFiles commitFileSets packageRoots closed →
    ∀ path ∈ state.scope, path ∈ closed

theorem mem_start_scope {path : String} :
    path ∈ (Expansion.start declaredFiles packageRoots).scope ↔
      path ∈ normalizedFiles declaredFiles ∨
      (∃ declared ∈ normalizedFiles declaredFiles, workspacePackageRoot declared = path ∧
        path ≠ "") ∨
      (path ∈ packageRoots.getD ∅ ∧ ∃ declared ∈ normalizedFiles declaredFiles,
        declared = path ∨ beneath path declared = true) := by
  simp only [Expansion.start, holdingRoots, Finset.mem_union, Finset.mem_filter,
    Finset.mem_image, Bool.or_eq_true, beq_iff_eq]
  constructor
  · rintro (declared | ⟨⟨file, member, rfl⟩, named⟩ | given)
    · exact .inl declared
    · exact .inr (.inl ⟨file, member, rfl, named⟩)
    · exact .inr (.inr given)
  · rintro (declared | ⟨file, member, rfl, named⟩ | given)
    · exact .inl declared
    · exact .inr (.inl ⟨⟨file, member, rfl⟩, named⟩)
    · exact .inr (.inr given)

theorem growing_start :
    Growing declaredFiles commitFileSets packageRoots (.start declaredFiles packageRoots) where
  rooted := Finset.subset_union_right
  started := subset_rfl
  least := by
    intro closed isClosed path member
    rcases mem_start_scope.mp member with declared | ⟨file, listed, rfl, named⟩ |
      ⟨root, file, listed, holds⟩
    · exact isClosed.declared path declared
    · exact isClosed.workspace file listed named
    · exact isClosed.given path root file listed holds

variable {after before : Expansion} {commitFiles : Finset String}

/-- Adding a package that every closed set has keeps the invariant. -/
theorem growing_addRoot {path : String} (added : addRoot path before = some after)
    (owed : ∀ closed, ScopeClosed declaredFiles commitFileSets packageRoots closed →
      workspacePackageRoot path ≠ "" → workspacePackageRoot path ∈ closed)
    (growing : Growing declaredFiles commitFileSets packageRoots before) :
    Growing declaredFiles commitFileSets packageRoots after := by
  obtain ⟨named, -, rfl⟩ := addRoot_eq_some added
  refine ⟨Finset.insert_subset_insert _ growing.rooted,
    growing.started.trans (Finset.subset_insert _ _), ?_⟩
  intro closed isClosed other member
  rcases Finset.mem_insert.mp member with rfl | old
  · exact owed closed isClosed named
  · exact growing.least closed isClosed other old

theorem growing_scanCommit {order : SetOrder} (listed : commitFiles ∈ commitFileSets)
    (scanned : scanCommit order commitFiles before = some after)
    (growing : Growing declaredFiles commitFileSets packageRoots before) :
    Growing declaredFiles commitFileSets packageRoots after := by
  obtain ⟨touched, -, rfl⟩ := scanCommit_eq_some scanned
  refine Passes.foldl_attempt_rule ?_ growing
  intro step member earlier later added
  obtain ⟨file, visited, rfl⟩ := List.mem_map.mp member
  refine growing_addRoot added fun closed isClosed named => ?_
  -- the commit overlaps the scope before it, which is part of the closed set
  obtain ⟨own, ownFile, path, inScope, overlap⟩ := touched
  have reached : Overlaps commitFiles closed :=
    ⟨own, ownFile, path, growing.least closed isClosed path inScope, overlap⟩
  exact isClosed.commits commitFiles listed reached file ((order.mem_list _ _).mp visited) named

theorem addRoot_card_lt (listed : commitFiles ∈ commitFileSets)
    {file : String} (member : file ∈ normalizedFiles commitFiles)
    (added : addRoot file before = some after) :
    (commitRoots commitFileSets \ after.roots).card <
      (commitRoots commitFileSets \ before.roots).card := by
  obtain ⟨-, isNew, rfl⟩ := addRoot_eq_some added
  refine Finset.card_lt_card (Finset.ssubset_iff_subset_ne.mpr ⟨?_, ?_⟩)
  · exact Finset.sdiff_subset_sdiff subset_rfl (Finset.subset_insert _ _)
  · intro same
    have possible : workspacePackageRoot file ∈ commitRoots commitFileSets :=
      Finset.mem_image_of_mem _
        (Finset.mem_biUnion.mpr ⟨commitFiles, List.mem_toFinset.mpr listed, member⟩)
    have missing := Finset.mem_sdiff.mpr ⟨possible, isNew⟩
    rw [← same] at missing
    exact (Finset.mem_sdiff.mp missing).2 (Finset.mem_insert_self _ _)

theorem scanCommit_card_lt {order : SetOrder} (listed : commitFiles ∈ commitFileSets)
    (scanned : scanCommit order commitFiles before = some after) :
    (commitRoots commitFileSets \ after.roots).card <
      (commitRoots commitFileSets \ before.roots).card := by
  obtain ⟨-, changed, rfl⟩ := scanCommit_eq_some scanned
  have drops : ∀ step ∈ (order.list (normalizedFiles commitFiles)).map addRoot,
      ∀ earlier later, step earlier = some later →
        (commitRoots commitFileSets \ later.roots).card <
          (commitRoots commitFileSets \ earlier.roots).card := by
    intro step member earlier later added
    obtain ⟨file, visited, rfl⟩ := List.mem_map.mp member
    exact addRoot_card_lt listed ((order.mem_list _ _).mp visited) added
  exact Passes.scan_lt drops changed

end Kept

theorem expand_returns (order : SetOrder) (declaredFiles : Finset String)
    (commitFileSets : List (Finset String)) (packageRoots : Option (Finset String)) {fuel : Nat}
    (enough : (commitRoots commitFileSets).card < fuel) :
    ∃ scope, expandPackageScopeClosure fuel order declaredFiles commitFileSets packageRoots =
      some scope := by
  have drops : ∀ step ∈ commitFileSets.map (scanCommit order), ∀ before after,
      step before = some after → (commitRoots commitFileSets \ after.roots).card <
        (commitRoots commitFileSets \ before.roots).card := by
    intro step member before after scanned
    obtain ⟨commitFiles, listed, rfl⟩ := List.mem_map.mp member
    exact scanCommit_card_lt listed scanned
  have below : (commitRoots commitFileSets \
      (Expansion.start declaredFiles packageRoots).roots).card < fuel :=
    Nat.lt_of_le_of_lt (Finset.card_le_card Finset.sdiff_subset) enough
  obtain ⟨final, settled⟩ := Passes.exists_settle drops below
  exact ⟨final.scope, by rw [expandPackageScopeClosure, settled, Option.map_some]⟩

/-- Whatever the passes return is the least closed set. -/
theorem isLeast_of_expand {declaredFiles : Finset String}
    {commitFileSets : List (Finset String)} {packageRoots : Option (Finset String)} {fuel : Nat}
    {scope : Finset String} (returned : expandPackageScopeClosure fuel order declaredFiles
      commitFileSets packageRoots = some scope) :
    IsLeast {closed | ScopeClosed declaredFiles commitFileSets packageRoots closed}
      (scope : Set String) := by
  obtain ⟨final, settled, rfl⟩ := Option.map_eq_some_iff.mp returned
  have kept : ∀ step ∈ commitFileSets.map (scanCommit order), ∀ before after,
      step before = some after → Growing declaredFiles commitFileSets packageRoots before →
        Growing declaredFiles commitFileSets packageRoots after := by
    intro step member before after scanned
    obtain ⟨commitFiles, listed, rfl⟩ := List.mem_map.mp member
    exact growing_scanCommit listed scanned
  obtain ⟨growing, still⟩ := Passes.settle_rule kept growing_start settled
  constructor
  · refine ⟨?_, ?_, ?_, ?_⟩
    · intro path declared
      exact growing.started (mem_start_scope.mpr (.inl declared))
    · intro path declared named
      exact growing.started (mem_start_scope.mpr (.inr (.inl ⟨path, declared, rfl, named⟩)))
    · intro root given path declared holds
      exact growing.started (mem_start_scope.mpr (.inr (.inr ⟨given, path, declared, holds⟩)))
    · intro commitFiles listed touched file member named
      have skipped := still _ (List.mem_map_of_mem listed)
      exact growing.rooted (scanCommit_eq_none skipped touched file member named)
  · intro closed isClosed path member
    exact growing.least closed isClosed path member

/-- The closed sets depend on the set of the commits only. -/
theorem scopeClosed_congr {declaredFiles : Finset String}
    {first second : List (Finset String)} {packageRoots : Option (Finset String)}
    (same : first.Perm second) {scope : Set String} :
    ScopeClosed declaredFiles first packageRoots scope ↔
      ScopeClosed declaredFiles second packageRoots scope :=
  ⟨fun closed => ⟨closed.declared, closed.workspace, closed.given,
      fun files member => closed.commits files (same.mem_iff.mpr member)⟩,
    fun closed => ⟨closed.declared, closed.workspace, closed.given,
      fun files member => closed.commits files (same.mem_iff.mp member)⟩⟩

/-- The passes end and return the least closed scope, in whatever order the commits are listed
and the sets are visited. -/
theorem package_scope_closure_least (declaredFiles : Finset String)
    (commitFileSets : List (Finset String)) (packageRoots : Option (Finset String)) :
    ∃ scope : Finset String,
      IsLeast {closed | ScopeClosed declaredFiles commitFileSets packageRoots closed}
        (scope : Set String) ∧
      ∀ (order : SetOrder) (reordered : List (Finset String)), reordered.Perm commitFileSets →
        ∀ fuel, (commitRoots commitFileSets).card < fuel →
          expandPackageScopeClosure fuel order declaredFiles reordered packageRoots =
            some scope := by
  obtain ⟨scope, returned⟩ := expand_returns .sorted declaredFiles commitFileSets packageRoots
    (Nat.lt_succ_self _)
  refine ⟨scope, isLeast_of_expand returned, ?_⟩
  intro order reordered same fuel enough
  have enough' : (commitRoots reordered).card < fuel := by
    rw [commitRoots, List.toFinset_eq_of_perm _ _ same]
    exact enough
  obtain ⟨other, otherReturned⟩ := expand_returns order declaredFiles reordered packageRoots
    enough'
  have otherLeast := isLeast_of_expand otherReturned
  simp only [scopeClosed_congr same] at otherLeast
  have equal := otherLeast.unique (isLeast_of_expand returned)
  rw [otherReturned, Finset.coe_injective equal]

/-- Two commits of which the second reaches the declared file and pulls in the package of the
first, so that only a second pass takes that one in. -/
def sampleCommits : List (Finset String) :=
  [{"packages/b/index.ts", "libs/c/util.ts"}, {"packages/a/main.ts", "packages/b/package.json"}]

theorem sample_commits_reversed :
    expandPackageScopeClosure 9 .sorted {"packages/a/main.ts"} sampleCommits.reverse none =
      expandPackageScopeClosure 9 .sorted {"packages/a/main.ts"} sampleCommits none := by
  obtain ⟨scope, -, returned⟩ :=
    package_scope_closure_least {"packages/a/main.ts"} sampleCommits none
  have enough : (commitRoots sampleCommits).card < 9 := by decide +kernel
  rw [returned .sorted _ sampleCommits.reverse_perm 9 enough,
    returned .sorted _ (List.Perm.refl _) 9 enough]

end ZaofuFormal.Candidates
