import Maco.Base.Map
import Maco.Base.Result
import Maco.Base.Text

/-!
# Agent ids and repository paths

A path is the list of its components, as `Path::components` yields them: the code compares,
orders and prefix-tests paths component by component, so two spellings of one component list are
one path. Normalizing resolves `.` and `..` and refuses absolute and escaping paths; a claim's
path list is normalized, sorted, and freed of paths that another of its paths covers.
-/

namespace Maco.Sync

open Maco.Base List
open BTreeSet (ofList sorted_toList mem_ofList mem_toList)

/-- `std::path::Component`. -/
inductive Component where
  /-- A drive or share, on the platforms that have them. -/
  | pathPrefix (text : String)
  /-- The leading separator of an absolute path. -/
  | rootDir
  /-- `.` -/
  | curDir
  /-- `..` -/
  | parentDir
  /-- A file or directory name. -/
  | normal (segment : String)
deriving DecidableEq, Repr

/-- Components are ordered by kind, then by text. -/
def Component.code : Component → ℕ ×ₗ String
  | .pathPrefix text => toLex (0, text)
  | .rootDir => toLex (1, "")
  | .curDir => toLex (2, "")
  | .parentDir => toLex (3, "")
  | .normal segment => toLex (4, segment)

theorem Component.code_injective : Function.Injective Component.code := by
  intro a b same
  cases a <;> cases b <;> simp_all [Component.code]

instance : LinearOrder Component := LinearOrder.lift' Component.code Component.code_injective

/-- A path, by its components. -/
abbrev Path : Type := List Component

instance pathTransCmp : Std.TransCmp (@compare Path LinearOrder.toOrd) := transCmp

/-- The text of one component. -/
def Component.text : Component → String
  | .pathPrefix text => text
  | .rootDir => ""
  | .curDir => "."
  | .parentDir => ".."
  | .normal segment => segment

/-- The text of a path, as `Path::display` prints the path built from its components. -/
def pathText (path : Path) : String :=
  if path = [.rootDir] then "/" else String.intercalate "/" (path.map Component.text)

inductive SyncError where
  | emptyAgentId
  | invalidAgentId
  | emptyClaim
  | emptyPath
  | absolutePath (path : Path)
  | escapingPath (path : Path)
  | conflict (path : Path) (owner : String)
  | unknownToken (token : ℕ)
  | invalidToken
  | duplicateToken (token : ℕ)
  | tokenExhausted
  | invalidSubordinateClaim
  | subordinateReplay
  | activeSubordinates
deriving DecidableEq, Repr

/-- The `Display` text of a `SyncError`. -/
def SyncError.message : SyncError → String
  | .emptyAgentId => "agent id cannot be empty"
  | .invalidAgentId => "agent id may only contain ASCII letters, digits, '.', '_' and '-'"
  | .emptyClaim => "claim must include at least one path"
  | .emptyPath => "path cannot be empty"
  | .absolutePath path => "path must be repository-relative: " ++ pathText path
  | .escapingPath path => "path cannot escape repository: " ++ pathText path
  | .conflict path owner => "path is already claimed by " ++ owner ++ ": " ++ pathText path
  | .unknownToken token => "claim token is not active: " ++ toString token
  | .invalidToken => "claim token cannot be zero"
  | .duplicateToken token => "claim token appears more than once: " ++ toString token
  | .tokenExhausted => "claim token space is exhausted"
  | .invalidSubordinateClaim =>
    "subordinate claim does not match its retained parent, scope or frozen reservation"
  | .subordinateReplay => "subordinate Worker reservation was already consumed"
  | .activeSubordinates => "parent claim still has active subordinate Workers"

/-- `normalize_agent_id`. -/
def normalizeAgentId (agentId : String) : Except SyncError String := do
  let trimmed := trim agentId
  refuseIf (trimmed = "") .emptyAgentId
  refuseIf (trimmed = "." ∨ trimmed = "..") .invalidAgentId
  refuseIf (allChars isNameChar trimmed = false) .invalidAgentId
  pure trimmed

/-- One component of the loop of `normalize_repo_path`. -/
def normalizeComponent (path normalized : Path) : Component → Except SyncError Path
  | .normal segment => pure (normalized ++ [.normal segment])
  | .curDir => pure normalized
  | .parentDir => if normalized = [] then throw (.escapingPath path) else pure normalized.dropLast
  | .rootDir => throw (.absolutePath path)
  | .pathPrefix _ => throw (.absolutePath path)

/-- `normalize_repo_path`. -/
def normalizeRepoPath (path : Path) : Except SyncError Path := do
  refuseIf (path = []) .emptyPath
  let normalized ← path.foldlM (normalizeComponent path) []
  refuseIf (normalized = []) .emptyPath
  pure normalized

/-- `Path::starts_with`. -/
def startsWith (path base : Path) : Bool := base.isPrefixOf path

/-- `paths_overlap`: equal, or one an ancestor of the other. -/
def pathsOverlap (a b : Path) : Bool := a == b || startsWith a b || startsWith b a

/-- `path_is_covered_by_claim`. -/
def pathIsCoveredByClaim (path claim : Path) : Bool := path == claim || startsWith path claim

/-- One path of the loop of `collapse_covered_paths`. -/
def collapsePath (collapsed : List Path) (path : Path) : List Path :=
  if collapsed.any (startsWith path) then collapsed
  else collapsed.filter (fun existing => !startsWith existing path) ++ [path]

/-- `collapse_covered_paths`. -/
def collapseCoveredPaths (paths : List Path) : List Path := paths.foldl collapsePath []

/-- `normalize_claim_paths`. -/
def normalizeClaimPaths (paths : List Path) : Except SyncError (List Path) := do
  let normalized ← paths.mapM normalizeRepoPath
  let distinct := ofList normalized
  refuseIf (distinct.toList = []) .emptyClaim
  pure (collapseCoveredPaths distinct.toList)

/-- What `normalize_agent_id` returns is its own normal form. -/
theorem normalizeAgentId_idempotent (accepted : normalizeAgentId agentId = .ok normalized) :
    normalizeAgentId normalized = .ok normalized := by
  simp only [normalizeAgentId, ok_iff] at accepted
  obtain ⟨nonempty, notDots, named, rfl⟩ := accepted
  have clear : ∀ c ∈ (trim agentId).toList, isWhitespace c = false := by
    intro c member
    rw [Bool.not_eq_false, allChars, all_eq_true] at named
    exact isWhitespace_of_isNameChar (named c member)
  simp only [normalizeAgentId, trim_eq_self clear, ok_iff]
  exact ⟨nonempty, notDots, named, trivial⟩

/-- A nonempty path of plain names, the form `normalize_repo_path` produces. -/
def IsRepoPath (path : Path) : Prop := path ≠ [] ∧ ∀ c ∈ path, ∃ segment, c = .normal segment

variable {path : Path}

/-- What `normalize_repo_path` returns is a repository path. -/
theorem normalizeRepoPath_isRepoPath
    (accepted : normalizeRepoPath path = .ok normalized) : IsRepoPath normalized := by
  simp only [normalizeRepoPath, ok_iff] at accepted
  obtain ⟨_, resolved, folded, nonempty, rfl⟩ := accepted
  refine ⟨nonempty, ?_⟩
  -- Names are only appended and popped, so every prefix of the walk is made of names.
  refine foldlM_invariant (fun _ walked => ∀ c ∈ walked, ∃ segment, c = Component.normal segment)
    ?_ (by simp) folded
  intro _ component walked next named stepped
  cases component with
  | pathPrefix text => simp [normalizeComponent] at stepped
  | rootDir => simp [normalizeComponent] at stepped
  | curDir =>
    rw [normalizeComponent, pure_ok] at stepped
    rwa [← stepped]
  | parentDir =>
    simp only [normalizeComponent] at stepped
    split at stepped
    · simp at stepped
    · rw [pure_ok] at stepped
      rw [← stepped]
      exact fun c member => named c (dropLast_subset _ member)
  | normal segment =>
    rw [normalizeComponent, pure_ok] at stepped
    rw [← stepped]
    intro c member
    rcases mem_append.mp member with before | here
    · exact named c before
    · exact ⟨segment, mem_singleton.mp here⟩

/-- A repository path is its own normal form. -/
theorem normalizeRepoPath_eq_self (repo : IsRepoPath path) : normalizeRepoPath path = .ok path := by
  obtain ⟨nonempty, named⟩ := repo
  have walk : ∃ walked, path.foldlM (normalizeComponent path) [] = .ok walked ∧ walked = path := by
    refine foldlM_succeeds (fun read walked => walked = read) ?_ rfl
    rintro done component rest state split rfl
    obtain ⟨segment, rfl⟩ := named component (by simp [split])
    exact ⟨_, rfl, rfl⟩
  obtain ⟨walked, folded, rfl⟩ := walk
  simp only [normalizeRepoPath, ok_iff]
  exact ⟨nonempty, _, folded, nonempty, rfl⟩

theorem startsWith_iff : startsWith path base = true ↔ base <+: path :=
  isPrefixOf_iff_prefix

theorem pathIsCoveredByClaim_iff : pathIsCoveredByClaim path claim = true ↔ claim <+: path := by
  simp only [pathIsCoveredByClaim, Bool.or_eq_true, beq_iff_eq, startsWith_iff]
  constructor
  · rintro (rfl | below)
    · exact prefix_refl path
    · exact below
  · exact .inr

variable {a b : Path}

/-- Overlap is comparability in the prefix order. -/
theorem pathsOverlap_iff : pathsOverlap a b = true ↔ a <+: b ∨ b <+: a := by
  simp only [pathsOverlap, Bool.or_eq_true, beq_iff_eq, startsWith_iff]
  constructor
  · rintro ((rfl | below) | above)
    · exact .inl (prefix_refl a)
    · exact .inr below
    · exact .inl above
  · rintro (above | below)
    · exact .inr above
    · exact .inl (.inr below)

theorem pathsOverlap_comm (a b : Path) : pathsOverlap a b = pathsOverlap b a := by
  rw [Bool.eq_iff_iff, pathsOverlap_iff, pathsOverlap_iff, or_comm]

theorem pathsOverlap_of_cover (first : a <+: path) (second : b <+: path) :
    pathsOverlap a b = true :=
  pathsOverlap_iff.mpr (List.prefix_or_prefix_of_prefix first second)

/-- A path list in the form `normalize_claim_paths` produces. -/
structure CanonicalScope (paths : List Path) : Prop where
  nonempty : paths ≠ []
  repo : ∀ path ∈ paths, IsRepoPath path
  sorted : paths.Pairwise (· < ·)
  separate : paths.Pairwise fun a b => pathsOverlap a b = false

variable {paths : List Path}

/-- Distinct paths of a canonical list do not overlap, in either order. -/
theorem CanonicalScope.apart (canonical : CanonicalScope paths)
    (first : a ∈ paths) (second : b ∈ paths) (different : a ≠ b) : pathsOverlap a b = false := by
  have symmetric : Std.Symm fun a b => pathsOverlap a b = false :=
    ⟨fun a b apart => by rwa [pathsOverlap_comm]⟩
  exact canonical.separate.forall first second different

/-- One step of the collapse on paths that do not overlap appends the path. -/
theorem collapsePath_of_separate
    (apart : ∀ existing ∈ collapsed, pathsOverlap existing path = false) :
    collapsePath collapsed path = collapsed ++ [path] := by
  have uncovered : collapsed.any (startsWith path) = false := by
    rw [any_eq_false]
    intro existing member covered
    have overlap := pathsOverlap_iff.mpr (.inl (startsWith_iff.mp covered))
    rw [apart existing member] at overlap
    cases overlap
  have uncovering : collapsed.filter (fun existing => !startsWith existing path) = collapsed := by
    rw [filter_eq_self]
    intro existing member
    rw [Bool.not_eq_true', Bool.eq_false_iff]
    intro covers
    have overlap := pathsOverlap_iff.mpr (.inr (startsWith_iff.mp covers))
    rw [apart existing member] at overlap
    cases overlap
  rw [collapsePath, uncovered, uncovering]
  rfl

/-- Collapsing paths that do not overlap changes nothing. -/
theorem collapseCoveredPaths_of_separate
    (separate : paths.Pairwise fun a b => pathsOverlap a b = false) :
    collapseCoveredPaths paths = paths := by
  suffices general : ∀ rest done : List Path,
      (done ++ rest).Pairwise (fun a b => pathsOverlap a b = false) →
      rest.foldl collapsePath done = done ++ rest by
    exact general paths [] separate
  intro rest
  induction rest with
  | nil => exact fun done _ => (append_nil done).symm
  | cons path rest ih =>
    intro done apart
    have before : ∀ existing ∈ done, pathsOverlap existing path = false := by
      intro existing member
      exact (pairwise_append.mp apart).2.2 existing member path mem_cons_self
    rw [foldl_cons, collapsePath_of_separate before, ih (done ++ [path]) (by simpa using apart)]
    simp

/-- Collapsing keeps a sublist of the paths, none of which overlap. -/
theorem collapseCoveredPaths_spec (paths : List Path) :
    (collapseCoveredPaths paths).Sublist paths ∧
      (collapseCoveredPaths paths).Pairwise (fun a b => pathsOverlap a b = false) ∧
      (paths ≠ [] → collapseCoveredPaths paths ≠ []) := by
  unfold collapseCoveredPaths
  induction paths using List.reverseRecOn with
  | nil => simp
  | append_singleton paths path ih =>
    obtain ⟨sublist, separate, nonempty⟩ := ih
    rw [foldl_append, foldl_cons, foldl_nil, collapsePath]
    split
    · rename_i covered
      refine ⟨sublist.trans (sublist_append_left _ _), separate, fun _ empty => ?_⟩
      rw [empty] at covered
      cases covered
    · rename_i uncovered
      refine ⟨(filter_sublist.trans sublist).append (List.Sublist.refl _), ?_, by simp⟩
      rw [pairwise_append]
      refine ⟨separate.sublist filter_sublist, pairwise_singleton _ _, ?_⟩
      intro existing kept last here
      obtain ⟨member, uncovering⟩ := mem_filter.mp kept
      rw [mem_singleton.mp here, Bool.eq_false_iff]
      intro overlap
      rcases pathsOverlap_iff.mp overlap with below | above
      · exact uncovered (any_eq_true.mpr ⟨existing, member, startsWith_iff.mpr below⟩)
      · rw [startsWith_iff.mpr above] at uncovering
        cases uncovering

/-- What `normalize_claim_paths` returns is canonical. -/
theorem normalizeClaimPaths_canonical
    (accepted : normalizeClaimPaths paths = .ok normalized) : CanonicalScope normalized := by
  simp only [normalizeClaimPaths, ok_iff] at accepted
  obtain ⟨resolved, mapped, some, rfl⟩ := accepted
  obtain ⟨sublist, separate, nonempty⟩ := collapseCoveredPaths_spec (ofList resolved).toList
  refine ⟨nonempty some, ?_, (sorted_toList _).sublist sublist, separate⟩
  intro path member
  have listed : path ∈ resolved :=
    mem_ofList.mp (mem_toList.mp (sublist.mem member))
  obtain ⟨source, _, accepted⟩ := (mem_mapM_ok mapped).mp listed
  exact normalizeRepoPath_isRepoPath accepted

/-- A canonical path list is its own normal form. -/
theorem normalizeClaimPaths_eq_self (canonical : CanonicalScope paths) :
    normalizeClaimPaths paths = .ok paths := by
  have mapped : paths.mapM normalizeRepoPath = .ok paths :=
    mapM_eq_self fun path member => normalizeRepoPath_eq_self (canonical.repo path member)
  simp only [normalizeClaimPaths, mapped, ok_bind, BTreeSet.toList_ofList canonical.sorted,
    collapseCoveredPaths_of_separate canonical.separate, ok_iff]
  exact ⟨canonical.nonempty, trivial⟩

/-- Collapsing keeps what the paths cover. -/
theorem collapseCoveredPaths_covers (paths : List Path) :
    (∃ claim ∈ collapseCoveredPaths paths, claim <+: path) ↔ ∃ claim ∈ paths, claim <+: path := by
  unfold collapseCoveredPaths
  induction paths using List.reverseRecOn with
  | nil => simp
  | append_singleton paths last ih =>
    simp only [foldl_append, foldl_cons, foldl_nil, mem_append, mem_singleton, or_and_right,
      exists_or, exists_eq_left, ← ih, collapsePath]
    split
    · rename_i covered
      obtain ⟨claim, kept, above⟩ := any_eq_true.mp covered
      refine (or_iff_left_of_imp fun below => ?_).symm
      exact ⟨claim, kept, (startsWith_iff.mp above).trans below⟩
    · simp only [mem_append, mem_singleton, or_and_right, exists_or, exists_eq_left]
      -- A path dropped for the last one is covered by it.
      refine or_congr_left' fun outside => exists_congr fun claim => and_congr_left fun below => ?_
      rw [mem_filter, Bool.not_eq_true', Bool.eq_false_iff, Ne, startsWith_iff]
      exact and_iff_left fun above => outside (above.trans below)

/-- A normalized claim is sorted, no path of it covers another, it covers what was requested and
is its own normal form, and any request of the same paths has it too. -/
theorem normalizeClaimPaths_laws {normalized : List Path}
    (accepted : normalizeClaimPaths paths = .ok normalized) :
    normalized.Pairwise (· < ·) ∧
    (∀ a ∈ normalized, ∀ b ∈ normalized, a <+: b → a = b) ∧
    (∀ path, (∃ claim ∈ normalized, claim <+: path) ↔
      ∃ requested ∈ paths, ∃ claim, normalizeRepoPath requested = .ok claim ∧ claim <+: path) ∧
    normalizeClaimPaths normalized = .ok normalized ∧
    ∀ other : List Path, (∀ path, path ∈ other ↔ path ∈ paths) →
      normalizeClaimPaths other = .ok normalized := by
  have canonical := normalizeClaimPaths_canonical accepted
  simp only [normalizeClaimPaths, ok_iff] at accepted
  obtain ⟨resolved, mapped, some_, rfl⟩ := accepted
  refine ⟨canonical.sorted, fun a first b second above => ?_, fun path => ?_,
    normalizeClaimPaths_eq_self canonical, fun other same => ?_⟩
  · by_contra different
    have apart := canonical.apart first second different
    rw [pathsOverlap_iff.mpr (.inl above)] at apart
    cases apart
  · simp only [collapseCoveredPaths_covers, mem_toList, mem_ofList,
      mem_mapM_ok mapped]
    tauto
  · obtain ⟨others, again⟩ : ∃ others, other.mapM normalizeRepoPath = .ok others := by
      refine mapM_succeeds fun path member => ?_
      have listed := mem_map_of_mem (f := normalizeRepoPath) ((same path).mp member)
      rw [mapM_ok.mp mapped] at listed
      obtain ⟨claim, -, found⟩ := mem_map.mp listed
      exact ⟨claim, found.symm⟩
    have sameSet : (ofList others).toList = (ofList resolved).toList := by
      refine eq_of_sorted_of_mem (fun a b => lt_asymm) (sorted_toList _)
        (sorted_toList _) fun claim => ?_
      simp only [mem_toList, mem_ofList, mem_mapM_ok again, mem_mapM_ok mapped,
        same]
    simp only [normalizeClaimPaths, again, ok_bind, sameSet, ok_iff]
    exact ⟨some_, trivial⟩

/-- A claim of a directory, a file in it and another file. -/
theorem normalizeClaimPaths_laws_nested :
    normalizeClaimPaths [[.normal "b"], [.normal "a", .normal "b"], [.normal "a"]] =
      .ok [[.normal "a"], [.normal "b"]] ∧
    normalizeClaimPaths [[.normal "a"], [.normal "b"]] = .ok [[.normal "a"], [.normal "b"]] := by
  have accepted : normalizeClaimPaths [[.normal "b"], [.normal "a", .normal "b"], [.normal "a"]] =
      .ok [[.normal "a"], [.normal "b"]] := by
    decide +kernel
  exact ⟨accepted, (normalizeClaimPaths_laws accepted).2.2.2.1⟩

end Maco.Sync
