import Maco.Base.Exclusion
import Maco.Sync.Inversion

/-!
# Write exclusivity

Top-level claims never overlap, and neither do subordinate claims, in every state a coordinator
can reach. Both tables are exclusive holdings; a write permission is read off the subordinate
claims first and off the top-level claims only where no subordinate claim reaches, so two agents
that may write overlapping paths hold one and the same entry.
-/

namespace Maco.Sync

open Maco.Base BTreeMap List

/-- Two top-level entries clash when their paths overlap. -/
def pathClash (a : Path) (_ : ClaimEntry) (b : Path) (_ : ClaimEntry) : Prop :=
  pathsOverlap a b = true

/-- Two subordinate claims clash when some of their paths overlap. -/
def scopeClash (_ : ℕ) (x : PathClaim) (_ : ℕ) (y : PathClaim) : Prop :=
  ∃ a ∈ x.paths, ∃ b ∈ y.paths, pathsOverlap a b = true

/-- The two claim tables are exclusive. -/
structure Separated (inner : Inner) : Prop where
  top : Exclusive pathClash inner.claims
  subordinate : Exclusive scopeClash inner.subordinateClaims

theorem scopeClash_symm (s : ℕ) (x : PathClaim) (t : ℕ) (y : PathClaim)
    (clash : scopeClash s x t y) : scopeClash t y s x := by
  obtain ⟨a, first, b, second, overlap⟩ := clash
  exact ⟨b, second, a, first, by rwa [pathsOverlap_comm]⟩

variable {p q : Path}

/-- Covers of two overlapping paths overlap. -/
theorem pathsOverlap_of_covers (overlap : pathsOverlap p q = true)
    (first : a <+: p) (second : b <+: q) : pathsOverlap a b = true := by
  rcases pathsOverlap_iff.mp overlap with above | below
  · exact pathsOverlap_of_cover (first.trans above) second
  · exact pathsOverlap_of_cover first (second.trans below)

variable {agentId : String}

/-- Inserting a canonical claim that is free of conflicts keeps the top-level table exclusive. -/
theorem insertClaim_exclusive {claims next : BTreeMap Path ClaimEntry} {token : ℕ}
    {paths : List Path} (exclusive : Exclusive pathClash claims) (canonical : CanonicalScope paths)
    (inserted : insertClaim claims token agentId paths = .ok next) : Exclusive pathClash next := by
  obtain ⟨clear, lookups⟩ := insertClaim_ok.mp inserted
  intro a x b y first second different clash
  rw [lookups] at first second
  by_cases aNew : a ∈ paths <;> by_cases bNew : b ∈ paths
  · -- Two paths of the new claim: its list is free of overlaps.
    rw [pathClash, canonical.apart aNew bNew different] at clash
    cases clash
  · rw [if_neg bNew] at second
    have apart := clear a aNew b y second
    rw [pathClash, pathsOverlap_comm, apart] at clash
    cases clash
  · rw [if_neg aNew] at first
    have apart := clear b bNew a x first
    rw [pathClash, apart] at clash
    cases clash
  · rw [if_neg aNew] at first
    rw [if_neg bNew] at second
    exact exclusive a x b y first second different clash

variable {inner : Inner}

/-- A scope that fits may be entered as a subordinate claim. -/
theorem Separated.insertChild (separated : Separated inner)
    (child : PathClaim) (fits : SubordinateFits inner parent child.agentId child.paths) :
    Exclusive scopeClash (inner.subordinateClaims.insert child.token child) := by
  refine separated.subordinate.insert scopeClash_symm fun token claim found _ clash => ?_
  obtain ⟨path, listed, scope, held, overlap⟩ := clash
  have apart := fits.freeScope token claim found scope held path listed
  rw [pathsOverlap_comm, apart] at overlap
  cases overlap

/-- A restored snapshot has an exclusive top-level table and no subordinate claims. -/
theorem fromSnapshot_separated {snapshot : SyncSnapshot}
    (restored : fromSnapshot snapshot = .ok inner) : Separated inner := by
  simp only [fromSnapshot, ok_iff] at restored
  obtain ⟨restoring, folded, rfl⟩ := restored
  refine ⟨?_, Exclusive.empty⟩
  refine foldlM_invariant (fun _ restoring => Exclusive pathClash restoring.claims) ?_
    Exclusive.empty folded
  intro _ claim restoring next exclusive stepped
  obtain ⟨_, _, agent, scope, claims, _, normal, inserted, rfl⟩ := restoreClaim_ok.mp stepped
  exact insertClaim_exclusive exclusive (normalizeClaimPaths_canonical normal) inserted

/-- A coordinator restored with its subordinate claims is separated. -/
theorem fromSnapshotWithSubordinates_separated
    (restored : fromSnapshotWithSubordinates snapshot bindings = .ok inner) : Separated inner := by
  simp only [fromSnapshotWithSubordinates, ok_iff] at restored
  obtain ⟨seen, _, top, topRestored, full, folded, rfl⟩ := restored
  have separated : Separated full := by
    refine foldlM_invariant (fun _ inner => Separated inner) ?_
      (fromSnapshot_separated topRestored) folded
    intro _ child inner next separated stepped
    obtain ⟨_, parent, _, _, fits, _, _, _, rfl⟩ := restoreChild_ok.mp stepped
    exact ⟨separated.top, separated.insertChild child fits⟩
  exact ⟨separated.top, separated.subordinate⟩

/-- Every operation keeps the two tables exclusive. -/
theorem step_separated (separated : Separated inner) (operation : Operation) :
    Separated (step inner operation) := by
  cases operation with
  | claimPaths agentId paths =>
    rcases claimPaths_cases inner agentId paths with
      ⟨_, same⟩ | ⟨_, spent⟩ | ⟨agent, scope, claims, _, normal, _, inserted, entered⟩
    · rwa [step, same]
    · rw [step, spent]
      exact ⟨separated.top, separated.subordinate⟩
    · rw [step, entered]
      exact ⟨insertClaim_exclusive separated.top (normalizeClaimPaths_canonical normal) inserted,
        separated.subordinate⟩
  | claimSubordinatePaths parent workerId paths sourceDigest =>
    refine stateAfter_rec separated fun claim next accepted => ?_
    obtain ⟨_, _, _, fits, _, rfl, rfl⟩ := claimSubordinatePaths_ok accepted
    exact ⟨separated.top, separated.insertChild ⟨_, _, _⟩ fits⟩
  | release token =>
    refine stateAfter_rec separated fun claim next accepted => ?_
    obtain ⟨_, ⟨_, rfl⟩ | ⟨_, _, rfl⟩⟩ := release_ok accepted
    · exact ⟨separated.top, separated.subordinate.erase token⟩
    · exact ⟨separated.top.filter _, separated.subordinate⟩
  | releaseByAgent agentId =>
    refine stateAfter_rec separated fun claims next accepted => ?_
    obtain ⟨agent, _, _, rfl⟩ := releaseByAgent_ok accepted
    exact ⟨separated.top.filter _, separated.subordinate.filter _⟩

/-- Every event keeps the two tables exclusive. -/
theorem advance_separated (separated : Separated inner) (event : Event) :
    Separated (advance inner event) := by
  cases event with
  | operation operation => exact step_separated separated operation
  | fromSnapshot snapshot =>
    rw [advance]
    cases outcome : fromSnapshot snapshot with
    | error refusal => exact separated
    | ok next => exact fromSnapshot_separated outcome
  | fromSnapshotWithSubordinates snapshot bindings =>
    rw [advance]
    cases outcome : fromSnapshotWithSubordinates snapshot bindings with
    | error refusal => exact separated
    | ok next => exact fromSnapshotWithSubordinates_separated outcome

/-- The two tables are exclusive after any sequence of events on a new coordinator. -/
theorem run_separated (events : List Event) : Separated (run Inner.default events) := by
  refine foldlRecOn events advance ⟨Exclusive.empty, Exclusive.empty⟩ ?_
  exact fun inner separated event _ => advance_separated separated event

variable {path : Path}

/-- An agent may write a path exactly through a subordinate claim that covers it, or, where no
subordinate claim reaches, through a top-level entry that covers it. -/
theorem canWrite_grant (agentNormal : normalizeAgentId agentId = .ok agent)
    (pathNormal : normalizeRepoPath path = .ok normalized)
    (writes : canWrite inner agentId path = .ok true) :
    (∃ (token : ℕ) (child : PathClaim), inner.subordinateClaims[token]? = some child ∧
      child.agentId = agent ∧ ∃ scope ∈ child.paths, scope <+: normalized) ∨
    (∀ (token : ℕ) child, inner.subordinateClaims[token]? = some child →
      ∀ scope ∈ child.paths, pathsOverlap normalized scope = false) ∧
      ∃ (key : Path) (entry : ClaimEntry), inner.claims[key]? = some entry ∧
        entry.agentId = agent ∧ key <+: normalized := by
  simp only [canWrite, agentNormal, pathNormal, ok_bind] at writes
  split at writes
  · rename_i child found
    simp only [pure_ok, Bool.and_eq_true, beq_iff_eq, any_eq_true,
      pathIsCoveredByClaim_iff] at writes
    obtain ⟨token, stored⟩ := mem_values.mp (mem_of_find?_eq_some found)
    exact .inl ⟨token, child, stored, writes.1, writes.2⟩
  · rename_i missing
    refine .inr ⟨?_, ?_⟩
    · intro token child stored scope held
      have unreached := find?_eq_none.mp missing child (mem_values.mpr ⟨token, stored⟩)
      rw [any_eq_true, not_exists] at unreached
      rw [Bool.eq_false_iff]
      exact fun overlap => unreached scope ⟨held, overlap⟩
    · simp only [pure_ok, any_eq_true, Bool.and_eq_true, beq_iff_eq, Prod.exists,
        mem_toList, pathIsCoveredByClaim_iff] at writes
      obtain ⟨key, entry, stored, held, covers⟩ := writes
      exact ⟨key, entry, stored, held, covers⟩

section

variable (separated : Separated inner)

include separated

/-- Subordinate claims that cover overlapping paths are one claim. -/
theorem Separated.child_unique {s t : ℕ}
    {x y : PathClaim} {a b : Path} (overlap : pathsOverlap p q = true)
    (first : inner.subordinateClaims[s]? = some x) (second : inner.subordinateClaims[t]? = some y)
    (held : a ∈ x.paths) (otherHeld : b ∈ y.paths) (covers : a <+: p) (otherCovers : b <+: q) :
    x = y := by
  by_cases same : s = t
  · subst same
    rwa [first, Option.some.injEq] at second
  · exact absurd ⟨a, held, b, otherHeld, pathsOverlap_of_covers overlap covers otherCovers⟩
      (separated.subordinate s x t y first second same)

/-- Top-level entries that cover overlapping paths are one entry. -/
theorem Separated.entry_unique (overlap : pathsOverlap p q = true)
    (first : inner.claims[k]? = some x) (second : inner.claims[l]? = some y)
    (covers : k <+: p) (otherCovers : l <+: q) : x = y := by
  by_cases same : k = l
  · subst same
    rwa [first, Option.some.injEq] at second
  · exact absurd (pathsOverlap_of_covers overlap covers otherCovers)
      (separated.top k x l y first second same)

/-- Agents that may write overlapping paths are one agent. -/
theorem agent_eq_of_overlap {otherId a b : String} {otherPath : Path}
    (aNormal : normalizeAgentId agentId = .ok a) (bNormal : normalizeAgentId otherId = .ok b)
    (pNormal : normalizeRepoPath path = .ok p) (qNormal : normalizeRepoPath otherPath = .ok q)
    (overlap : pathsOverlap p q = true) (aWrites : canWrite inner agentId path = .ok true)
    (bWrites : canWrite inner otherId otherPath = .ok true) : a = b := by
  rcases canWrite_grant aNormal pNormal aWrites with
    ⟨s, x, aChild, rfl, scope, aScope, aCovers⟩ | ⟨aFree, k, entry, aTop, rfl, aCovers⟩ <;>
  rcases canWrite_grant bNormal qNormal bWrites with
    ⟨t, y, bChild, rfl, other, bScope, bCovers⟩ | ⟨bFree, l, other, bTop, rfl, bCovers⟩
  · rw [separated.child_unique overlap aChild bChild aScope bScope aCovers bCovers]
  · -- A child that covers `p` also reaches the overlapping `q`.
    have reached := pathsOverlap_of_covers overlap aCovers (prefix_refl q)
    rw [pathsOverlap_comm, bFree s x aChild scope aScope] at reached
    cases reached
  · have reached := pathsOverlap_of_covers overlap (prefix_refl p) bCovers
    rw [aFree t y bChild other bScope] at reached
    cases reached
  · rw [separated.entry_unique overlap aTop bTop aCovers bCovers]

/-- The owner of a path an agent may write is that agent. -/
theorem ownerOf_of_canWrite {agent : String} (agentNormal : normalizeAgentId agentId = .ok agent)
    (writes : canWrite inner agentId path = .ok true) : ownerOf inner path = .ok (some agent) := by
  have pathAccepted : ∃ normalized, normalizeRepoPath path = .ok normalized := by
    simp only [canWrite, agentNormal, ok_bind, bind_ok] at writes
    obtain ⟨normalized, accepted, _⟩ := writes
    exact ⟨normalized, accepted⟩
  obtain ⟨normalized, pathNormal⟩ := pathAccepted
  have grant := canWrite_grant agentNormal pathNormal writes
  have itself : pathsOverlap normalized normalized = true :=
    pathsOverlap_iff.mpr (.inl (prefix_refl normalized))
  simp only [ownerOf, pathNormal, ok_bind]
  cases found : inner.subordinateClaims.values.find? fun claim =>
      claim.paths.any (pathIsCoveredByClaim normalized) with
  | some child =>
    have covered := find?_some found
    simp only [any_eq_true, pathIsCoveredByClaim_iff] at covered
    obtain ⟨other, otherHeld, otherCovers⟩ := covered
    obtain ⟨t, otherStored⟩ := mem_values.mp (mem_of_find?_eq_some found)
    rcases grant with ⟨s, x, stored, rfl, scope, held, covers⟩ | ⟨free, _⟩
    · rw [separated.child_unique itself stored otherStored held otherHeld covers otherCovers]
      rfl
    · have reached := pathsOverlap_of_cover (prefix_refl normalized) otherCovers
      rw [free t child otherStored other otherHeld] at reached
      cases reached
  | none =>
    rcases grant with ⟨s, x, stored, rfl, scope, held, covers⟩ | ⟨_, k, entry, stored, rfl, covers⟩
    · have uncovered := find?_eq_none.mp found x (mem_values.mpr ⟨s, stored⟩)
      exact absurd (any_eq_true.mpr ⟨scope, held, pathIsCoveredByClaim_iff.mpr covers⟩)
        uncovered
    · have owner : ∃ other, inner.claims.toList.find? (fun entry =>
          pathIsCoveredByClaim normalized entry.1) = some other := by
        rw [← Option.isSome_iff_exists, find?_isSome]
        exact ⟨(k, entry), mem_toList.mpr stored, pathIsCoveredByClaim_iff.mpr covers⟩
      obtain ⟨⟨l, other⟩, first⟩ := owner
      have otherStored := mem_toList.mp (mem_of_find?_eq_some first)
      have otherCovered := find?_some first
      have otherCovers : l <+: normalized := pathIsCoveredByClaim_iff.mp otherCovered
      rw [first, separated.entry_unique itself stored otherStored covers otherCovers]
      rfl

end

/-- Write exclusivity of every reachable coordinator: agents that may write overlapping paths are
one agent, and whoever may write a path owns it. Agents are compared by their normal form, which
is the form in which claims record them. -/
theorem run_write_exclusive (events : List Event) :
    (∀ (agentId otherId a b : String) (path otherPath p q : Path),
      normalizeAgentId agentId = .ok a → normalizeAgentId otherId = .ok b →
      normalizeRepoPath path = .ok p → normalizeRepoPath otherPath = .ok q →
      pathsOverlap p q = true →
      canWrite (run Inner.default events) agentId path = .ok true →
      canWrite (run Inner.default events) otherId otherPath = .ok true → a = b) ∧
    ∀ (agentId a : String) (path : Path), normalizeAgentId agentId = .ok a →
      canWrite (run Inner.default events) agentId path = .ok true →
      ownerOf (run Inner.default events) path = .ok (some a) := by
  have separated := run_separated events
  refine ⟨?_, ?_⟩
  · intro agentId otherId a b path otherPath p q aNormal bNormal pNormal qNormal overlap
    exact agent_eq_of_overlap separated aNormal bNormal pNormal qNormal overlap
  · intro agentId a path aNormal
    exact ownerOf_of_canWrite separated aNormal

/-- A parent that claims `src` and grants `src/a` to a Worker. -/
def grantedWorker : List Operation :=
  [.claimPaths "parent" [[.normal "src"]],
    .claimSubordinatePaths ⟨1, "parent", [[.normal "src"]]⟩ "worker" [[.normal "src", .normal "a"]]
      (String.ofList (replicate 64 'a'))]

/-- The Worker of a grant may write its scope and owns it, under any spelling of its id. -/
theorem run_write_exclusive_worker :
    let inner := run Inner.default (grantedWorker.map .operation)
    canWrite inner " worker" [.normal "src", .normal "a"] = .ok true ∧
      ownerOf inner [.normal "src", .normal "a"] = .ok (some "worker") ∧
      ∀ a, normalizeAgentId "worker " = .ok a → a = "worker" := by
  intro inner
  have writes : canWrite inner " worker" [.normal "src", .normal "a"] = .ok true := by decide
  have deeper : canWrite inner "worker " [.normal "src", .normal "a", .normal "b"] = .ok true := by
    decide
  have exclusive := run_write_exclusive (grantedWorker.map .operation)
  refine ⟨writes, exclusive.2 " worker" "worker" _ (by decide) writes, ?_⟩
  intro a normal
  exact exclusive.1 "worker " " worker" a "worker" _ _ _ _ normal (by decide) rfl rfl (by decide)
    deeper writes

end Maco.Sync
