import Maco.Sync.RoundTrip

/-!
# What a restored coordinator satisfies

A coordinator restored from a snapshot whose tokens lie below its next token is consistent, none of
its Workers holds a top-level claim, and its subordinate claims are exactly the listed claims whose
tokens are recorded as children.
-/

namespace Maco.Sync

open Maco.Base List

/-- What restoring the top-level claims has built so far. -/
structure TopSoFar (nextToken : ℕ) (read : List PathClaim) (restoring : Restoring) : Prop where
  consistent : Consistent
    { Inner.default with nextToken, claims := restoring.claims }
  seen : ∀ (key : Path) entry, restoring.claims[key]? = some entry →
    entry.token ∈ restoring.seenTokens
  listed : ∀ token ∈ restoring.seenTokens, token ∈ read.map PathClaim.token
  below : restoring.maxToken < nextToken

variable {snapshot : SyncSnapshot} {inner : Inner}

/-- A restored snapshot whose tokens lie below its next token is consistent and keeps that token;
its entries carry the tokens of the listed claims. -/
theorem fromSnapshot_consistent
    (restored : fromSnapshot snapshot = .ok inner) (positive : 1 ≤ snapshot.nextToken)
    (below : ∀ claim ∈ snapshot.claims, claim.token < snapshot.nextToken) :
    Consistent inner ∧ (∀ (key : Path) entry, inner.claims[key]? = some entry →
      entry.token ∈ snapshot.claims.map PathClaim.token) ∧
    inner = { Inner.default with nextToken := snapshot.nextToken, claims := inner.claims } := by
  simp only [fromSnapshot, ok_iff] at restored
  obtain ⟨restoring, folded, rfl⟩ := restored
  have sofar : TopSoFar snapshot.nextToken snapshot.claims restoring := by
    refine foldlM_invariant (fun read restoring => (∀ claim ∈ read, claim.token <
      snapshot.nextToken) → TopSoFar snapshot.nextToken read restoring) ?_ ?_ folded below
    · intro read claim restoring next earlier stepped bounds
      have sofar := earlier fun other listed => bounds other (mem_append_left _ listed)
      have bound := bounds claim (mem_append_right _ (mem_singleton_self _))
      obtain ⟨nonzero, fresh, agent, scope, claims, agentNormal, scopeNormal, inserted, rfl⟩ :=
        restoreClaim_ok.mp stepped
      have entered := sofar.consistent.enter (le_refl _) (Nat.one_le_iff_ne_zero.mpr nonzero) bound
        (fun key entry found same => fresh (same ▸ sofar.seen key entry found))
        (by simp [Inner.default]) (normalizeAgentId_idempotent agentNormal)
        (normalizeClaimPaths_canonical scopeNormal) inserted
      refine ⟨entered, ?_, ?_, max_lt sofar.below bound⟩
      · intro key entry found
        rw [BTreeSet.mem_insert]
        rcases (insertClaim_entry inserted).mp found with ⟨-, rfl⟩ | old
        · exact .inl rfl
        · exact .inr (sofar.seen key entry old)
      · intro token seen
        rw [map_append, map_singleton, mem_append, mem_singleton]
        rcases BTreeSet.mem_insert.mp seen with rfl | older
        · exact .inr rfl
        · exact .inl (sofar.listed token older)
    · intro _
      exact ⟨Consistent.default.raise positive, by simp, by simp, positive⟩
  have next : max (max snapshot.nextToken (saturatingAddU64 restoring.maxToken 1)) 1 =
      snapshot.nextToken := by
    have lower := sofar.below
    unfold saturatingAddU64
    omega
  rw [next]
  exact ⟨sofar.consistent, fun key entry found => sofar.listed _ (sofar.seen key entry found), rfl⟩

/-- What restoring the children has built so far over the top-level claims. -/
structure ChildrenSoFar (top : Inner) (bindings : List SubordinateClaimBinding)
    (read : List PathClaim) (state : Inner) : Prop where
  consistent : Consistent { state with subordinateBindings := bindings }
  noTop : WorkersHoldNoTop state
  rest : state = { top with subordinateClaims := state.subordinateClaims }
  children : ∀ (token : ℕ) child, state.subordinateClaims[token]? = some child ↔
    child ∈ read ∧ child.token = token

variable {bindings : List SubordinateClaimBinding}

/-- Children restored over consistent top-level claims keep the coordinator consistent. -/
theorem restoreChildren_consistent
    (consistent : Consistent { top with subordinateBindings := bindings })
    (childless : top.subordinateClaims = ∅)
    (folded : children.foldlM (restoreChild bindings) top = .ok finish) :
    ChildrenSoFar top bindings children finish := by
  refine foldlM_invariant (ChildrenSoFar top bindings) ?_ ?_ folded
  · intro read child state next sofar stepped
    obtain ⟨binding, parent, lookup, active, fits, worker, paths, fresh, rfl⟩ :=
      restoreChild_ok.mp stepped
    have token : binding.childToken = child.token := by simpa using find?_some lookup
    have bound : BoundChild state.claims child binding :=
      ⟨token, worker.symm, paths.symm, parent, active, fits.toCarvedFrom⟩
    refine ⟨sofar.consistent.attach parent child (mem_of_find?_eq_some lookup) bound
      { fits with }, ?_, ?_, ?_⟩
    · intro token other key entry stored found
      rcases BTreeMap.get_insert_cases stored with ⟨-, rfl⟩ | ⟨-, old⟩
      · exact fits.noTop key entry found
      · exact sofar.noTop token other key entry old found
    · rw [sofar.rest]
    · exact BTreeMap.get_insert_concat sofar.children fresh
  · refine ⟨consistent, ?_, rfl, ?_⟩
    · intro token child key entry stored
      rw [childless, BTreeMap.get_empty] at stored
      cases stored
    · intro token child
      rw [childless, BTreeMap.get_empty]
      simp

/-- A coordinator restored with its subordinate claims. -/
structure RestoredFrom (snapshot : SyncSnapshot) (bindings : List SubordinateClaimBinding)
    (inner : Inner) : Prop where
  consistent : Consistent inner
  noTop : WorkersHoldNoTop inner
  nextToken : inner.nextToken = snapshot.nextToken
  retained : inner.subordinateBindings = bindings
  children : ∀ (token : ℕ) child, inner.subordinateClaims[token]? = some child ↔
    child ∈ snapshot.claims ∧ child.token = token ∧
      token ∈ bindings.map SubordinateClaimBinding.childToken

/-- Restoring a snapshot whose tokens lie below its next token yields a consistent coordinator whose
Workers hold no top-level claim. -/
theorem fromSnapshotWithSubordinates_restored
    (restored : fromSnapshotWithSubordinates snapshot bindings = .ok inner)
    (positive : 1 ≤ snapshot.nextToken)
    (below : ∀ claim ∈ snapshot.claims, claim.token < snapshot.nextToken) :
    RestoredFrom snapshot bindings inner := by
  simp only [fromSnapshotWithSubordinates, ok_iff] at restored
  obtain ⟨seen, checked, top, topRestored, full, folded, rfl⟩ := restored
  have recorded := checkBindings_sound checked
  obtain ⟨topConsistent, topListed, topRest⟩ := fromSnapshot_consistent topRestored positive
    fun claim listed => below claim (mem_filter.mp listed).1
  have withBindings : Consistent { top with subordinateBindings := bindings } := {
    topConsistent with
    bindings := by
      intro binding listed
      rw [topRest]
      exact recorded.forms binding listed
    childDistinct := recorded.childDistinct
    sourceDistinct := recorded.sourceDistinct
    topNotChild := by
      intro key entry found binding listed same
      obtain ⟨claim, member, token⟩ := mem_map.mp (topListed key entry found)
      have notChild := (mem_filter.mp member).2
      rw [Bool.not_eq_true', decide_eq_false_iff_not, recorded.childTokens, token, ← same]
        at notChild
      exact notChild (mem_map_of_mem listed)
    childBound := by
      intro token child found
      rw [topRest] at found
      simp [Inner.default] at found }
  have sofar := restoreChildren_consistent withBindings (by rw [topRest]; rfl) folded
  refine ⟨sofar.consistent, sofar.noTop, ?_, rfl, ?_⟩
  · rw [sofar.rest, topRest]
  · intro token child
    rw [sofar.children, mem_filter, decide_eq_true_eq, recorded.childTokens]
    constructor
    · rintro ⟨⟨listed, isChild⟩, rfl⟩
      exact ⟨listed, rfl, isChild⟩
    · rintro ⟨listed, rfl, isChild⟩
      exact ⟨⟨listed, isChild⟩, rfl⟩

/-- The agents of restored claims have a normal form, and the restored entries carry the tokens of
the listed claims with these. -/
theorem fromSnapshot_holders (restored : fromSnapshot snapshot = .ok inner) :
    (∀ claim ∈ snapshot.claims, ∃ agent, normalizeAgentId claim.agentId = .ok agent) ∧
    ∀ token agent, (∃ (key : Path) (entry : ClaimEntry), inner.claims[key]? = some entry ∧
      entry.token = token ∧ entry.agentId = agent) ↔
      ∃ claim ∈ snapshot.claims, claim.token = token ∧
        normalizeAgentId claim.agentId = .ok agent := by
  simp only [fromSnapshot, ok_iff] at restored
  obtain ⟨restoring, folded, rfl⟩ := restored
  refine foldlM_invariant (fun (read : List PathClaim) restoring =>
    (∀ claim ∈ read, ∃ agent, normalizeAgentId claim.agentId = .ok agent) ∧
    ∀ token agent, (∃ (key : Path) (entry : ClaimEntry), restoring.claims[key]? = some entry ∧
      entry.token = token ∧ entry.agentId = agent) ↔
      ∃ claim ∈ read, claim.token = token ∧ normalizeAgentId claim.agentId = .ok agent)
    ?_ (by simp) folded
  rintro read claim restoring next ⟨agents, sofar⟩ stepped
  obtain ⟨-, -, owner, scope, claims, normal, scopeNormal, inserted, rfl⟩ :=
    restoreClaim_ok.mp stepped
  refine ⟨forall_mem_concat agents ⟨owner, normal⟩, fun token agent => ?_⟩
  simp only [mem_append, mem_singleton, or_and_right, exists_or, exists_eq_left, ← sofar,
    insertClaim_entry inserted]
  refine or_comm.trans (or_congr_right ⟨?_, ?_⟩)
  · rintro ⟨key, entry, ⟨-, rfl⟩, same, owned⟩
    exact ⟨same, owned ▸ normal⟩
  · rintro ⟨same, owned⟩
    obtain ⟨path, held⟩ :=
      exists_mem_of_ne_nil _ (normalizeClaimPaths_canonical scopeNormal).nonempty
    rw [normal, Except.ok.injEq] at owned
    exact ⟨path, _, ⟨held, rfl⟩, same, owned⟩

/-- The claims of a restored coordinator carry exactly the tokens of the listed claims. -/
theorem fromSnapshotWithSubordinates_tokens
    (restored : fromSnapshotWithSubordinates snapshot bindings = .ok inner)
    (positive : 1 ≤ snapshot.nextToken)
    (below : ∀ claim ∈ snapshot.claims, claim.token < snapshot.nextToken) :
    token ∈ (allClaims inner).map PathClaim.token ↔
      token ∈ snapshot.claims.map PathClaim.token := by
  have facts := fromSnapshotWithSubordinates_restored restored positive below
  simp only [fromSnapshotWithSubordinates, ok_iff] at restored
  obtain ⟨seen, checked, top, topRestored, full, folded, rfl⟩ := restored
  have recorded := checkBindings_sound checked
  obtain ⟨agents, holders⟩ := fromSnapshot_holders topRestored
  have kept : full.claims = top.claims := (restoreChildren_sound folded).1
  rw [mem_tokens facts.consistent, mem_map]
  rw [kept]
  constructor
  · rintro (⟨child, stored⟩ | ⟨key, entry, found, carries⟩)
    · obtain ⟨listed, same, -⟩ := (facts.children _ _).mp stored
      exact ⟨child, listed, same⟩
    · obtain ⟨claim, member, same, -⟩ := (holders _ _).mp ⟨key, entry, found, carries, rfl⟩
      exact ⟨claim, (mem_filter.mp member).1, same⟩
  · rintro ⟨claim, member, rfl⟩
    by_cases child : claim.token ∈ bindings.map SubordinateClaimBinding.childToken
    · exact .inl ⟨claim, (facts.children _ _).mpr ⟨member, rfl, child⟩⟩
    · have top : claim ∈ snapshot.claims.filter fun claim =>
          !decide (claim.token ∈ seen.childTokens) := by
        rw [mem_filter, Bool.not_eq_true', decide_eq_false_iff_not, recorded.childTokens]
        exact ⟨member, child⟩
      obtain ⟨agent, normal⟩ := agents claim top
      obtain ⟨key, entry, found, carries, -⟩ := (holders _ _).mpr ⟨claim, top, rfl, normal⟩
      exact .inr ⟨key, entry, found, carries⟩

end Maco.Sync
