import Maco.Sync.Coordinator

/-!
# What each coordinator operation does

One statement for each operation: the conditions under which it succeeds and the state it then
leaves, in terms of map lookups. Every invariant of the coordinator is derived from these.
-/

namespace Maco.Sync

open Maco.Base BTreeMap List

/-- Lookup after every path of a claim was inserted with one entry. -/
theorem get_foldl_insert (claims : BTreeMap Path ClaimEntry) (entry : ClaimEntry)
    (paths : List Path) (key : Path) :
    (paths.foldl (fun claims path => claims.insert path entry) claims)[key]? =
      if key ∈ paths then some entry else claims[key]? := by
  induction paths generalizing claims with
  | nil => simp
  | cons path paths ih =>
    rw [foldl_cons, ih, get_insert]
    by_cases later : key ∈ paths
    · simp [later]
    · by_cases here : path = key
      · simp [here]
      · simp [later, here, Ne.symm here]

/-- A requested path passes exactly when no claimed path overlaps it. -/
theorem checkConflict_ok :
    checkConflict claims requested = .ok () ↔
      ∀ (key : Path) entry, claims[key]? = some entry → pathsOverlap key requested = false := by
  have clear : findConflict claims requested = none ↔
      ∀ (key : Path) entry, claims[key]? = some entry → pathsOverlap key requested = false := by
    simp only [findConflict, find?_eq_none, Prod.forall, mem_toList, Bool.not_eq_true]
  rw [← clear, checkConflict]
  cases findConflict claims requested <;> simp

variable {paths : List Path}

/-- A claim is inserted exactly when none of its paths overlaps a claimed one, and then each of its
paths carries its entry. -/
theorem insertClaim_ok {claims next : BTreeMap Path ClaimEntry} :
    insertClaim claims token agentId paths = .ok next ↔
      (∀ path ∈ paths, ∀ (key : Path) entry, claims[key]? = some entry →
        pathsOverlap key path = false) ∧
      ∀ key : Path, next[key]? = if key ∈ paths then some ⟨token, agentId⟩ else claims[key]? := by
  simp only [insertClaim, ok_iff, forM_ok, checkConflict_ok]
  constructor
  · rintro ⟨clear, rfl⟩
    exact ⟨clear, get_foldl_insert claims ⟨token, agentId⟩ paths⟩
  · rintro ⟨clear, lookups⟩
    refine ⟨clear, ext_get fun key => ?_⟩
    rw [get_foldl_insert, lookups]

/-- An entry after a claim was inserted is the claim's own, or was there before. -/
theorem insertClaim_entry {claims next : BTreeMap Path ClaimEntry}
    (inserted : insertClaim claims token agentId paths = .ok next) :
    next[key]? = some entry ↔
      (key ∈ paths ∧ entry = ⟨token, agentId⟩) ∨ claims[key]? = some entry := by
  obtain ⟨clear, lookups⟩ := insertClaim_ok.mp inserted
  rw [lookups]
  split
  case isTrue requested =>
    have free : claims[key]? ≠ some entry := by
      intro found
      have apart := clear key requested key entry found
      rw [pathsOverlap_iff.mpr (.inl (prefix_refl key))] at apart
      cases apart
    simp [requested, free, eq_comm]
  case isFalse outside => simp [outside]

/-- A scope carved out of a parent claim for a Worker. -/
structure CarvedFrom (parent : PathClaim) (workerId : String) (paths : List Path) : Prop where
  notParent : workerId ≠ parent.agentId
  /-- Every path lies in the parent's scope. -/
  inside : ∀ path ∈ paths, ∃ scope ∈ parent.paths, scope <+: path
  /-- Some of the parent's scope is not covered. -/
  proper : ∃ scope ∈ parent.paths, ∀ path ∈ paths, ¬ path <+: scope

/-- What `validate_subordinate_scope` accepts. -/
structure SubordinateFits (inner : Inner) (parent : PathClaim) (workerId : String)
    (paths : List Path) : Prop extends CarvedFrom parent workerId paths where
  /-- The Worker id is in normal form. -/
  worker : normalizeAgentId workerId = .ok workerId
  canonical : CanonicalScope paths
  freeWorker : ∀ (token : ℕ) claim, inner.subordinateClaims[token]? = some claim →
    claim.agentId ≠ workerId
  freeScope : ∀ (token : ℕ) claim, inner.subordinateClaims[token]? = some claim →
    ∀ scope ∈ claim.paths, ∀ path ∈ paths, pathsOverlap scope path = false
  /-- No top-level claim is held under the Worker's id. -/
  noTop : ∀ (key : Path) entry, inner.claims[key]? = some entry → entry.agentId ≠ workerId

variable {inner : Inner}

/-- `validate_subordinate_scope` accepts exactly the scopes that fit. -/
theorem validateSubordinateScope_ok :
    validateSubordinateScope inner parent workerId paths = .ok done ↔
      SubordinateFits inner parent workerId paths := by
  simp only [validateSubordinateScope, ok_iff, not_or]
  constructor
  · rintro ⟨normalizedId, normalId, ⟨fixedId, notParent, _⟩, normalized, normal, fixed, inside,
      proper, freeSub, noTop⟩
    rw [not_not] at fixedId fixed
    subst fixedId fixed
    simp only [any_eq_true, Bool.not_eq_true', not_exists, not_and, Bool.not_eq_false,
      startsWith_iff] at inside
    simp only [all_eq_true, any_eq_true, startsWith_iff, not_forall, not_exists, not_and] at proper
    simp only [any_eq_true, Bool.or_eq_true, beq_iff_eq, not_exists, not_and, not_or,
      mem_values, Bool.not_eq_true] at freeSub
    simp only [any_eq_true, beq_iff_eq, mem_values, not_exists, not_and] at noTop
    obtain ⟨scope, member, uncovered⟩ := proper
    exact {
      worker := normalId
      notParent
      canonical := normalizeClaimPaths_canonical normal
      inside
      proper := ⟨scope, member, uncovered⟩
      freeWorker := fun token claim found => (freeSub claim ⟨token, found⟩).1
      freeScope := fun token claim found => (freeSub claim ⟨token, found⟩).2
      noTop := fun key entry found => noTop entry ⟨key, found⟩ }
  · intro fits
    refine ⟨workerId, fits.worker, ⟨fun differs => differs rfl, fits.notParent,
      fits.canonical.nonempty⟩, paths, normalizeClaimPaths_eq_self fits.canonical,
      fun differs => differs rfl, ?_, ?_, ?_, ?_⟩
    · simp only [any_eq_true, Bool.not_eq_true', not_exists, not_and, Bool.not_eq_false,
        startsWith_iff]
      exact fits.inside
    · simp only [all_eq_true, any_eq_true, startsWith_iff, not_forall, not_exists, not_and]
      obtain ⟨scope, member, uncovered⟩ := fits.proper
      exact ⟨scope, member, uncovered⟩
    · simp only [any_eq_true, Bool.or_eq_true, beq_iff_eq, not_exists, not_and, not_or,
        mem_values, Bool.not_eq_true]
      rintro claim ⟨token, found⟩
      exact ⟨fits.freeWorker token claim found, fits.freeScope token claim found⟩
    · simp only [any_eq_true, beq_iff_eq, mem_values, not_exists, not_and]
      rintro entry ⟨key, found⟩
      exact fits.noTop key entry found

/-- `claim_paths` leaves the state alone, or only spends a token, or enters the normalized claim
under the next token. -/
theorem claimPaths_cases (inner : Inner) (agentId : String) (paths : List Path) :
    (∃ refusal, claimPaths inner agentId paths = (.error refusal, inner)) ∨
    (∃ refusal, claimPaths inner agentId paths =
      (.error refusal, { inner with nextToken := inner.nextToken + 1 })) ∨
    ∃ agent scope claims, normalizeAgentId agentId = .ok agent ∧
      normalizeClaimPaths paths = .ok scope ∧ inner.nextToken + 1 < 2 ^ 64 ∧
      insertClaim inner.claims inner.nextToken agent scope = .ok claims ∧
      claimPaths inner agentId paths = (.ok ⟨inner.nextToken, agent, scope⟩,
        { inner with nextToken := inner.nextToken + 1, claims }) := by
  unfold claimPaths
  split
  · rename_i refusal _
    exact .inl ⟨refusal, rfl⟩
  · rename_i agent scope normal
    simp only [ok_iff, Prod.mk.injEq] at normal
    obtain ⟨_, agentNormal, _, scopeNormal, rfl, rfl⟩ := normal
    split
    · exact .inl ⟨.tokenExhausted, rfl⟩
    · rename_i next added
      obtain ⟨bound, rfl⟩ := checkedAddU64_eq_some.mp added
      split
      · rename_i refusal _
        exact .inr (.inl ⟨refusal, rfl⟩)
      · rename_i claims inserted
        exact .inr (.inr ⟨_, _, claims, agentNormal, scopeNormal, bound, inserted, rfl⟩)

/-- A property holds of the state an operation leaves when it holds of the present state and of what
a success leaves. -/
theorem stateAfter_rec {ε α : Type} {property : Inner → Prop} {outcome : Except ε (α × Inner)}
    (same : property inner)
    (success : ∀ result next, outcome = .ok (result, next) → property next) :
    property (stateAfter inner outcome) := by
  rcases outcome with refusal | ⟨result, next⟩
  · exact same
  · exact success result next rfl

/-- The state after a successful subordinate claim. -/
def Inner.withSubordinate (inner : Inner) (parentToken : ℕ) (workerId : String)
    (paths : List Path) (sourceDigest : String) : Inner :=
  { inner with
    nextToken := inner.nextToken + 1
    subordinateClaims := inner.subordinateClaims.insert inner.nextToken
      ⟨inner.nextToken, workerId, paths⟩
    subordinateBindings := inner.subordinateBindings ++
      [⟨inner.nextToken, parentToken, sourceDigest, workerId, paths⟩] }

variable {next : Inner}

/-- `claim_subordinate_paths` succeeds only for an active parent, a digest, a grant not made before
and a scope that fits, and enters the child under the next token. -/
theorem claimSubordinatePaths_ok
    (accepted : claimSubordinatePaths inner parent workerId paths sourceDigest =
      .ok (claim, next)) :
    claimForToken inner.claims parent.token = some parent ∧
      validSourceDigest sourceDigest = true ∧
      (∀ binding ∈ inner.subordinateBindings, binding.parentToken = parent.token →
        binding.sourceDigest = sourceDigest → binding.workerId ≠ workerId) ∧
      SubordinateFits inner parent workerId paths ∧ inner.nextToken + 1 < 2 ^ 64 ∧
      claim = ⟨inner.nextToken, workerId, paths⟩ ∧
      next = inner.withSubordinate parent.token workerId paths sourceDigest := by
  simp only [claimSubordinatePaths, ok_iff, not_or, not_not, Bool.not_eq_false,
    validateSubordinateScope_ok, checkedAddU64_eq_some, Prod.mk.injEq, any_eq_true,
    Bool.and_eq_true, beq_iff_eq, not_exists, not_and, and_imp] at accepted
  obtain ⟨active, _, -, ⟨rfl, digest⟩, unused, fits, _, ⟨bound, rfl⟩, rfl, rfl⟩ := accepted
  exact ⟨active, digest, unused, fits, bound, rfl, rfl⟩

/-- `release` succeeds only for a token with no active child, and drops the subordinate claim of
that token or else the top-level entries that carry it. -/
theorem release_ok (accepted : release inner token = .ok (released, next)) :
    (∀ binding ∈ inner.subordinateBindings, binding.parentToken = token →
      inner.subordinateClaims[binding.childToken]? = none) ∧
    ((inner.subordinateClaims[token]? = some released ∧
        next = { inner with subordinateClaims := inner.subordinateClaims.erase token }) ∨
      (inner.subordinateClaims[token]? = none ∧
        claimForToken inner.claims token = some released ∧
        next = { inner with claims := inner.claims.filter fun _ entry =>
          entry.token != token })) := by
  simp only [release, ok_iff, any_eq_true, Bool.and_eq_true, beq_iff_eq, not_exists, not_and,
    Bool.not_eq_true, not_contains_iff] at accepted
  obtain ⟨childless, outcome⟩ := accepted
  refine ⟨childless, ?_⟩
  cases found : inner.subordinateClaims[token]? with
  | some child =>
    simp only [found, pure_ok, Prod.mk.injEq] at outcome
    obtain ⟨rfl, rfl⟩ := outcome
    exact .inl ⟨rfl, rfl⟩
  | none =>
    simp only [found, ok_iff, Prod.mk.injEq] at outcome
    obtain ⟨_, active, rfl, rfl⟩ := outcome
    exact .inr ⟨rfl, active, rfl⟩

/-- `release_by_agent` succeeds only when none of the agent's claims has an active child, and drops
everything the agent holds. -/
theorem releaseByAgent_ok (accepted : releaseByAgent inner agentId = .ok (released, next)) :
    ∃ agent, normalizeAgentId agentId = .ok agent ∧
      (∀ binding ∈ inner.subordinateBindings, ∀ (key : Path) entry,
        inner.claims[key]? = some entry → entry.agentId = agent →
        entry.token = binding.parentToken → inner.subordinateClaims[binding.childToken]? = none) ∧
      next = { inner with
        claims := inner.claims.filter fun _ entry => entry.agentId != agent
        subordinateClaims := inner.subordinateClaims.filter fun _ claim =>
          claim.agentId != agent } := by
  simp only [releaseByAgent, ok_iff, Prod.mk.injEq, any_eq_true, Bool.and_eq_true,
    decide_eq_true_eq, not_exists, not_and, Bool.not_eq_true, not_contains_iff] at accepted
  obtain ⟨agent, normal, childless, _, rfl⟩ := accepted
  refine ⟨agent, normal, ?_, rfl⟩
  intro binding listed key entry found held parent
  refine childless binding listed ?_
  rw [← parent, mem_map]
  refine ⟨entry, ?_, rfl⟩
  rw [mem_filter, mem_values, beq_iff_eq]
  exact ⟨⟨key, found⟩, held⟩

/-- One claim of a snapshot is restored exactly when its token is new, its agent and paths
normalize, and none of its paths overlaps a restored one. -/
theorem restoreClaim_ok {restoring next : Restoring} :
    restoreClaim restoring claim = .ok next ↔
      claim.token ≠ 0 ∧ claim.token ∉ restoring.seenTokens ∧
      ∃ agent scope claims, normalizeAgentId claim.agentId = .ok agent ∧
        normalizeClaimPaths claim.paths = .ok scope ∧
        insertClaim restoring.claims claim.token agent scope = .ok claims ∧
        next = ⟨claims, restoring.seenTokens.insert claim.token,
          max restoring.maxToken claim.token⟩ := by
  simp only [restoreClaim, ok_iff]
  constructor
  · rintro ⟨nonzero, fresh, agent, agentNormal, scope, scopeNormal, claims, inserted, rfl⟩
    exact ⟨nonzero, fresh, agent, scope, claims, agentNormal, scopeNormal, inserted, rfl⟩
  · rintro ⟨nonzero, fresh, agent, scope, claims, agentNormal, scopeNormal, inserted, rfl⟩
    exact ⟨nonzero, fresh, agent, agentNormal, scope, scopeNormal, claims, inserted, rfl⟩

/-- One child of a snapshot is restored exactly when it matches its binding, its parent is active
and its scope fits. -/
theorem restoreChild_ok :
    restoreChild bindings inner child = .ok next ↔
      ∃ binding parent, bindings.find? (fun binding => binding.childToken == child.token) =
          some binding ∧
        claimForToken inner.claims binding.parentToken = some parent ∧
        SubordinateFits inner parent child.agentId child.paths ∧
        child.agentId = binding.workerId ∧ child.paths = binding.paths ∧
        inner.subordinateClaims[child.token]? = none ∧
        next = { inner with
          subordinateClaims := inner.subordinateClaims.insert child.token child } := by
  simp only [restoreChild, ok_iff, not_or, not_not, validateSubordinateScope_ok, Bool.not_eq_true,
    not_contains_iff]
  constructor
  · rintro ⟨binding, bound, parent, active, fits, ⟨worker, scope⟩, _, _, ⟨_, fresh⟩, rfl⟩
    exact ⟨binding, parent, bound, active, fits, worker, scope, fresh, rfl⟩
  · rintro ⟨binding, parent, bound, active, fits, worker, scope, fresh, rfl⟩
    exact ⟨binding, bound, parent, active, fits, ⟨worker, scope⟩, child.paths,
      normalizeClaimPaths_eq_self fits.canonical, ⟨rfl, fresh⟩, rfl⟩

end Maco.Sync
