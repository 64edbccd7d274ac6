import Maco.Sync.Consistency

/-!
# The snapshot round trip

What a snapshot lists, and when restoring it together with the retained grants gives the
coordinator back. Restoring repeats every check a subordinate claim passed when it was granted,
among them that its Worker holds no top-level claim; a live coordinator does not keep that
condition, and it is exactly what decides whether its snapshot can be read again.
-/

namespace Maco.Sync

open Maco.Base BTreeMap List

/-- No active Worker holds a top-level claim. -/
def WorkersHoldNoTop (inner : Inner) : Prop :=
  ∀ (token : ℕ) child (key : Path) entry, inner.subordinateClaims[token]? = some child →
    inner.claims[key]? = some entry → entry.agentId ≠ child.agentId

variable {nextToken : ℕ} {seen : SeenBindings}

/-- One retained grant passes exactly when it is well formed and neither its child token nor its
source was seen before. -/
theorem checkBinding_ok {next : SeenBindings} {binding : SubordinateClaimBinding} :
    checkBinding nextToken seen binding = .ok next ↔
      BindingWellFormed nextToken binding ∧ binding.childToken ∉ seen.childTokens ∧
        bindingSource binding ∉ seen.sources ∧
        next = ⟨seen.childTokens.insert binding.childToken,
          seen.sources.insert (bindingSource binding)⟩ := by
  simp only [checkBinding, ok_iff, not_or, not_not, not_le, Bool.not_eq_false]
  constructor
  · rintro ⟨⟨child, parent, different, childBelow, parentBelow, newChild, newSource⟩, _, worker,
      rfl, _, paths, ⟨rfl, digest⟩, rfl⟩
    exact ⟨⟨Nat.one_le_iff_ne_zero.mpr child, Nat.one_le_iff_ne_zero.mpr parent, different,
      childBelow, parentBelow, worker, normalizeClaimPaths_canonical paths, digest⟩,
      newChild, newSource, rfl⟩
  · rintro ⟨form, newChild, newSource, rfl⟩
    exact ⟨⟨Nat.one_le_iff_ne_zero.mp form.childPositive,
      Nat.one_le_iff_ne_zero.mp form.parentPositive, form.different, form.childBelow,
      form.parentBelow, newChild, newSource⟩, _, form.worker, rfl, _,
      normalizeClaimPaths_eq_self form.canonical, ⟨rfl, form.digest⟩, rfl⟩

/-- What a pass over the retained grants has recorded. -/
structure SeenAll (nextToken : ℕ) (bindings : List SubordinateClaimBinding)
    (seen : SeenBindings) : Prop where
  forms : ∀ binding ∈ bindings, BindingWellFormed nextToken binding
  childDistinct : (bindings.map SubordinateClaimBinding.childToken).Nodup
  sourceDistinct : (bindings.map bindingSource).Nodup
  childTokens : ∀ token, token ∈ seen.childTokens ↔
    token ∈ bindings.map SubordinateClaimBinding.childToken
  sources : ∀ source, source ∈ seen.sources ↔ source ∈ bindings.map bindingSource

variable {bindings : List SubordinateClaimBinding}

/-- One more grant that passes extends what was recorded. -/
theorem SeenAll.push (recorded : SeenAll nextToken bindings seen)
    (form : BindingWellFormed nextToken binding) (newChild : binding.childToken ∉ seen.childTokens)
    (newSource : bindingSource binding ∉ seen.sources) :
    SeenAll nextToken (bindings ++ [binding])
      ⟨seen.childTokens.insert binding.childToken,
        seen.sources.insert (bindingSource binding)⟩ := by
  obtain ⟨childDistinct, childTokens⟩ :=
    BTreeSet.insert_collects ⟨recorded.childDistinct, recorded.childTokens⟩ newChild
  obtain ⟨sourceDistinct, sources⟩ :=
    BTreeSet.insert_collects ⟨recorded.sourceDistinct, recorded.sources⟩ newSource
  exact ⟨forall_mem_concat recorded.forms form, childDistinct, sourceDistinct, childTokens, sources⟩

/-- A successful pass over the retained grants has recorded all of them. -/
theorem checkBindings_sound (checked : bindings.foldlM (checkBinding nextToken) ⟨∅, ∅⟩ = .ok seen) :
    SeenAll nextToken bindings seen := by
  refine foldlM_invariant (SeenAll nextToken) ?_ ?_ checked
  · intro done binding seen next recorded stepped
    obtain ⟨form, newChild, newSource, rfl⟩ := checkBinding_ok.mp stepped
    exact recorded.push form newChild newSource
  · constructor <;> simp

/-- The pass over well-formed, distinct grants succeeds. -/
theorem checkBindings_complete (forms : ∀ binding ∈ bindings, BindingWellFormed nextToken binding)
    (childDistinct : (bindings.map SubordinateClaimBinding.childToken).Nodup)
    (sourceDistinct : (bindings.map bindingSource).Nodup) :
    ∃ seen, bindings.foldlM (checkBinding nextToken) ⟨∅, ∅⟩ = .ok seen ∧
      SeenAll nextToken bindings seen := by
  refine foldlM_succeeds (SeenAll nextToken) ?_ (by constructor <;> simp)
  intro done binding rest seen split recorded
  have form := forms binding (by simp [split])
  have newChild := mt (recorded.childTokens _).mp (not_mem_map_of_split childDistinct split)
  have newSource := mt (recorded.sources _).mp (not_mem_map_of_split sourceDistinct split)
  exact ⟨_, checkBinding_ok.mpr ⟨form, newChild, newSource, rfl⟩,
    recorded.push form newChild newSource⟩

variable {inner : Inner}

/-- A consistent coordinator lists its subordinate claims and the claims of its top-level tokens,
each under its own token. -/
theorem mem_allClaims (consistent : Consistent inner) :
    claim ∈ allClaims inner ↔ inner.subordinateClaims[claim.token]? = some claim ∨
      claimForToken inner.claims claim.token = some claim := by
  rw [allClaims, mem_values]
  simp only [get_extend, Option.or_eq_some_iff]
  constructor
  · rintro ⟨token, child | ⟨_, grouped⟩⟩
    · rw [consistent.childToken token claim child]
      exact .inl child
    · rw [(claimForToken_some grouped).1]
      exact .inr grouped
  · rintro (child | grouped)
    · exact ⟨claim.token, .inl child⟩
    · refine ⟨claim.token, .inr ⟨?_, grouped⟩⟩
      -- A token with a top-level entry has no child: every child has a grant of its own token.
      obtain ⟨_, _, _, _, key, entry, found, carries, _⟩ := claimForToken_some grouped
      cases occupied : inner.subordinateClaims[claim.token]? with
      | none => rfl
      | some child =>
        obtain ⟨binding, listed, bound⟩ := consistent.childBound claim.token child occupied
        have different := consistent.topNotChild key entry found binding listed
        rw [bound.token, consistent.childToken claim.token child occupied, carries] at different
        exact absurd rfl different

variable {token : ℕ}

section

variable (consistent : Consistent inner)

include consistent

/-- A token is listed when a child or a top-level entry carries it. -/
theorem mem_tokens :
    token ∈ (allClaims inner).map PathClaim.token ↔
      (∃ child, inner.subordinateClaims[token]? = some child) ∨
        ∃ (key : Path) (entry : ClaimEntry), inner.claims[key]? = some entry ∧
          entry.token = token := by
  simp only [mem_map]
  constructor
  · rintro ⟨claim, member, rfl⟩
    obtain child | grouped := (mem_allClaims consistent).mp member
    · exact .inl ⟨claim, child⟩
    · obtain ⟨-, -, -, -, key, entry, found, carries, -⟩ := claimForToken_some grouped
      exact .inr ⟨key, entry, found, carries⟩
  · rintro (⟨child, stored⟩ | ⟨key, entry, found, rfl⟩)
    · have same := consistent.childToken token child stored
      refine ⟨child, (mem_allClaims consistent).mpr (.inl ?_), same⟩
      rw [same]
      exact stored
    · obtain ⟨claim, grouped⟩ := exists_claimForToken found
      have same := (claimForToken_some grouped).1
      refine ⟨claim, (mem_allClaims consistent).mpr (.inr ?_), same⟩
      rw [same]
      exact grouped

/-- A consistent coordinator lists each token once. -/
theorem allClaims_tokens_nodup : ((allClaims inner).map PathClaim.token).Nodup := by
  refine nodup_key_values fun token claim listed => ?_
  rw [get_extend, Option.or_eq_some_iff] at listed
  rcases listed with child | ⟨_, grouped⟩
  · exact consistent.childToken token claim child
  · exact (claimForToken_some grouped).1

/-- The claim of a token of a consistent coordinator is canonical and in normal form, and each of
its paths carries the claim's token and agent. -/
theorem Consistent.claim
    {claim : PathClaim} (grouped : claimForToken inner.claims token = some claim) :
    1 ≤ token ∧ token < inner.nextToken ∧
      normalizeAgentId claim.agentId = .ok claim.agentId ∧ CanonicalScope claim.paths ∧
      ∀ key : Path, key ∈ claim.paths ↔ inner.claims[key]? = some ⟨token, claim.agentId⟩ := by
  obtain ⟨_, nonempty, sorted, paths, key, entry, found, carries, agent⟩ :=
    claimForToken_some grouped
  have form := consistent.entries key entry found
  have carried : ∀ key : Path, key ∈ claim.paths ↔
      inner.claims[key]? = some ⟨token, claim.agentId⟩ := by
    intro path
    rw [paths]
    constructor
    · rintro ⟨other, otherFound, otherCarries⟩
      have same := consistent.tokenAgent path key other entry otherFound found
        (otherCarries.trans carries.symm)
      rw [otherFound, ← otherCarries, ← agent, ← same]
    · intro stored
      exact ⟨_, stored, rfl⟩
  refine ⟨carries ▸ form.positive, carries ▸ form.below, agent ▸ form.agent, ?_, carried⟩
  refine ⟨nonempty, fun path member => ?_, sorted, ?_⟩
  · exact (consistent.entries path _ ((carried path).mp member)).repo
  · refine sorted.imp_of_mem fun {a b} first second less => ?_
    rw [Bool.eq_false_iff]
    exact consistent.top a _ b _ ((carried a).mp first) ((carried b).mp second) less.ne

/-- The claims restored so far are the coordinator's entries with the tokens read so far. -/
structure RestoredSoFar (inner : Inner) (read : List PathClaim) (restoring : Restoring) : Prop where
  claims : ∀ (key : Path) entry, restoring.claims[key]? = some entry ↔
    inner.claims[key]? = some entry ∧ entry.token ∈ read.map PathClaim.token
  seen : ∀ token, token ∈ restoring.seenTokens ↔ token ∈ read.map PathClaim.token
  below : restoring.maxToken < inner.nextToken

/-- Restoring the top-level claims of a consistent coordinator gives back its table and its next
token. -/
theorem fromSnapshot_top
    (grouped : ∀ claim ∈ listed, claimForToken inner.claims claim.token = some claim)
    (distinct : (listed.map PathClaim.token).Nodup)
    (complete : ∀ (key : Path) entry, inner.claims[key]? = some entry →
      entry.token ∈ listed.map PathClaim.token) :
    fromSnapshot ⟨inner.nextToken, listed⟩ =
      .ok { Inner.default with nextToken := inner.nextToken, claims := inner.claims } := by
  have restored : ∃ restoring, listed.foldlM restoreClaim ⟨∅, ∅, 0⟩ = .ok restoring ∧
      RestoredSoFar inner listed restoring := by
    refine foldlM_succeeds (RestoredSoFar inner) ?_ ⟨by simp, by simp, consistent.positive⟩
    intro read claim rest restoring split sofar
    obtain ⟨positive, below, agent, canonical, carried⟩ :=
      consistent.claim (grouped claim (by simp [split]))
    have new := not_mem_map_of_split distinct split
    have clear : ∀ path ∈ claim.paths, ∀ (key : Path) entry,
        restoring.claims[key]? = some entry → pathsOverlap key path = false := by
      intro path member key entry stored
      obtain ⟨found, earlier⟩ := (sofar.claims key entry).mp stored
      have different : key ≠ path := by
        rintro rfl
        rw [(carried key).mp member, Option.some.injEq] at found
        rw [← found] at earlier
        exact new earlier
      rw [Bool.eq_false_iff]
      exact consistent.top key entry path _ found ((carried path).mp member) different
    refine ⟨_, restoreClaim_ok.mpr ⟨Nat.one_le_iff_ne_zero.mp positive,
      fun seen => new ((sofar.seen _).mp seen), claim.agentId, claim.paths, _, agent,
      normalizeClaimPaths_eq_self canonical,
      insertClaim_ok.mpr ⟨clear, get_foldl_insert _ _ _⟩, rfl⟩, ?_, ?_, ?_⟩
    · intro key entry
      rw [get_foldl_insert, map_append, map_singleton, mem_append, mem_singleton]
      split
      · rename_i member
        rw [(carried key).mp member, Option.some.injEq]
        constructor
        · rintro rfl
          exact ⟨rfl, .inr rfl⟩
        · exact fun stored => stored.1
      · rename_i other
        rw [sofar.claims]
        constructor
        · exact fun ⟨found, earlier⟩ => ⟨found, .inl earlier⟩
        · rintro ⟨found, earlier | here⟩
          · exact ⟨found, earlier⟩
          · obtain ⟨_, _, _, paths, _⟩ := claimForToken_some (grouped claim (by simp [split]))
            exact absurd ((paths key).mpr ⟨entry, found, here⟩) other
    · intro token
      rw [BTreeSet.mem_insert, sofar.seen, map_append, map_singleton, mem_append,
        mem_singleton, or_comm, eq_comm]
    · exact max_lt sofar.below below
  obtain ⟨restoring, folded, sofar⟩ := restored
  have table : restoring.claims = inner.claims := by
    apply BTreeMap.ext_get
    intro key
    apply Option.ext
    intro entry
    rw [sofar.claims]
    exact ⟨fun stored => stored.1, fun found => ⟨found, complete key entry found⟩⟩
  have next : max (max inner.nextToken (saturatingAddU64 restoring.maxToken 1)) 1 =
      inner.nextToken := by
    have below := sofar.below
    have positive := consistent.positive
    unfold saturatingAddU64
    omega
  simp only [fromSnapshot, folded, ok_bind, next, table]
  rfl

/-- Every active child's token is recorded by a grant. -/
theorem Consistent.child_listed (found : inner.subordinateClaims[token]? = some child) :
    token ∈ inner.subordinateBindings.map SubordinateClaimBinding.childToken := by
  obtain ⟨binding, listed, bound⟩ := consistent.childBound token child found
  rw [← consistent.childToken token child found, ← bound.token]
  exact mem_map_of_mem listed

/-- No top-level claim's token is recorded as a child. -/
theorem Consistent.top_unlisted
    {claim : PathClaim} (grouped : claimForToken inner.claims token = some claim) :
    token ∉ inner.subordinateBindings.map SubordinateClaimBinding.childToken := by
  obtain ⟨_, _, _, _, key, entry, found, carries, _⟩ := claimForToken_some grouped
  intro listed
  obtain ⟨binding, member, same⟩ := mem_map.mp listed
  exact consistent.topNotChild key entry found binding member (same.trans carries.symm)

/-- The children restored so far are the coordinator's children among those read so far. -/
structure AttachedSoFar (inner : Inner) (read : List PathClaim) (state : Inner) : Prop where
  rest : state = { Inner.default with
    nextToken := inner.nextToken, claims := inner.claims
    subordinateClaims := state.subordinateClaims }
  children : ∀ (token : ℕ) child, state.subordinateClaims[token]? = some child ↔
    inner.subordinateClaims[token]? = some child ∧ child ∈ read

/-- Restoring the children of a consistent coordinator over its top-level claims succeeds when no
Worker holds a top-level claim, and gives the children back. -/
theorem restoreChildren_complete (noTop : WorkersHoldNoTop inner) {children : List PathClaim}
    (stored : ∀ child ∈ children, inner.subordinateClaims[child.token]? = some child)
    (distinct : (children.map PathClaim.token).Nodup)
    (complete : ∀ (token : ℕ) child, inner.subordinateClaims[token]? = some child →
      child ∈ children) :
    children.foldlM (restoreChild inner.subordinateBindings)
        { Inner.default with nextToken := inner.nextToken, claims := inner.claims } =
      .ok { inner with subordinateBindings := [] } := by
  have attached : ∃ state, children.foldlM (restoreChild inner.subordinateBindings)
      { Inner.default with nextToken := inner.nextToken, claims := inner.claims } = .ok state ∧
      AttachedSoFar inner children state := by
    refine foldlM_succeeds (AttachedSoFar inner) ?_ ⟨rfl, by simp [Inner.default]⟩
    intro read child rest state split sofar
    have found := stored child (by simp [split])
    have new : child ∉ read := mt mem_map_of_mem (not_mem_map_of_split distinct split)
    obtain ⟨binding, listed, bound⟩ := consistent.childBound child.token child found
    obtain ⟨parent, active, carved⟩ := bound.parent
    have form := consistent.bindings binding listed
    have lookup : inner.subordinateBindings.find? (fun other => other.childToken == child.token) =
        some binding := by
      rw [← bound.token]
      exact find?_key_eq_some consistent.childDistinct listed
    have claims : state.claims = inner.claims := by rw [sofar.rest]
    have apart : ∀ (token : ℕ) other, state.subordinateClaims[token]? = some other →
        inner.subordinateClaims[token]? = some other ∧ token ≠ child.token := by
      intro token other occupied
      obtain ⟨otherFound, earlier⟩ := (sofar.children token other).mp occupied
      refine ⟨otherFound, ?_⟩
      rintro rfl
      rw [found, Option.some.injEq] at otherFound
      exact new (otherFound ▸ earlier)
    have fits : SubordinateFits state parent child.agentId child.paths := {
      carved with
      worker := bound.worker ▸ form.worker
      canonical := bound.paths ▸ form.canonical
      freeWorker := by
        intro token other occupied
        obtain ⟨otherFound, different⟩ := apart token other occupied
        exact consistent.workersApart token child.token other child otherFound found different
      freeScope := by
        intro token other occupied scope held path requested
        obtain ⟨otherFound, different⟩ := apart token other occupied
        rw [Bool.eq_false_iff]
        exact fun overlap => consistent.subordinate token other child.token child otherFound found
          different ⟨scope, held, path, requested, overlap⟩
      noTop := by
        intro key entry occupied
        rw [claims] at occupied
        exact noTop child.token child key entry found occupied }
    have fresh : state.subordinateClaims[child.token]? = none :=
      Option.eq_none_iff_forall_ne_some.mpr fun other occupied => (apart _ other occupied).2 rfl
    refine ⟨_, restoreChild_ok.mpr ⟨binding, parent, lookup, claims ▸ active, fits,
      bound.worker.symm, bound.paths.symm, fresh, rfl⟩, ?_, ?_⟩
    · rw [sofar.rest]
    · intro token other
      rw [get_insert_fresh fresh, sofar.children, mem_append, mem_singleton,
        Prod.mk.injEq, and_or_left]
      refine or_congr_right ⟨?_, ?_⟩
      · rintro ⟨rfl, rfl⟩
        exact ⟨found, rfl⟩
      · rintro ⟨otherFound, rfl⟩
        exact ⟨(consistent.childToken token other otherFound).symm, rfl⟩
  obtain ⟨state, folded, sofar⟩ := attached
  have children : state.subordinateClaims = inner.subordinateClaims := by
    apply BTreeMap.ext_get
    intro token
    apply Option.ext
    intro child
    rw [sofar.children]
    exact ⟨fun both => both.1, fun found => ⟨found, complete token child found⟩⟩
  rw [folded, sofar.rest, children]
  rfl

end

/-- Children restored over a coordinator's top-level claims belong to Workers that hold none of
them. -/
theorem restoreChildren_sound {children : List PathClaim}
    {start finish : Inner} (folded : children.foldlM (restoreChild bindings) start = .ok finish) :
    finish.claims = start.claims ∧ ∀ child ∈ children, ∀ (key : Path) entry,
      start.claims[key]? = some entry → entry.agentId ≠ child.agentId := by
  refine foldlM_invariant (fun read state => state.claims = start.claims ∧
    ∀ child ∈ read, ∀ (key : Path) entry, start.claims[key]? = some entry →
      entry.agentId ≠ child.agentId) ?_ ⟨rfl, by simp⟩ folded
  intro read child state next sofar stepped
  obtain ⟨_, parent, _, _, fits, _, _, _, rfl⟩ := restoreChild_ok.mp stepped
  refine ⟨sofar.1, fun other listed key entry found => ?_⟩
  rcases mem_append.mp listed with earlier | here
  · exact sofar.2 other earlier key entry found
  · rw [mem_singleton.mp here]
    exact fits.noTop key entry (sofar.1 ▸ found)

/-- The snapshot of a consistent coordinator is restored exactly when no active Worker holds a
top-level claim, and then gives the coordinator back. -/
theorem restore_toSnapshot_iff {restored : Inner} (consistent : Consistent inner) :
    fromSnapshotWithSubordinates (toSnapshot inner) inner.subordinateBindings = .ok restored ↔
      WorkersHoldNoTop inner ∧ restored = inner := by
  obtain ⟨seen, checked, recorded⟩ := checkBindings_complete consistent.bindings
    consistent.childDistinct consistent.sourceDistinct
  have isChild : ∀ claim : PathClaim, decide (claim.token ∈ seen.childTokens) = true ↔
      claim.token ∈ inner.subordinateBindings.map SubordinateClaimBinding.childToken := by
    intro claim
    rw [decide_eq_true_eq, recorded.childTokens]
  have tops : fromSnapshot ⟨inner.nextToken, (allClaims inner).filter fun claim =>
      !decide (claim.token ∈ seen.childTokens)⟩ =
      .ok { Inner.default with nextToken := inner.nextToken, claims := inner.claims } := by
    refine fromSnapshot_top consistent ?_ ?_ ?_
    · intro claim member
      obtain ⟨listed, top⟩ := mem_filter.mp member
      rcases (mem_allClaims consistent).mp listed with child | grouped
      · rw [(isChild claim).mpr (consistent.child_listed child)] at top
        cases top
      · exact grouped
    · exact (allClaims_tokens_nodup consistent).sublist (filter_sublist.map _)
    · intro key entry found
      obtain ⟨claim, grouped⟩ := exists_claimForToken found
      have token := (claimForToken_some grouped).1
      rw [← token] at grouped ⊢
      refine mem_map_of_mem (mem_filter.mpr
        ⟨(mem_allClaims consistent).mpr (.inr grouped), ?_⟩)
      rw [Bool.not_eq_true', ← Bool.not_eq_true, isChild]
      exact consistent.top_unlisted grouped
  have children : ∀ child, child ∈ (allClaims inner).filter
      (fun claim => decide (claim.token ∈ seen.childTokens)) ↔
      inner.subordinateClaims[child.token]? = some child := by
    intro child
    rw [mem_filter, isChild, mem_allClaims consistent]
    constructor
    · rintro ⟨stored | grouped, listed⟩
      · exact stored
      · exact absurd listed (consistent.top_unlisted grouped)
    · exact fun stored => ⟨.inl stored, consistent.child_listed stored⟩
  have attached (noTop : WorkersHoldNoTop inner) : ((allClaims inner).filter fun claim =>
      decide (claim.token ∈ seen.childTokens)).foldlM (restoreChild inner.subordinateBindings)
      { Inner.default with nextToken := inner.nextToken, claims := inner.claims } =
      .ok { inner with subordinateBindings := [] } := by
    refine restoreChildren_complete consistent noTop
      (fun child member => (children child).mp member)
      ((allClaims_tokens_nodup consistent).sublist (filter_sublist.map _)) ?_
    intro token child stored
    rw [← consistent.childToken token child stored] at stored
    exact (children child).mpr stored
  simp only [fromSnapshotWithSubordinates, toSnapshot, checked, ok_bind, tops, ok_iff]
  constructor
  · rintro ⟨state, folded, rfl⟩
    have noTop : WorkersHoldNoTop inner := by
      intro token child key entry stored found
      rw [← consistent.childToken token child stored] at stored
      exact (restoreChildren_sound folded).2 child ((children child).mpr stored) key entry found
    rw [attached noTop, Except.ok.injEq] at folded
    rw [← folded]
    exact ⟨noTop, rfl⟩
  · rintro ⟨noTop, rfl⟩
    exact ⟨_, attached noTop, rfl⟩

/-- Restoring a coordinator's snapshot and grants succeeds and answers as the coordinator does. -/
def RoundTrips (inner : Inner) : Prop :=
  ∃ restored,
    fromSnapshotWithSubordinates (toSnapshot inner) inner.subordinateBindings = .ok restored ∧
    restored.nextToken = inner.nextToken ∧ allClaims restored = allClaims inner ∧
    restored.subordinateBindings = inner.subordinateBindings ∧
    (∀ path, ownerOf restored path = ownerOf inner path) ∧
    ∀ agentId path, canWrite restored agentId path = canWrite inner agentId path

/-- A claim is not made under the id of an active Worker. -/
def AvoidsWorkers (inner : Inner) : Operation → Prop
  | .claimPaths agentId _ => ∀ (token : ℕ) child, inner.subordinateClaims[token]? = some child →
      normalizeAgentId agentId ≠ .ok child.agentId
  | _ => True

/-- An operation that avoids active Workers keeps them free of top-level claims. -/
theorem step_workersHoldNoTop (noTop : WorkersHoldNoTop inner)
    (operation : Operation) (avoids : AvoidsWorkers inner operation) :
    WorkersHoldNoTop (step inner operation) := by
  cases operation with
  | claimPaths agentId paths =>
    rcases claimPaths_cases inner agentId paths with
      ⟨_, same⟩ | ⟨_, spent⟩ | ⟨agent, scope, claims, normal, _, _, inserted, entered⟩
    · rwa [step, same]
    · rwa [step, spent]
    · rw [step, entered]
      intro token child key entry stored found
      rcases (insertClaim_entry inserted).mp found with ⟨-, rfl⟩ | old
      · exact fun same => avoids token child stored (normal.trans (congrArg _ same))
      · exact noTop token child key entry stored old
  | claimSubordinatePaths parent workerId paths sourceDigest =>
    refine stateAfter_rec noTop fun claim next accepted => ?_
    obtain ⟨_, _, _, fits, _, rfl, rfl⟩ := claimSubordinatePaths_ok accepted
    intro token child key entry stored found
    rcases get_insert_cases stored with ⟨-, rfl⟩ | ⟨-, old⟩
    · exact fits.noTop key entry found
    · exact noTop token child key entry old found
  | release token =>
    refine stateAfter_rec noTop fun claim next accepted => ?_
    obtain ⟨_, ⟨_, rfl⟩ | ⟨_, _, rfl⟩⟩ := release_ok accepted
    · intro other child key entry stored found
      exact noTop other child key entry (get_erase_some stored).2 found
    · intro other child key entry stored found
      exact noTop other child key entry stored (get_filter_some found).1
  | releaseByAgent agentId =>
    refine stateAfter_rec noTop fun claims next accepted => ?_
    obtain ⟨agent, _, _, rfl⟩ := releaseByAgent_ok accepted
    intro other child key entry stored found
    exact noTop other child key entry (get_filter_some stored).1
      (get_filter_some found).1

/-- Every operation of a sequence avoids the Workers active when it is made. -/
def AllAvoidWorkers : Inner → List Operation → Prop
  | _, [] => True
  | inner, operation :: rest =>
    AvoidsWorkers inner operation ∧ AllAvoidWorkers (step inner operation) rest

/-- A sequence of operations that avoid active Workers keeps them free of top-level claims. -/
theorem operate_workersHoldNoTop (noTop : WorkersHoldNoTop inner)
    (avoid : AllAvoidWorkers inner operations) : WorkersHoldNoTop (operate inner operations) := by
  induction operations generalizing inner with
  | nil => exact noTop
  | cons operation rest ih => exact ih (step_workersHoldNoTop noTop operation avoid.1) avoid.2

/-- A run that avoids active Workers does so from every state on its way. -/
theorem AllAvoidWorkers.of_append
    (avoid : AllAvoidWorkers inner (first ++ rest)) : AllAvoidWorkers inner first := by
  induction first generalizing inner with
  | nil => trivial
  | cons operation first ih => exact ⟨avoid.1, ih avoid.2⟩

/-- Every state of a run that never claims under the id of an active Worker round trips; and a
reachable coordinator round trips exactly when no active Worker holds a top-level claim. -/
theorem operate_roundTrips (operations : List Operation) :
    (AllAvoidWorkers Inner.default operations → ∀ done, done <+: operations →
      RoundTrips (operate Inner.default done)) ∧
    (RoundTrips (operate Inner.default operations) ↔
      WorkersHoldNoTop (operate Inner.default operations)) := by
  have exactly : ∀ done : List Operation, RoundTrips (operate Inner.default done) ↔
      WorkersHoldNoTop (operate Inner.default done) := by
    intro done
    have consistent := operate_consistent Consistent.default done
    constructor
    · rintro ⟨restored, accepted, _⟩
      exact ((restore_toSnapshot_iff consistent).mp accepted).1
    · intro noTop
      exact ⟨_, (restore_toSnapshot_iff consistent).mpr ⟨noTop, rfl⟩, rfl, rfl, rfl,
        fun _ => rfl, fun _ _ => rfl⟩
  have initial : WorkersHoldNoTop Inner.default := by
    intro token child key entry stored
    simp [Inner.default] at stored
  refine ⟨?_, exactly operations⟩
  rintro avoid done ⟨rest, rfl⟩
  exact (exactly done).mpr (operate_workersHoldNoTop initial avoid.of_append)

/-- A parent grants `src/a` to a Worker, and the snapshot is read back. -/
theorem operate_roundTrips_granted : RoundTrips (operate Inner.default grantedWorker) := by
  refine (operate_roundTrips grantedWorker).1 ⟨?_, trivial, trivial⟩ grantedWorker prefix_rfl
  intro token child stored
  simp [Inner.default] at stored

/-- The granted Worker also claims `docs` at top level. -/
def workerClaims : Inner :=
  operate Inner.default (grantedWorker ++ [.claimPaths "worker" [[.normal "docs"]]])

/-- After a parent granted a scope to a Worker, a top-level claim under the Worker's id leaves a
snapshot that cannot be read back. -/
theorem not_roundTrips_workerClaims :
    fromSnapshotWithSubordinates (toSnapshot workerClaims) workerClaims.subordinateBindings =
      .error .invalidSubordinateClaim ∧ ¬ RoundTrips workerClaims := by
  have refused : fromSnapshotWithSubordinates (toSnapshot workerClaims)
      workerClaims.subordinateBindings = .error .invalidSubordinateClaim := by
    rfl
  refine ⟨refused, ?_⟩
  rintro ⟨restored, accepted, _⟩
  rw [refused] at accepted
  cases accepted

end Maco.Sync
