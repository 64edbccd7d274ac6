import Maco.Sync.Restore
import Maco.SyncStore.Update

/-!
# Reopening the claims store

When the snapshot an update commits can be opened again. The checks before the commit cover the
claims, their owners and their liveness; what only the opener checks is that the coordinator can
be rebuilt from the claims and the retained grants. Two of its conditions are not kept by the
updates: a Worker's id may be used for a top-level claim, and the retained grants may name more
paths than the opener accepts.
-/

namespace Maco.SyncStore

open Maco.Base Maco.Sync Maco.Publication List

variable {ρ α : Type}

/-- What a pass over the listed claims of a snapshot has checked. -/
structure Tallied (read : List PathClaim) (tally : SnapshotTally) : Prop where
  agents : ∀ claim ∈ read, byteLength claim.agentId ≤ maxAgentIdBytes
  paths : ∀ claim ∈ read, ∀ path ∈ claim.paths, validateStatePath path = .ok ()
  tokens : ∀ claim ∈ read, claim.token ≤ tally.maxToken

/-- A snapshot that passes has bounded agents and paths, and tokens below its next token. -/
theorem validateSyncSnapshot_ok (valid : validateSyncSnapshot snapshot = .ok done) :
    1 ≤ snapshot.nextToken ∧ ∀ claim ∈ snapshot.claims,
      byteLength claim.agentId ≤ maxAgentIdBytes ∧
      (∀ path ∈ claim.paths, validateStatePath path = .ok ()) ∧
      claim.token < snapshot.nextToken := by
  simp only [validateSyncSnapshot, ok_iff, not_le] at valid
  obtain ⟨nonzero, _, tally, folded, larger⟩ := valid
  have tallied : Tallied snapshot.claims tally := by
    refine foldlM_invariant Tallied ?_ ⟨by simp, by simp, by simp⟩ folded
    intro read claim tally next tallied stepped
    simp only [tallyClaim, ok_iff, forM_ok, not_lt] at stepped
    obtain ⟨agent, _, _, _, paths, rfl⟩ := stepped
    refine ⟨forall_mem_concat tallied.agents agent, forall_mem_concat tallied.paths paths,
      forall_mem_concat ?_ (le_max_right _ _)⟩
    exact fun other listed => (tallied.tokens other listed).trans (le_max_left _ _)
  exact ⟨Nat.one_le_iff_ne_zero.mpr nonzero, fun claim listed =>
    ⟨tallied.agents claim listed, tallied.paths claim listed,
      (tallied.tokens claim listed).trans_lt larger⟩⟩

/-- The retained paths over a whole history of grants. -/
def reservedPaths (bindings : List SubordinateClaimBinding) : ℕ :=
  (bindings.map fun binding => binding.paths.length).sum

/-- What the opener requires of one retained grant. -/
structure ReservationFits (value : ClaimsState ρ) (binding : SubordinateClaimBinding) : Prop where
  worker : byteLength binding.workerId ≤ maxAgentIdBytes
  paths : ∀ path ∈ binding.paths, validateStatePath path = .ok ()
  owners : (∃ claim ∈ value.claims, claim.token = binding.childToken) →
    ∃ parent child, value.runOwners.find? (fun owner => owner.token == binding.parentToken) =
        some parent ∧
      value.runOwners.find? (fun owner => owner.token == binding.childToken) = some child ∧
      child.runId = parent.runId ∧ child.process = parent.process

variable {value : ClaimsState ρ} {binding : SubordinateClaimBinding}

/-- The owner check passes exactly when an active child has the run and process of its parent. -/
theorem checkReservationOwners_ok : checkReservationOwners value binding = .ok done ↔
      ((∃ claim ∈ value.claims, claim.token = binding.childToken) →
        ∃ parent child, value.runOwners.find? (fun owner => owner.token == binding.parentToken) =
            some parent ∧
          value.runOwners.find? (fun owner => owner.token == binding.childToken) = some child ∧
          child.runId = parent.runId ∧ child.process = parent.process) := by
  have active : (value.claims.any fun claim => claim.token == binding.childToken) = true ↔
      ∃ claim ∈ value.claims, claim.token = binding.childToken := by
    simp only [any_eq_true, beq_iff_eq]
  unfold checkReservationOwners
  by_cases occupied : ∃ claim ∈ value.claims, claim.token = binding.childToken
  · rw [if_pos (active.mpr occupied)]
    simp only [ok_iff, not_or, not_not, occupied, forall_const]
    constructor
    · rintro ⟨parent, parentFound, child, childFound, same⟩
      exact ⟨parent, child, parentFound, childFound, same⟩
    · rintro ⟨parent, child, parentFound, childFound, same⟩
      exact ⟨parent, parentFound, child, childFound, same⟩
  · rw [if_neg (mt active.mp occupied)]
    exact ⟨fun _ found => absurd found occupied, fun _ => rfl⟩

/-- One retained grant passes exactly when it fits and the paths counted so far stay in bounds. -/
theorem checkReservation_ok {start next : ℕ} :
    checkReservation value start binding = .ok next ↔ ReservationFits value binding ∧
      start + binding.paths.length ≤ maxSyncPaths ∧ next = start + binding.paths.length := by
  simp only [checkReservation, ok_iff, forM_ok, not_lt, checkedAddU64_eq_some,
    checkReservationOwners_ok]
  constructor
  · rintro ⟨worker, total, ⟨_, rfl⟩, bound, paths, owners, rfl⟩
    exact ⟨⟨worker, paths, owners⟩, bound, rfl⟩
  · rintro ⟨fits, bound, rfl⟩
    have room : start + binding.paths.length < 2 ^ 64 := bound.trans_lt (by decide)
    exact ⟨fits.worker, _, ⟨room, rfl⟩, bound, fits.paths, fits.owners, rfl⟩

/-- The pass over the retained grants succeeds exactly when each fits and their paths are within
bounds together. -/
theorem checkReservations_ok (value : ClaimsState ρ) (bindings : List SubordinateClaimBinding)
    (within : start ≤ maxSyncPaths) :
    (∃ total, bindings.foldlM (checkReservation value) start = .ok total) ↔
      (∀ binding ∈ bindings, ReservationFits value binding) ∧
      start + reservedPaths bindings ≤ maxSyncPaths := by
  induction bindings generalizing start with
  | nil => simpa [reservedPaths, pure_ok] using within
  | cons binding bindings ih =>
    have split : reservedPaths (binding :: bindings) =
        binding.paths.length + reservedPaths bindings := by
      simp [reservedPaths]
    simp only [foldlM_cons, bind_ok, checkReservation_ok, forall_mem_cons, split]
    constructor
    · rintro ⟨total, next, ⟨fits, bound, rfl⟩, rest⟩
      obtain ⟨others, bounded⟩ := (ih bound).mp ⟨total, rest⟩
      exact ⟨⟨fits, others⟩, by omega⟩
    · rintro ⟨⟨fits, others⟩, bounded⟩
      have bound : start + binding.paths.length ≤ maxSyncPaths := by omega
      obtain ⟨total, rest⟩ := (ih bound).mpr ⟨others, by omega⟩
      exact ⟨total, _, ⟨fits, bound, rfl⟩, rest⟩

variable {coordinator : Inner}

/-- The coordinator of a stored state is rebuilt exactly when its claims pass, its history of grants
is bounded and fits, and the claims restore together with the grants. -/
theorem coordinatorFromAuthenticated_ok :
    coordinatorFromAuthenticated value = .ok coordinator ↔
      validateSyncSnapshot ⟨value.nextToken, value.claims⟩ = .ok () ∧
      value.subordinateBindings.length ≤ maxSyncClaims ∧
      ((∀ binding ∈ value.subordinateBindings, ReservationFits value binding) ∧
        reservedPaths value.subordinateBindings ≤ maxSyncPaths) ∧
      fromSnapshotWithSubordinates ⟨value.nextToken, value.claims⟩ value.subordinateBindings =
        .ok coordinator := by
  have pass := checkReservations_ok value value.subordinateBindings (Nat.zero_le maxSyncPaths)
  rw [Nat.zero_add] at pass
  simp only [coordinatorFromAuthenticated, ok_iff, mapError_ok, not_lt]
  constructor
  · rintro ⟨_, valid, bounded, total, folded, restored⟩
    exact ⟨valid, bounded, pass.mp ⟨total, folded⟩, restored⟩
  · rintro ⟨valid, bounded, fits, restored⟩
    obtain ⟨total, folded⟩ := pass.mpr fits
    exact ⟨(), valid, bounded, total, folded, restored⟩

/-- A coordinator and run owners from which a settled state opens, up to the two conditions that
updates do not keep. -/
structure Openable (coordinator : Inner) (runOwners : List ClaimRunOwner) : Prop where
  consistent : Consistent coordinator
  bounded : coordinator.subordinateBindings.length ≤ maxSyncClaims
  workers : ∀ binding ∈ coordinator.subordinateBindings,
    byteLength binding.workerId ≤ maxAgentIdBytes
  paths : ∀ binding ∈ coordinator.subordinateBindings, ∀ path ∈ binding.paths,
    validateStatePath path = .ok ()
  owners : ∀ binding ∈ coordinator.subordinateBindings,
    coordinator.subordinateClaims[binding.childToken]? ≠ none →
    ∃ parent ∈ runOwners, ∃ child ∈ runOwners, parent.token = binding.parentToken ∧
      child.token = binding.childToken ∧ child.runId = parent.runId ∧
      child.process = parent.process

/-- An opened state and its coordinator. -/
structure Opened (value : ClaimsState ρ) (coordinator : Inner) : Prop
    extends Openable coordinator value.runOwners where
  noTop : WorkersHoldNoTop coordinator
  reserved : reservedPaths coordinator.subordinateBindings ≤ maxSyncPaths
  retained : coordinator.subordinateBindings = value.subordinateBindings
  children : ∀ (token : ℕ) child, coordinator.subordinateClaims[token]? = some child ↔
    child ∈ value.claims ∧ child.token = token ∧
      token ∈ value.subordinateBindings.map SubordinateClaimBinding.childToken

/-- What opening a state establishes. -/
theorem opened_of_coordinator (accepted : coordinatorFromAuthenticated value = .ok coordinator) :
    Opened value coordinator := by
  obtain ⟨valid, bounded, ⟨fits, reserved⟩, restored⟩ := coordinatorFromAuthenticated_ok.mp accepted
  obtain ⟨positive, claims⟩ := validateSyncSnapshot_ok valid
  have facts := fromSnapshotWithSubordinates_restored restored positive
    fun claim listed => (claims claim listed).2.2
  refine {
    consistent := facts.consistent
    bounded := facts.retained ▸ bounded
    workers := fun binding listed => (fits binding (facts.retained ▸ listed)).worker
    paths := fun binding listed => (fits binding (facts.retained ▸ listed)).paths
    owners := ?_
    noTop := facts.noTop
    reserved := facts.retained ▸ reserved
    retained := facts.retained
    children := facts.children }
  intro binding listed occupied
  obtain ⟨claim, stored⟩ := Option.ne_none_iff_exists'.mp occupied
  obtain ⟨member, token, _⟩ := (facts.children binding.childToken claim).mp stored
  obtain ⟨parent, child, parentFound, childFound, same⟩ :=
    (fits binding (facts.retained ▸ listed)).owners ⟨claim, member, token⟩
  exact ⟨parent, mem_of_find?_eq_some parentFound, child,
    mem_of_find?_eq_some childFound, by simpa using find?_some parentFound,
    by simpa using find?_some childFound, same⟩

/-- Run owners that pass have distinct tokens. -/
theorem validateClaimRunOwners_distinct
    (valid : validateClaimRunOwners claims runOwners = .ok done) :
    (runOwners.map ClaimRunOwner.token).Nodup := by
  simp only [validateClaimRunOwners, ok_iff] at valid
  obtain ⟨_, seen, folded, _⟩ := valid
  have recorded : (runOwners.map ClaimRunOwner.token).Nodup ∧
      ∀ token, token ∈ seen ↔ token ∈ runOwners.map ClaimRunOwner.token := by
    refine foldlM_invariant (fun read seen => (read.map ClaimRunOwner.token).Nodup ∧
      ∀ token, token ∈ seen ↔ token ∈ read.map ClaimRunOwner.token) ?_ (by simp) folded
    intro read owner seen next sofar stepped
    simp only [checkRunOwner, ok_iff] at stepped
    obtain ⟨_, fresh, _, _, _, _, _, rfl⟩ := stepped
    exact BTreeSet.insert_collects sofar fresh
  exact recorded.1

/-- What a settled update commits, and what was checked of it. -/
structure Settled (checksum : List Path → Except String String) (value : ClaimsState ρ)
    (working : Working) (settled : ClaimsState ρ) : Prop where
  repository : settled.repository = value.repository
  nextToken : settled.nextToken = working.coordinator.nextToken
  claims : settled.claims = allClaims working.coordinator
  retained : settled.subordinateBindings = working.coordinator.subordinateBindings
  runOwners : ∀ owner, owner ∈ settled.runOwners ↔ owner ∈ working.runOwners ∧
    owner.token ∈ settled.claims.map PathClaim.token
  snapshotValid : validateSyncSnapshot ⟨settled.nextToken, settled.claims⟩ = .ok ()
  runOwnersValid : validateClaimRunOwners settled.claims settled.runOwners = .ok ()
  remoteOwnersValid : validateClaimRemoteOwners settled.claims settled.remoteOwners = .ok ()
  livenessValid : validateClaimLiveness checksum settled.nextToken settled.claims settled.liveness
    settled.supersessions = .ok ()

variable {checksum : List Path → Except String String} {settled : ClaimsState ρ}

/-- A successful settlement has passed every check made before the commit. -/
theorem settleUpdate_ok (accepted : settleUpdate checksum value working = .ok settled) :
    Settled checksum value working settled := by
  simp only [settleUpdate, ok_iff] at accepted
  obtain ⟨_, valid, _, runOwners, _, remoteOwners, _, liveness, rfl⟩ := accepted
  refine ⟨rfl, rfl, rfl, rfl, fun owner => ?_, valid, runOwners, remoteOwners, liveness⟩
  rw [mem_sortBy, mem_filter, decide_eq_true_eq, BTreeSet.mem_ofList]

/-- Every retained grant of an openable coordinator fits the state that settled from it. -/
theorem Settled.reservationFits (facts : Settled checksum value working settled)
    (openable : Openable working.coordinator working.runOwners)
    (listed : binding ∈ working.coordinator.subordinateBindings) :
    ReservationFits settled binding := by
  have consistent := openable.consistent
  have distinct := validateClaimRunOwners_distinct facts.runOwnersValid
  refine ⟨openable.workers binding listed, openable.paths binding listed, ?_⟩
  rintro ⟨claim, member, token⟩
  rw [facts.claims] at member
  -- The claim with a child's token is the child itself, so its parent is active too.
  have stored : working.coordinator.subordinateClaims[binding.childToken]? = some claim := by
    rw [← token]
    rcases (mem_allClaims consistent).mp member with child | grouped
    · exact child
    · refine absurd ?_ (consistent.top_unlisted grouped)
      rw [token]
      exact mem_map_of_mem listed
  obtain ⟨parent, parentListed, child, childListed, parentToken, childToken, same⟩ :=
    openable.owners binding listed (by rw [stored]; exact Option.some_ne_none claim)
  obtain ⟨other, otherListed, bound⟩ := consistent.childBound binding.childToken claim stored
  have sameBinding : other = binding :=
    inj_on_of_nodup_map consistent.childDistinct otherListed listed (bound.token.trans token)
  obtain ⟨parentClaim, parentActive, _⟩ := bound.parent
  rw [sameBinding] at parentActive
  have parentMember : parentClaim ∈ allClaims working.coordinator := by
    rw [mem_allClaims consistent, (claimForToken_some parentActive).1]
    exact .inr parentActive
  have parentKept : parent ∈ settled.runOwners := by
    rw [facts.runOwners, facts.claims, parentToken, ← (claimForToken_some parentActive).1]
    exact ⟨parentListed, mem_map_of_mem parentMember⟩
  have childKept : child ∈ settled.runOwners := by
    rw [facts.runOwners, facts.claims, childToken, ← token]
    exact ⟨childListed, mem_map_of_mem member⟩
  refine ⟨parent, child, ?_, ?_, same⟩
  · rw [← parentToken]
    exact find?_key_eq_some distinct parentKept
  · rw [← childToken]
    exact find?_key_eq_some distinct childKept

/-- A settled state opens exactly when no active Worker holds a top-level claim and the retained
grants name no more paths than the opener accepts. -/
theorem Settled.opens_iff (facts : Settled checksum value working settled)
    (openable : Openable working.coordinator working.runOwners) :
    (∃ coordinator, coordinatorFromAuthenticated settled = .ok coordinator) ↔
      WorkersHoldNoTop working.coordinator ∧
      reservedPaths working.coordinator.subordinateBindings ≤ maxSyncPaths := by
  simp only [coordinatorFromAuthenticated_ok, facts.retained, facts.nextToken, facts.claims]
  constructor
  · rintro ⟨coordinator, _, _, ⟨_, reserved⟩, accepted⟩
    exact ⟨((restore_toSnapshot_iff openable.consistent).mp accepted).1, reserved⟩
  · rintro ⟨noTop, reserved⟩
    refine ⟨working.coordinator, ?_, openable.bounded, ⟨?_, reserved⟩,
      (restore_toSnapshot_iff openable.consistent).mpr ⟨noTop, rfl⟩⟩
    · rw [← facts.nextToken, ← facts.claims]
      exact facts.snapshotValid
    · exact fun binding listed => facts.reservationFits openable listed

/-- An update that retains the same grants, no new children and all run owners keeps a coordinator
openable. -/
theorem Openable.keep {before after : Inner} {owners more : List ClaimRunOwner}
    (openable : Openable before owners) (consistent : Consistent after)
    (same : after.subordinateBindings = before.subordinateBindings)
    (fewer : ∀ (token : ℕ) child, after.subordinateClaims[token]? = some child →
      before.subordinateClaims[token]? = some child)
    (kept : ∀ owner ∈ owners, owner ∈ more) : Openable after more := by
  refine ⟨consistent, same ▸ openable.bounded, same ▸ openable.workers, same ▸ openable.paths, ?_⟩
  intro binding listed occupied
  rw [same] at listed
  obtain ⟨claim, stored⟩ := Option.ne_none_iff_exists'.mp occupied
  have earlier : before.subordinateClaims[binding.childToken]? ≠ none := by
    rw [fewer _ claim stored]
    exact Option.some_ne_none claim
  obtain ⟨parent, parentListed, child, childListed, matching⟩ :=
    openable.owners binding listed earlier
  exact ⟨parent, kept parent parentListed, child, kept child childListed, matching⟩

variable {next : Inner} {agentId : String} {paths : List Path}

/-- A claim made through the coordinator enters its normalized paths under the next token. -/
theorem claimInCoordinator_ok
    (accepted : claimInCoordinator coordinator agentId paths = .ok (claim, next)) :
    step coordinator (.claimPaths agentId paths) = next ∧
    ∃ agent scope claims, normalizeAgentId agentId = .ok agent ∧
      normalizeClaimPaths paths = .ok scope ∧
      insertClaim coordinator.claims coordinator.nextToken agent scope = .ok claims ∧
      next = { coordinator with nextToken := coordinator.nextToken + 1, claims } ∧
      claim = ⟨coordinator.nextToken, agent, scope⟩ := by
  rw [step]
  rcases claimPaths_cases coordinator agentId paths with
    ⟨refusal, same⟩ | ⟨refusal, spent⟩ |
      ⟨agent, scope, claims, normal, scopeNormal, _, inserted, entered⟩
  · simp [claimInCoordinator, same] at accepted
  · simp [claimInCoordinator, spent] at accepted
  · simp only [claimInCoordinator, entered, Except.ok.injEq, Prod.mk.injEq] at accepted
    obtain ⟨rfl, rfl⟩ := accepted
    rw [entered]
    exact ⟨rfl, agent, scope, claims, normal, scopeNormal, inserted, rfl, rfl⟩

/-- After a claim, no Worker holds a top-level claim exactly when the claim was not made under the
id of an active Worker. -/
theorem claim_noTop_iff (noTop : WorkersHoldNoTop coordinator)
    (normal : normalizeAgentId agentId = .ok agent)
    (scopeNormal : normalizeClaimPaths paths = .ok scope)
    (inserted : insertClaim coordinator.claims coordinator.nextToken agent scope = .ok claims) :
    WorkersHoldNoTop { coordinator with nextToken := coordinator.nextToken + 1, claims } ↔
      ∀ (token : ℕ) child, coordinator.subordinateClaims[token]? = some child →
        normalizeAgentId agentId ≠ .ok child.agentId := by
  constructor
  · intro after token child stored same
    obtain ⟨path, member⟩ :=
      exists_mem_of_ne_nil _ (normalizeClaimPaths_canonical scopeNormal).nonempty
    rw [normal, Except.ok.injEq] at same
    exact after token child path _ stored
      ((insertClaim_entry inserted).mpr (.inl ⟨member, rfl⟩)) same
  · intro avoids token child key entry stored found
    rcases (insertClaim_entry inserted).mp found with ⟨-, rfl⟩ | old
    · exact fun same => avoids token child stored (normal.trans (congrArg _ same))
    · exact noTop token child key entry stored old

/-- An agent id is not, in normal form, the id of an active Worker of the stored state: a listed
claim whose token is recorded as a child. -/
def AvoidsActiveWorkers (value : ClaimsState ρ) (agentId : String) : Prop :=
  ∀ claim ∈ value.claims,
    claim.token ∈ value.subordinateBindings.map SubordinateClaimBinding.childToken →
    normalizeAgentId agentId ≠ .ok claim.agentId

/-- The active Workers of a stored state are the children of its coordinator. -/
theorem Opened.avoids_iff (opened : Opened value coordinator) (agentId : String) :
    (∀ (token : ℕ) child, coordinator.subordinateClaims[token]? = some child →
      normalizeAgentId agentId ≠ .ok child.agentId) ↔ AvoidsActiveWorkers value agentId := by
  constructor
  · intro avoids claim listed recorded
    exact avoids claim.token claim ((opened.children _ _).mpr ⟨listed, rfl, recorded⟩)
  · intro avoids token child stored
    obtain ⟨listed, rfl, recorded⟩ := (opened.children token child).mp stored
    exact avoids child listed recorded

/-- The condition under which an update leaves a store that opens again: a claim or a takeover is
not made under the id of an active Worker, and a subordinate claim does not take the retained
grants past the path bound of the opener. -/
def Update.Reopens (value : ClaimsState ρ) : Update → Prop
  | .claim agentId _ _ _ _ => AvoidsActiveWorkers value agentId
  | .takeover _ agentId _ _ _ => AvoidsActiveWorkers value agentId
  | .claimSubordinate _ _ _ _ paths _ _ =>
    reservedPaths value.subordinateBindings + paths.length ≤ maxSyncPaths
  | _ => True

/-- A claim keeps a coordinator openable, and leaves no Worker with a top-level claim exactly when
it is not made under the id of an active Worker. -/
theorem Openable.claim {owners more : List ClaimRunOwner}
    (openable : Openable coordinator owners) (noTop : WorkersHoldNoTop coordinator)
    (kept : ∀ owner ∈ owners, owner ∈ more) {claim : PathClaim}
    (accepted : claimInCoordinator coordinator agentId paths = .ok (claim, next)) :
    Openable next more ∧ next.subordinateBindings = coordinator.subordinateBindings ∧
      (WorkersHoldNoTop next ↔
        ∀ (token : ℕ) child, coordinator.subordinateClaims[token]? = some child →
          normalizeAgentId agentId ≠ .ok child.agentId) := by
  obtain ⟨stepped, agent, scope, claims, normal, scopeNormal, inserted, rfl, -⟩ :=
    claimInCoordinator_ok accepted
  have consistent := step_consistent openable.consistent (.claimPaths agentId paths)
  rw [stepped] at consistent
  exact ⟨openable.keep consistent rfl (fun _ _ stored => stored) kept, rfl,
    claim_noTop_iff noTop normal scopeNormal inserted⟩

/-- A claim cannot be made again right after a child was released: its scope lies in its parent's.
-/
theorem no_claim_of_released_child (consistent : Consistent coordinator)
    {token : ℕ} {child : PathClaim} (stored : coordinator.subordinateClaims[token]? = some child)
    {children : BTreeMap ℕ PathClaim} {result : PathClaim × Inner} :
    claimInCoordinator { coordinator with subordinateClaims := children } agentId child.paths ≠
      .ok result := by
  intro accepted
  obtain ⟨claim, next⟩ := result
  obtain ⟨_, agent, scope, claims, _, scopeNormal, inserted, _⟩ := claimInCoordinator_ok accepted
  obtain ⟨binding, listed, bound⟩ := consistent.childBound token child stored
  obtain ⟨parent, active, carved⟩ := bound.parent
  have canonical : CanonicalScope child.paths :=
    bound.paths ▸ (consistent.bindings binding listed).canonical
  rw [normalizeClaimPaths_eq_self canonical, Except.ok.injEq] at scopeNormal
  obtain ⟨path, member⟩ := exists_mem_of_ne_nil _ canonical.nonempty
  obtain ⟨key, held, covers⟩ := carved.inside path member
  obtain ⟨_, _, _, _, carried⟩ := consistent.claim active
  have clear := (insertClaim_ok.mp inserted).1 path (scopeNormal ▸ member) key _
    ((carried key).mp held)
  rw [pathsOverlap_iff.mpr (.inl covers)] at clear
  cases clear

variable {now : ℕ}

/-- What a claim update does to the coordinator and the run owners. -/
theorem claimUpdate_ok {working next : Working}
    (accepted : claimUpdate agentId paths timing now runOwner working = .ok (claim, next)) :
    claimInCoordinator working.coordinator agentId paths = .ok (claim, next.coordinator) ∧
      ∀ owner ∈ working.runOwners, owner ∈ next.runOwners := by
  simp only [claimUpdate, ok_iff, Prod.mk.injEq] at accepted
  obtain ⟨_, _, _, _, ⟨made, coordinator⟩, claimed, entry, _, rfl, rfl⟩ := accepted
  exact ⟨claimed, fun owner listed => mem_append_left _ listed⟩

/-- A release update changes the coordinator and the remote owners. -/
theorem releaseUpdate_ok {working next : Working}
    (accepted : releaseUpdate token working = .ok (released, next)) :
    ∃ left owners, release working.coordinator token = .ok (released, left) ∧
      next = { working with coordinator := left, remoteOwners := owners } := by
  simp only [releaseUpdate, ok_iff, mapError_ok, Prod.mk.injEq] at accepted
  obtain ⟨⟨_, left⟩, accepted, rfl, rfl⟩ := accepted
  exact ⟨left, _, accepted, rfl⟩

/-- So does a release by agent. -/
theorem releaseByAgentUpdate_ok {working next : Working}
    (accepted : releaseByAgentUpdate agentId working = .ok (released, next)) :
    ∃ left owners, releaseByAgent working.coordinator agentId = .ok (released, left) ∧
      next = { working with coordinator := left, remoteOwners := owners } := by
  simp only [releaseByAgentUpdate, ok_iff, mapError_ok, Prod.mk.injEq] at accepted
  obtain ⟨⟨_, left⟩, accepted, rfl, rfl⟩ := accepted
  exact ⟨left, _, accepted, rfl⟩

/-- What a subordinate claim update does to the coordinator and the run owners. -/
theorem claimSubordinateUpdate_ok {observe : ClaimProcessIdentity → ProcessObservation}
    {process : ClaimProcessIdentity} {run : String} {parent claim : PathClaim}
    {workerId sourceDigest : String} {working next : Working}
    (accepted : claimSubordinateUpdate observe process run parent workerId paths sourceDigest now
      working = .ok (claim, next)) :
    (∃ owner ∈ working.runOwners, owner.token = parent.token ∧ owner.runId = run ∧
      owner.process = process) ∧
    working.coordinator.subordinateBindings.length < maxSyncClaims ∧
    claimSubordinatePaths working.coordinator parent workerId paths sourceDigest =
      .ok (claim, next.coordinator) ∧
    next.runOwners = working.runOwners ++ [⟨claim.token, run, process⟩] := by
  simp only [claimSubordinateUpdate, ok_iff, mapError_ok, not_le, not_not,
    Prod.mk.injEq] at accepted
  obtain ⟨_, _, owner, found, sameRun, sameProcess, _, _, bounded, ⟨made, coordinator⟩, claimed,
    entry, _, rfl, rfl⟩ := accepted
  exact ⟨⟨owner, mem_of_find?_eq_some found, by simpa using find?_some found, sameRun,
    sameProcess⟩, bounded, claimed, rfl⟩

/-- What a takeover update does to the coordinator and the run owners. -/
theorem takeoverUpdate_ok {working next : Working}
    (accepted : takeoverUpdate checksum priorToken agentId timing now remoteSuccessor working =
      .ok (outcome, next)) :
    ∃ superseded released claim, release working.coordinator priorToken =
        .ok (superseded, released) ∧
      claimInCoordinator released agentId superseded.paths = .ok (claim, next.coordinator) ∧
      next.runOwners = working.runOwners := by
  simp only [takeoverUpdate, ok_iff, mapError_ok, Prod.mk.injEq] at accepted
  obtain ⟨_, _, _, _, prior, _, priorLiveness, _, report, _, _, _, depth, _, _, _, _, pathsChecksum,
    _, ⟨superseded, released⟩, releasedOk, ⟨claim, coordinator⟩, claimed, entry, _, successor, _,
    rfl, rfl⟩ := accepted
  exact ⟨superseded, released, claim, releasedOk, claimed, rfl⟩

/-- The working state an update starts from. -/
def ClaimsState.working (value : ClaimsState ρ) (coordinator : Inner) : Working :=
  ⟨coordinator, value.runOwners, value.liveness, value.supersessions, value.remoteOwners⟩

/-- A coordinator that shrinks keeps its grants and gets no new child. -/
structure Shrinks (before after : Inner) : Prop where
  retained : after.subordinateBindings = before.subordinateBindings
  fewer : ∀ (token : ℕ) child, after.subordinateClaims[token]? = some child →
    before.subordinateClaims[token]? = some child

/-- Releasing a claim shrinks the coordinator. -/
theorem release_shrinks {inner : Inner} {token : ℕ} {released : PathClaim}
    (accepted : release inner token = .ok (released, next)) :
    step inner (.release token) = next ∧ Shrinks inner next := by
  refine ⟨by rw [step, accepted]; rfl, ?_⟩
  obtain ⟨_, ⟨_, rfl⟩ | ⟨_, _, rfl⟩⟩ := release_ok accepted
  · exact ⟨rfl, fun other child found => (BTreeMap.get_erase_some found).2⟩
  · exact ⟨rfl, fun _ _ found => found⟩

/-- Releasing an agent's claims shrinks the coordinator. -/
theorem releaseByAgent_shrinks {inner : Inner} {released : List PathClaim}
    (accepted : releaseByAgent inner agentId = .ok (released, next)) :
    step inner (.releaseByAgent agentId) = next ∧ Shrinks inner next := by
  refine ⟨by rw [step, accepted]; rfl, ?_⟩
  obtain ⟨agent, _, _, rfl⟩ := releaseByAgent_ok accepted
  exact ⟨rfl, fun token child found => (BTreeMap.get_filter_some found).1⟩

section

variable (opened : Opened value coordinator)

include opened

/-- Shrinking an opened coordinator keeps it openable and its Workers free of top-level claims. -/
theorem Opened.shrink {operation : Operation}
    (stepped : step coordinator operation = next) (avoids : AvoidsWorkers coordinator operation)
    (shrinks : Shrinks coordinator next) :
    Openable next value.runOwners ∧ WorkersHoldNoTop next ∧
      reservedPaths next.subordinateBindings ≤ maxSyncPaths := by
  subst stepped
  exact ⟨opened.toOpenable.keep (step_consistent opened.consistent operation) shrinks.retained
    shrinks.fewer (fun _ listed => listed), step_workersHoldNoTop opened.noTop operation avoids,
    shrinks.retained ▸ opened.reserved⟩

/-- A grant that passes the checks before the commit keeps an opened coordinator openable, and adds
its paths to the retained ones. -/
theorem Opened.grant
    {parent claim : PathClaim} {workerId sourceDigest : String}
    {owner : ClaimRunOwner}
    (owned : owner ∈ value.runOwners) (ownerToken : owner.token = parent.token)
    (bounded : coordinator.subordinateBindings.length < maxSyncClaims)
    (accepted : claimSubordinatePaths coordinator parent workerId paths sourceDigest =
      .ok (claim, next)) (valid : validateSyncSnapshot (toSnapshot next) = .ok ()) :
    Openable next (value.runOwners ++ [⟨claim.token, owner.runId, owner.process⟩]) ∧
      WorkersHoldNoTop next ∧
      reservedPaths next.subordinateBindings =
        reservedPaths value.subordinateBindings + paths.length := by
  have stepped : step coordinator (.claimSubordinatePaths parent workerId paths sourceDigest) =
      next := by rw [step, accepted]; rfl
  have consistent := step_consistent opened.consistent
    (.claimSubordinatePaths parent workerId paths sourceDigest)
  have noTop := step_workersHoldNoTop opened.noTop
    (.claimSubordinatePaths parent workerId paths sourceDigest) trivial
  rw [stepped] at consistent noTop
  obtain ⟨_, _, _, fits, _, rfl, rfl⟩ := claimSubordinatePaths_ok accepted
  have stored : (coordinator.withSubordinate parent.token workerId paths
      sourceDigest).subordinateClaims[coordinator.nextToken]? =
      some ⟨coordinator.nextToken, workerId, paths⟩ := BTreeMap.get_insert_self _ _ _
  have listed : (⟨coordinator.nextToken, workerId, paths⟩ : PathClaim) ∈ allClaims
      (coordinator.withSubordinate parent.token workerId paths sourceDigest) :=
    (mem_allClaims consistent).mpr (.inl stored)
  obtain ⟨agent, statePaths, _⟩ := (validateSyncSnapshot_ok valid).2 _ listed
  refine ⟨⟨consistent, ?_, ?_, ?_, ?_⟩, noTop, ?_⟩
  · rw [Inner.withSubordinate, length_append, length_singleton]
    exact bounded
  · exact forall_mem_concat opened.workers ‹_›
  · exact forall_mem_concat opened.paths ‹_›
  · intro binding member occupied
    rcases mem_append.mp member with old | new
    · have below := (opened.consistent.bindings binding old).childBelow
      have earlier : coordinator.subordinateClaims[binding.childToken]? ≠ none := by
        rwa [Inner.withSubordinate, BTreeMap.get_insert_of_ne _ _ below.ne'] at occupied
      obtain ⟨first, firstListed, second, secondListed, matching⟩ :=
        opened.owners binding old earlier
      exact ⟨first, mem_append_left _ firstListed, second, mem_append_left _ secondListed, matching⟩
    · rw [mem_singleton.mp new]
      exact ⟨owner, mem_append_left _ owned, _,
        mem_append_right _ (mem_singleton_self _), ownerToken, rfl, rfl, rfl⟩
  · rw [Inner.withSubordinate, reservedPaths, map_append, sum_append, opened.retained]
    simp [reservedPaths]

/-- An update of an opened state leaves it openable; the conditions that updates do not keep hold
afterwards exactly when the update reopens. -/
theorem Update.apply_opened
    (host : Host) (update : Update) {next : Working}
    (applied : update.apply host (value.working coordinator) = .ok next)
    (valid : validateSyncSnapshot (toSnapshot next.coordinator) = .ok ()) :
    Openable next.coordinator next.runOwners ∧
      ((WorkersHoldNoTop next.coordinator ∧
        reservedPaths next.coordinator.subordinateBindings ≤ maxSyncPaths) ↔
        update.Reopens value) := by
  cases update with
  | claim agentId paths timing now runOwner =>
    obtain ⟨⟨claim, working⟩, accepted, rfl⟩ := map_ok.mp applied
    obtain ⟨claimed, kept⟩ := claimUpdate_ok accepted
    obtain ⟨openable, same, noTop⟩ := opened.toOpenable.claim opened.noTop kept claimed
    refine ⟨openable, ?_⟩
    rw [same]
    exact (and_iff_left opened.reserved).trans (noTop.trans (opened.avoids_iff agentId))
  | claimSubordinate process run parent workerId paths sourceDigest now =>
    obtain ⟨⟨claim, working⟩, accepted, rfl⟩ := map_ok.mp applied
    obtain ⟨⟨owner, owned, ownerToken, rfl, rfl⟩, bounded, claimed, owners⟩ :=
      claimSubordinateUpdate_ok accepted
    obtain ⟨openable, noTop, reserved⟩ := opened.grant owned ownerToken bounded claimed valid
    rw [owners, reserved]
    exact ⟨openable, and_iff_right noTop⟩
  | release token =>
    obtain ⟨⟨released, working⟩, accepted, rfl⟩ := map_ok.mp applied
    obtain ⟨left, _, freed, rfl⟩ := releaseUpdate_ok accepted
    obtain ⟨stepped, shrinks⟩ := release_shrinks freed
    obtain ⟨openable, rest⟩ := opened.shrink stepped trivial shrinks
    exact ⟨openable, iff_of_true rest trivial⟩
  | releaseByAgent agentId =>
    obtain ⟨⟨released, working⟩, accepted, rfl⟩ := map_ok.mp applied
    obtain ⟨left, _, freed, rfl⟩ := releaseByAgentUpdate_ok accepted
    obtain ⟨stepped, shrinks⟩ := releaseByAgent_shrinks freed
    obtain ⟨openable, rest⟩ := opened.shrink stepped trivial shrinks
    exact ⟨openable, iff_of_true rest trivial⟩
  | heartbeat token agentId timing now =>
    obtain ⟨⟨report, working⟩, accepted, rfl⟩ := map_ok.mp applied
    simp only [heartbeatUpdate, ok_iff, Prod.mk.injEq] at accepted
    obtain ⟨_, _, _, _, _, _, _, _, _, _, _, _, _, rfl, rfl⟩ := accepted
    exact ⟨opened.toOpenable, iff_of_true ⟨opened.noTop, opened.reserved⟩ trivial⟩
  | sweep now =>
    obtain ⟨⟨report, working⟩, accepted, rfl⟩ := map_ok.mp applied
    simp only [sweepUpdate, ok_iff, Prod.mk.injEq] at accepted
    obtain ⟨_, _, _, _, rfl, rfl⟩ := accepted
    exact ⟨opened.toOpenable, iff_of_true ⟨opened.noTop, opened.reserved⟩ trivial⟩
  | takeover priorToken agentId timing now remoteSuccessor =>
    obtain ⟨⟨outcome, working⟩, accepted, rfl⟩ := map_ok.mp applied
    obtain ⟨superseded, released, claim, releasedOk, claimed, owners⟩ := takeoverUpdate_ok accepted
    obtain ⟨stepped, shrinks⟩ := release_shrinks releasedOk
    obtain ⟨mid, midNoTop, _⟩ := opened.shrink stepped trivial shrinks
    obtain ⟨openable, same, noTop⟩ := mid.claim midNoTop (fun _ listed => listed) claimed
    refine ⟨by rw [owners]; exact openable, ?_⟩
    rw [noTop, same, shrinks.retained]
    obtain ⟨_, ⟨stored, rfl⟩ | ⟨_, _, rfl⟩⟩ := release_ok releasedOk
    · exact absurd claimed (no_claim_of_released_child opened.consistent stored)
    · exact (and_iff_left opened.reserved).trans (opened.avoids_iff agentId)

end

/-- The opener accepts a snapshot exactly when its header matches, its coordinator is rebuilt and
its owners and liveness pass. -/
theorem validateAuthenticatedStore_ok [DecidableEq ρ] {repository : ρ} :
    validateAuthenticatedStore checksum repository snapshot = .ok () ↔
      (snapshot.value.version = 1 ∧ snapshot.value.snapshotRevision = snapshot.generation ∧
        snapshot.value.snapshotRevision = snapshot.token ∧
        snapshot.value.repository = repository) ∧
      (∃ coordinator, coordinatorFromAuthenticated snapshot.value = .ok coordinator) ∧
      validateClaimRunOwners snapshot.value.claims snapshot.value.runOwners = .ok () ∧
      validateClaimRemoteOwners snapshot.value.claims snapshot.value.remoteOwners = .ok () ∧
      validateClaimLiveness checksum snapshot.value.nextToken snapshot.value.claims
        snapshot.value.liveness snapshot.value.supersessions = .ok () := by
  simp only [validateAuthenticatedStore, ok_iff, not_or, not_not]
  constructor
  · rintro ⟨header, coordinator, rebuilt, _, runOwners, _, remoteOwners, liveness⟩
    exact ⟨header, ⟨coordinator, rebuilt⟩, runOwners, remoteOwners, liveness⟩
  · rintro ⟨header, ⟨coordinator, rebuilt⟩, runOwners, remoteOwners, liveness⟩
    exact ⟨header, coordinator, rebuilt, (), runOwners, (), remoteOwners, liveness⟩

/-- What a transaction that commits has done: it ran on what was rebuilt from a snapshot that opens,
and what settled is the snapshot's own state or is stored as the next one. -/
theorem commitUpdate_ok [DecidableEq ρ] {repository : ρ}
    {operation : Working → Except String (α × Working)} {output : α}
    (committing : commitUpdate checksum repository snapshot operation = .ok (output, committed)) :
    validateAuthenticatedStore checksum repository snapshot = .ok () ∧
      ∃ coordinator next settled, coordinatorFromAuthenticated snapshot.value = .ok coordinator ∧
        operation (snapshot.value.working coordinator) = .ok (output, next) ∧
        settleUpdate checksum snapshot.value next = .ok settled ∧
        (settled = snapshot.value ∧ committed = snapshot ∨
          committed = ⟨snapshot.generation + 1, snapshot.value.snapshotRevision + 1,
            { settled with
              version := 1
              snapshotRevision := snapshot.value.snapshotRevision + 1 }⟩) := by
  simp only [commitUpdate, bind_ok] at committing
  obtain ⟨_, valid, coordinator, rebuilt, ⟨_, next⟩, applied, settled, settledOk, outcome⟩ :=
    committing
  refine ⟨valid, coordinator, next, settled, rebuilt, ?_⟩
  split at outcome
  case isTrue unchanged =>
    rw [pure_ok, Prod.mk.injEq] at outcome
    obtain ⟨rfl, rfl⟩ := outcome
    exact ⟨applied, settledOk, .inl ⟨unchanged, rfl⟩⟩
  case isFalse =>
    simp only [ok_iff, Prod.mk.injEq, checkedAddU64_eq_some, commit] at outcome
    obtain ⟨_, ⟨-, rfl⟩, _, ⟨-, _, ⟨-, rfl⟩, rfl⟩, rfl, rfl⟩ := outcome
    exact ⟨applied, settledOk, .inr rfl⟩

/-- An update that commits leaves a store that opens again exactly when a claim or takeover is not
made under the id of an active Worker, and a subordinate claim keeps the retained grants within the
path bound of the opener. -/
theorem commitUpdate_reopens_iff [DecidableEq ρ] (host : Host) (repository : ρ)
    (snapshot committed : StoredSnapshot ρ) (update : Update)
    (accepted : commitUpdate host.checksum repository snapshot (update.operation host) =
      .ok ((), committed)) :
    validateAuthenticatedStore host.checksum repository committed = .ok () ↔
      update.Reopens snapshot.value := by
  obtain ⟨valid, coordinator, next, settled, rebuilt, applied, settledOk, outcome⟩ :=
    commitUpdate_ok accepted
  obtain ⟨left, performed, same⟩ := map_ok.mp applied
  obtain rfl : left = next := congrArg Prod.snd same
  have opened := opened_of_coordinator rebuilt
  have facts := settleUpdate_ok settledOk
  have snapshotValid := facts.snapshotValid
  rw [facts.nextToken, facts.claims] at snapshotValid
  obtain ⟨openable, reopens⟩ := update.apply_opened opened host performed snapshotValid
  rw [← reopens, ← facts.opens_iff openable]
  rcases outcome with ⟨rfl, rfl⟩ | rfl
  · -- Nothing changed: the snapshot that was opened stays.
    exact iff_of_true valid ⟨coordinator, rebuilt⟩
  · obtain ⟨⟨_, generation, _, repositoryMatches⟩, _⟩ := validateAuthenticatedStore_ok.mp valid
    rw [validateAuthenticatedStore_ok]
    constructor
    · rintro ⟨_, opens, -⟩
      exact opens
    · intro opens
      exact ⟨⟨rfl, by rw [generation], rfl, facts.repository.trans repositoryMatches⟩, opens,
        facts.runOwnersValid, facts.remoteOwnersValid, facts.livenessValid⟩

/-- A host whose checksum is one fixed digest and whose recorded processes are all alive. -/
def quietHost : Host where
  checksum := fun _ => .ok (String.ofList (List.replicate 64 '0'))
  observe := fun _ => ⟨.live, "Matched"⟩

/-- A fresh liveness record made at time zero. -/
def freshLiveness (token : ℕ) : ClaimLiveness :=
  ⟨token, canonicalClaimId token, 0, 0, 43200, 86400, none, none⟩

/-- A stored state in which a parent holds `src` and granted `src/a` to a Worker. -/
def grantedSnapshot : StoredSnapshot Unit where
  generation := 1
  token := 1
  value := {
    version := 1
    snapshotRevision := 1
    repository := ()
    nextToken := 3
    claims := [⟨1, "parent", [[.normal "src"]]⟩, ⟨2, "worker", [[.normal "src", .normal "a"]]⟩]
    subordinateBindings := [⟨2, 1, String.ofList (List.replicate 64 'a'), "worker",
      [[.normal "src", .normal "a"]]⟩]
    runOwners := [⟨1, "run", ⟨7, none⟩⟩, ⟨2, "run", ⟨7, none⟩⟩]
    liveness := [freshLiveness 1, freshLiveness 2]
    supersessions := []
    remoteOwners := [] }

/-- A claim of `docs` by another agent is committed and opens again. -/
theorem commitUpdate_reopens_iff_other :
    ∃ committed, commitUpdate quietHost.checksum () grantedSnapshot
        ((Update.claim "other" [[.normal "docs"]] ClaimTiming.default 5 none).operation quietHost) =
      .ok ((), committed) ∧
      validateAuthenticatedStore quietHost.checksum () committed = .ok () := by
  refine ⟨_, rfl, ?_⟩
  refine (commitUpdate_reopens_iff quietHost () grantedSnapshot _
    (.claim "other" [[.normal "docs"]] ClaimTiming.default 5 none) rfl).mpr ?_
  intro claim listed recorded
  simp only [grantedSnapshot, mem_cons, not_mem_nil, or_false] at listed
  rcases listed with rfl | rfl <;> decide

/-- A claim of `docs` under the Worker's id is committed, and the committed snapshot does not
open. -/
theorem commitUpdate_worker_claim_closes :
    ∃ committed, commitUpdate quietHost.checksum () grantedSnapshot
        ((Update.claim "worker" [[.normal "docs"]] ClaimTiming.default 5 none).operation quietHost) =
      .ok ((), committed) ∧
      validateAuthenticatedStore quietHost.checksum () committed =
        .error SyncError.invalidSubordinateClaim.message :=
  ⟨_, rfl, rfl⟩

end Maco.SyncStore
