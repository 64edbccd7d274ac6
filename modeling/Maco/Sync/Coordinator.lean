import Maco.Base.Number
import Maco.Sync.Path

/-!
# The claim coordinator

The state behind `SyncCoordinator` and its operations. Top-level claims are kept by path, one
entry a path; a subordinate claim carves a scope out of a top-level claim for one Worker and is
kept whole under its own token, beside the history of every subordinate grant ever made. An
operation returns its answer together with the state it leaves, because one of them changes the
state and still fails. The lock around the state is left out: every operation holds it throughout.
-/

namespace Maco.Sync

open Maco.Base

structure PathClaim where
  token : ℕ
  agentId : String
  paths : List Path
deriving DecidableEq, Repr

/-- `SubordinateClaimBinding`, kept after release so a grant cannot be replayed. -/
structure SubordinateClaimBinding where
  childToken : ℕ
  parentToken : ℕ
  sourceDigest : String
  workerId : String
  paths : List Path
deriving DecidableEq, Repr

structure SyncSnapshot where
  nextToken : ℕ
  claims : List PathClaim
deriving DecidableEq, Repr

structure ClaimEntry where
  token : ℕ
  agentId : String
deriving DecidableEq, Repr

/-- `Inner`: the state of a coordinator. -/
structure Inner where
  nextToken : ℕ
  claims : BTreeMap Path ClaimEntry
  subordinateClaims : BTreeMap ℕ PathClaim
  subordinateBindings : List SubordinateClaimBinding

/-- `Inner::default`. -/
def Inner.default : Inner where
  nextToken := 1
  claims := ∅
  subordinateClaims := ∅
  subordinateBindings := []

/-- `valid_source_digest`. -/
def validSourceDigest (value : String) : Bool :=
  byteLength value == 64 && allChars isLowerHexDigit value

/-- One entry of the loop of `group_claims`. -/
def groupEntry (grouped : BTreeMap ℕ PathClaim) (entry : Path × ClaimEntry) :
    BTreeMap ℕ PathClaim :=
  match grouped[entry.2.token]? with
  | some claim => grouped.insert entry.2.token { claim with paths := claim.paths ++ [entry.1] }
  | none => grouped.insert entry.2.token ⟨entry.2.token, entry.2.agentId, [entry.1]⟩

section

variable (claims : BTreeMap Path ClaimEntry)

/-- `group_claims`. -/
def groupClaims : BTreeMap ℕ PathClaim :=
  claims.toList.foldl groupEntry ∅

/-- `claim_for_token`. -/
def claimForToken (token : ℕ) : Option PathClaim :=
  (groupClaims claims)[token]?

/-- `find_conflict`. -/
def findConflict (requested : Path) : Option (Path × ClaimEntry) :=
  claims.toList.find? fun entry => pathsOverlap entry.1 requested

/-- One path of the first loop of `insert_claim`. -/
def checkConflict (requested : Path) : Except SyncError Unit :=
  match findConflict claims requested with
  | some (path, entry) => .error (.conflict path entry.agentId)
  | none => .ok ()

/-- `insert_claim`. -/
def insertClaim (token : ℕ) (agentId : String) (paths : List Path) :
    Except SyncError (BTreeMap Path ClaimEntry) := do
  paths.forM (checkConflict claims)
  pure (paths.foldl (fun claims path => claims.insert path ⟨token, agentId⟩) claims)

end

section

variable (inner : Inner)

/-- `all_claims`: the grouped top-level claims and the subordinate claims in token order. -/
def allClaims : List PathClaim :=
  ((groupClaims inner.claims).extend inner.subordinateClaims).values

/-- `SyncCoordinator::to_snapshot`. -/
def toSnapshot : SyncSnapshot := ⟨inner.nextToken, allClaims inner⟩

/-- `validate_subordinate_scope`. -/
def validateSubordinateScope (parent : PathClaim) (workerId : String) (paths : List Path) :
    Except SyncError Unit := do
  let normalizedId ← normalizeAgentId workerId
  refuseIf (normalizedId ≠ workerId ∨ workerId = parent.agentId ∨ paths = [])
    .invalidSubordinateClaim
  let normalized ← normalizeClaimPaths paths
  refuseIf (normalized ≠ paths ∨
    paths.any (fun path => !parent.paths.any (startsWith path)) ∨
    parent.paths.all (fun scope => paths.any (startsWith scope)) ∨
    inner.subordinateClaims.values.any (fun claim => claim.agentId == workerId ||
      claim.paths.any (fun scope => paths.any (pathsOverlap scope))) ∨
    inner.claims.values.any (fun entry => entry.agentId == workerId)) .invalidSubordinateClaim

/-- `SyncCoordinator::claim_subordinate_paths`. -/
def claimSubordinatePaths (parent : PathClaim) (workerId : String) (paths : List Path)
    (sourceDigest : String) : Except SyncError (PathClaim × Inner) := do
  refuseIf (claimForToken inner.claims parent.token ≠ some parent) .invalidSubordinateClaim
  let normalized ← normalizeClaimPaths paths
  refuseIf (normalized ≠ paths ∨ validSourceDigest sourceDigest = false) .invalidSubordinateClaim
  refuseIf (inner.subordinateBindings.any fun binding =>
    binding.parentToken == parent.token && binding.sourceDigest == sourceDigest &&
      binding.workerId == workerId) .subordinateReplay
  validateSubordinateScope inner parent workerId paths
  let next ← require (checkedAddU64 inner.nextToken 1) .tokenExhausted
  let claim : PathClaim := ⟨inner.nextToken, workerId, paths⟩
  pure (claim, { inner with
    nextToken := next
    subordinateClaims := inner.subordinateClaims.insert inner.nextToken claim
    subordinateBindings := inner.subordinateBindings ++
      [⟨inner.nextToken, parent.token, sourceDigest, workerId, paths⟩] })

/-- `SyncCoordinator::claim_paths`. The token is spent before the conflict check, so a conflict
leaves a state with a larger next token. -/
def claimPaths (agentId : String) (paths : List Path) : Except SyncError PathClaim × Inner :=
  match (do pure (← normalizeAgentId agentId, ← normalizeClaimPaths paths)) with
  | .error refusal => (.error refusal, inner)
  | .ok (agentId, paths) =>
    match checkedAddU64 inner.nextToken 1 with
    | none => (.error .tokenExhausted, inner)
    | some next =>
      match insertClaim inner.claims inner.nextToken agentId paths with
      | .error refusal => (.error refusal, { inner with nextToken := next })
      | .ok claims =>
        (.ok ⟨inner.nextToken, agentId, paths⟩, { inner with nextToken := next, claims })

/-- `SyncCoordinator::release`. -/
def release (token : ℕ) : Except SyncError (PathClaim × Inner) := do
  refuseIf (inner.subordinateBindings.any fun binding =>
    binding.parentToken == token && inner.subordinateClaims.contains binding.childToken)
    .activeSubordinates
  match inner.subordinateClaims[token]? with
  | some child =>
    pure (child, { inner with subordinateClaims := inner.subordinateClaims.erase token })
  | none =>
    let released ← require (claimForToken inner.claims token) (.unknownToken token)
    pure (released,
      { inner with claims := inner.claims.filter fun _ entry => entry.token != token })

/-- `SyncCoordinator::release_by_agent`. -/
def releaseByAgent (agentId : String) : Except SyncError (List PathClaim × Inner) := do
  let agentId ← normalizeAgentId agentId
  let held := inner.claims.values.filter (fun entry => entry.agentId == agentId)
  let tokens := held.map ClaimEntry.token
  refuseIf (inner.subordinateBindings.any fun binding =>
    decide (binding.parentToken ∈ tokens) && inner.subordinateClaims.contains binding.childToken)
    .activeSubordinates
  let children := inner.subordinateClaims.values.filter (fun claim => claim.agentId == agentId)
  let tokens := BTreeSet.ofList (tokens ++ children.map PathClaim.token)
  let released := tokens.toList.filterMap fun token =>
    inner.subordinateClaims[token]? <|> claimForToken inner.claims token
  pure (released, { inner with
    claims := inner.claims.filter fun _ entry => entry.agentId != agentId
    subordinateClaims := inner.subordinateClaims.filter fun _ claim => claim.agentId != agentId })

/-- `SyncCoordinator::owner_of`. -/
def ownerOf (path : Path) : Except SyncError (Option String) := do
  let path ← normalizeRepoPath path
  match inner.subordinateClaims.values.find? fun claim =>
      claim.paths.any (pathIsCoveredByClaim path) with
  | some child => pure (some child.agentId)
  | none =>
    pure ((inner.claims.toList.find? fun entry => pathIsCoveredByClaim path entry.1).map
      fun entry => entry.2.agentId)

/-- `SyncCoordinator::can_write`. -/
def canWrite (agentId : String) (path : Path) : Except SyncError Bool := do
  let agentId ← normalizeAgentId agentId
  let path ← normalizeRepoPath path
  match inner.subordinateClaims.values.find? fun claim => claim.paths.any (pathsOverlap path) with
  | some child =>
    pure (child.agentId == agentId && child.paths.any (pathIsCoveredByClaim path))
  | none =>
    pure (inner.claims.toList.any fun entry =>
      entry.2.agentId == agentId && pathIsCoveredByClaim path entry.1)

end

/-- The variables of the loop of `from_snapshot`. -/
structure Restoring where
  claims : BTreeMap Path ClaimEntry
  seenTokens : BTreeSet ℕ
  maxToken : ℕ

/-- One claim of the loop of `from_snapshot`. -/
def restoreClaim (restoring : Restoring) (claim : PathClaim) : Except SyncError Restoring := do
  refuseIf (claim.token = 0) .invalidToken
  refuseIf (claim.token ∈ restoring.seenTokens) (.duplicateToken claim.token)
  let agentId ← normalizeAgentId claim.agentId
  let paths ← normalizeClaimPaths claim.paths
  let claims ← insertClaim restoring.claims claim.token agentId paths
  pure ⟨claims, restoring.seenTokens.insert claim.token, max restoring.maxToken claim.token⟩

/-- `SyncCoordinator::from_snapshot`. -/
def fromSnapshot (snapshot : SyncSnapshot) : Except SyncError Inner := do
  let restored ← snapshot.claims.foldlM restoreClaim ⟨∅, ∅, 0⟩
  pure { Inner.default with
    nextToken := max (max snapshot.nextToken (saturatingAddU64 restored.maxToken 1)) 1
    claims := restored.claims }

/-- The parent, digest and Worker a grant was made for, as `from_snapshot_with_subordinates`
compares them. -/
def bindingSource (binding : SubordinateClaimBinding) : ℕ ×ₗ (String ×ₗ String) :=
  toLex (binding.parentToken, toLex (binding.sourceDigest, binding.workerId))

/-- The sets the binding loop of `from_snapshot_with_subordinates` fills. -/
structure SeenBindings where
  childTokens : BTreeSet ℕ
  sources : BTreeSet (ℕ ×ₗ (String ×ₗ String))

/-- One binding of the loop of `from_snapshot_with_subordinates`. -/
def checkBinding (nextToken : ℕ) (seen : SeenBindings) (binding : SubordinateClaimBinding) :
    Except SyncError SeenBindings := do
  refuseIf (binding.childToken = 0 ∨ binding.parentToken = 0 ∨
    binding.childToken = binding.parentToken ∨ nextToken ≤ binding.childToken ∨
    nextToken ≤ binding.parentToken ∨ binding.childToken ∈ seen.childTokens ∨
    bindingSource binding ∈ seen.sources) .invalidSubordinateClaim
  let workerId ← normalizeAgentId binding.workerId
  refuseIf (workerId ≠ binding.workerId) .invalidSubordinateClaim
  let paths ← normalizeClaimPaths binding.paths
  refuseIf (paths ≠ binding.paths ∨ validSourceDigest binding.sourceDigest = false)
    .invalidSubordinateClaim
  pure ⟨seen.childTokens.insert binding.childToken, seen.sources.insert (bindingSource binding)⟩

/-- One child of the last loop of `from_snapshot_with_subordinates`. -/
def restoreChild (bindings : List SubordinateClaimBinding) (inner : Inner) (child : PathClaim) :
    Except SyncError Inner := do
  let binding ← require (bindings.find? fun binding => binding.childToken == child.token)
    .invalidSubordinateClaim
  let parent ← require (claimForToken inner.claims binding.parentToken) .invalidSubordinateClaim
  validateSubordinateScope inner parent child.agentId child.paths
  refuseIf (child.agentId ≠ binding.workerId ∨ child.paths ≠ binding.paths)
    .invalidSubordinateClaim
  let paths ← normalizeClaimPaths child.paths
  refuseIf (paths ≠ child.paths ∨ inner.subordinateClaims.contains child.token = true)
    .invalidSubordinateClaim
  pure { inner with subordinateClaims := inner.subordinateClaims.insert child.token child }

/-- `SyncCoordinator::from_snapshot_with_subordinates`. -/
def fromSnapshotWithSubordinates (snapshot : SyncSnapshot)
    (bindings : List SubordinateClaimBinding) : Except SyncError Inner := do
  let seen ← bindings.foldlM (checkBinding snapshot.nextToken) ⟨∅, ∅⟩
  let isChild (claim : PathClaim) : Bool := decide (claim.token ∈ seen.childTokens)
  let inner ← fromSnapshot
    { snapshot with claims := snapshot.claims.filter fun claim => !isChild claim }
  let inner ← (snapshot.claims.filter isChild).foldlM (restoreChild bindings) inner
  pure { inner with subordinateBindings := bindings }

/-- The operations that change a coordinator. -/
inductive Operation where
  | claimPaths (agentId : String) (paths : List Path)
  | claimSubordinatePaths (parent : PathClaim) (workerId : String) (paths : List Path)
      (sourceDigest : String)
  | release (token : ℕ)
  | releaseByAgent (agentId : String)

/-- The state a fallible operation leaves: a refusal changes nothing. -/
def stateAfter {ε α : Type} (inner : Inner) : Except ε (α × Inner) → Inner
  | .ok (_, next) => next
  | .error _ => inner

/-- The coordinator after one operation. -/
def step (inner : Inner) : Operation → Inner
  | .claimPaths agentId paths => (claimPaths inner agentId paths).2
  | .claimSubordinatePaths parent workerId paths sourceDigest =>
    stateAfter inner (claimSubordinatePaths inner parent workerId paths sourceDigest)
  | .release token => stateAfter inner (release inner token)
  | .releaseByAgent agentId => stateAfter inner (releaseByAgent inner agentId)

/-- The coordinator after a sequence of operations. -/
def operate (inner : Inner) (operations : List Operation) : Inner := operations.foldl step inner

/-- An operation, or a restore that replaces the coordinator. -/
inductive Event where
  | operation (operation : Operation)
  | fromSnapshot (snapshot : SyncSnapshot)
  | fromSnapshotWithSubordinates (snapshot : SyncSnapshot)
      (bindings : List SubordinateClaimBinding)

/-- The coordinator after one event; a failed restore yields no new coordinator. -/
def advance (inner : Inner) : Event → Inner
  | .operation operation => step inner operation
  | .fromSnapshot snapshot => ((fromSnapshot snapshot).toOption).getD inner
  | .fromSnapshotWithSubordinates snapshot bindings =>
    ((fromSnapshotWithSubordinates snapshot bindings).toOption).getD inner

/-- The coordinator after a sequence of events. -/
def run (inner : Inner) (events : List Event) : Inner := events.foldl advance inner

end Maco.Sync
