import Maco.Publication.Identity
import Maco.Sync.Coordinator

/-!
# The durable claims state and its validators

What the claims store keeps between processes, and everything its opener checks: the bounds on
claims and paths, the coordinator rebuilt from the claims and the retained grants, the run and
remote owners of active claims, and the liveness and supersession metadata. A refusal is the text
of the outermost error. Path texts are measured in the form the components print to.
-/

namespace Maco.SyncStore

open Maco.Base Maco.Sync Maco.Publication

def maxSyncClaims : ℕ := 4096
def maxSyncPaths : ℕ := 16384
def maxAgentIdBytes : ℕ := 128
/-- `MAX_RUN_ID_BYTES` of the claims store. -/
def maxRunIdBytes : ℕ := 128
def maxProcessStartTimeBytes : ℕ := 512
def maxStatePathBytes : ℕ := 4096
def maxStatePathComponents : ℕ := 256
def maxClaimIdBytes : ℕ := 128
def maxClaimTimingSeconds : ℕ := 365 * 24 * 60 * 60
def maxSupersessionLineageDepth : ℕ := 64
def maxSupersessionRecords : ℕ := 1024

structure ClaimTiming where
  heartbeatIntervalSeconds : ℕ
  staleAfterSeconds : ℕ
deriving DecidableEq, Repr

/-- `ClaimTiming::default`. -/
def ClaimTiming.default : ClaimTiming := ⟨12 * 60 * 60, 24 * 60 * 60⟩

/-- `ClaimTiming::validate`. -/
def ClaimTiming.validate (timing : ClaimTiming) : Except String Unit := do
  refuseIf (timing.heartbeatIntervalSeconds = 0 ∨
    maxClaimTimingSeconds < timing.heartbeatIntervalSeconds)
    "claim heartbeat interval must be between 1 and 31536000 seconds"
  refuseIf (timing.staleAfterSeconds = 0 ∨ maxClaimTimingSeconds < timing.staleAfterSeconds)
    "claim stale threshold must be between 1 and 31536000 seconds"
  refuseIf (timing.staleAfterSeconds ≤ timing.heartbeatIntervalSeconds)
    "claim heartbeat interval must be shorter than its stale threshold"

/-- An explicit timing is validated; the default needs no check. -/
def validateTiming : Option ClaimTiming → Except String Unit
  | some timing => timing.validate
  | none => pure ()

structure ClaimProcessIdentity where
  pid : ℕ
  processStartTime : Option String
deriving DecidableEq, Repr

/-- `AuthenticatedClaimRunOwner`. -/
structure ClaimRunOwner where
  token : ℕ
  runId : String
  process : ClaimProcessIdentity
deriving DecidableEq, Repr

/-- `AuthenticatedClaimLiveness`. -/
structure ClaimLiveness where
  token : ℕ
  claimId : String
  createdUnixSeconds : ℕ
  heartbeatUnixSeconds : ℕ
  heartbeatIntervalSeconds : ℕ
  staleAfterSeconds : ℕ
  takeoverEligibleSinceUnixSeconds : Option ℕ
  supersedes : Option String
deriving DecidableEq, Repr

/-- `AuthenticatedClaimSupersession`. -/
structure ClaimSupersession where
  priorToken : ℕ
  priorClaimId : String
  priorAgentId : String
  successorToken : ℕ
  successorClaimId : String
  successorAgentId : String
  pathCount : ℕ
  pathsChecksum : String
  supersededAtUnixSeconds : ℕ
deriving DecidableEq, Repr

/-- `AuthenticatedClaimRemoteOwner`. -/
structure ClaimRemoteOwner where
  token : ℕ
  runIdentity : String
  activationNonce : String
deriving DecidableEq, Repr

/-- `AuthenticatedClaimsState`, over the type of repository bindings. -/
structure ClaimsState (ρ : Type) where
  version : ℕ
  snapshotRevision : ℕ
  repository : ρ
  nextToken : ℕ
  claims : List PathClaim
  subordinateBindings : List SubordinateClaimBinding
  runOwners : List ClaimRunOwner
  liveness : List ClaimLiveness
  supersessions : List ClaimSupersession
  remoteOwners : List ClaimRemoteOwner
deriving DecidableEq, Repr

/-- `validate_state_path`. -/
def validateStatePath (path : Path) : Except String Unit := do
  refuseIf (byteLength (pathText path) = 0 ∨ maxStatePathBytes < byteLength (pathText path))
    "persisted path length must be between 1 and 4096 bytes"
  refuseIf (maxStatePathComponents < path.length) "persisted path exceeds its 256 component budget"
  let _ ← context (normalizeRepoPath path)
    ("persisted path is not repository-relative: " ++ pathText path)
  pure ()

/-- The counters of the loop of `validate_sync_snapshot`. -/
structure SnapshotTally where
  pathCount : ℕ
  maxToken : ℕ

/-- One claim of the loop of `validate_sync_snapshot`. -/
def tallyClaim (tally : SnapshotTally) (claim : PathClaim) : Except String SnapshotTally := do
  refuseIf (maxAgentIdBytes < byteLength claim.agentId) "sync state agent id exceeds 128 bytes"
  let pathCount ← require (checkedAddU64 tally.pathCount claim.paths.length)
    "sync state path count overflow"
  refuseIf (maxSyncPaths < pathCount) "sync state exceeds its aggregate path budget of 16384"
  claim.paths.forM validateStatePath
  pure ⟨pathCount, max tally.maxToken claim.token⟩

/-- `validate_sync_snapshot`. -/
def validateSyncSnapshot (snapshot : SyncSnapshot) : Except String Unit := do
  refuseIf (snapshot.nextToken = 0) "sync state next_token must be nonzero"
  refuseIf (maxSyncClaims < snapshot.claims.length)
    "sync state exceeds its claim budget of 4096 records"
  let tally ← snapshot.claims.foldlM tallyClaim ⟨0, 0⟩
  refuseIf (snapshot.nextToken ≤ tally.maxToken)
    "sync state next_token must be greater than every active claim token"

/-- The owner check of the loop of `coordinator_from_authenticated`: an active subordinate claim
belongs to the run and process of its parent. -/
def checkReservationOwners {ρ : Type} (value : ClaimsState ρ) (binding : SubordinateClaimBinding) :
    Except String Unit :=
  if value.claims.any fun claim => claim.token == binding.childToken then do
    let parent ← require (value.runOwners.find? fun owner => owner.token == binding.parentToken)
      "active subordinate claim has no authenticated parent run owner"
    let child ← require (value.runOwners.find? fun owner => owner.token == binding.childToken)
      "active subordinate claim has no authenticated Worker run owner"
    refuseIf (child.runId ≠ parent.runId ∨ child.process ≠ parent.process)
      "subordinate claim belongs to a different run or process than its parent"
  else pure ()

/-- One retained grant of the loop of `coordinator_from_authenticated`. -/
def checkReservation {ρ : Type} (value : ClaimsState ρ) (reservedPaths : ℕ)
    (binding : SubordinateClaimBinding) : Except String ℕ := do
  refuseIf (maxAgentIdBytes < byteLength binding.workerId)
    "subordinate Worker ID exceeds the authenticated claim bound"
  let reservedPaths ← require (checkedAddU64 reservedPaths binding.paths.length)
    "subordinate reserved scope count overflow"
  refuseIf (maxSyncPaths < reservedPaths)
    "subordinate reservation history exceeds its bounded scope inventory"
  binding.paths.forM validateStatePath
  checkReservationOwners value binding
  pure reservedPaths

/-- `coordinator_from_authenticated`. -/
def coordinatorFromAuthenticated {ρ : Type} (value : ClaimsState ρ) : Except String Inner := do
  let snapshot : SyncSnapshot := ⟨value.nextToken, value.claims⟩
  validateSyncSnapshot snapshot
  refuseIf (maxSyncClaims < value.subordinateBindings.length)
    "authenticated subordinate reservation history exceeds its bounded inventory"
  let _ ← value.subordinateBindings.foldlM (checkReservation value) 0
  (fromSnapshotWithSubordinates snapshot value.subordinateBindings).mapError SyncError.message

/-- One owner of the loop of `validate_claim_remote_owners`. -/
def checkRemoteOwner (activeTokens seen : BTreeSet ℕ) (owner : ClaimRemoteOwner) :
    Except String (BTreeSet ℕ) := do
  refuseIf (owner.token ∉ activeTokens)
    ("authenticated remote owner references inactive claim token " ++ toString owner.token)
  refuseIf (owner.token ∈ seen)
    ("authenticated claim token " ++ toString owner.token ++ " has duplicate remote owners")
  let _ ← context (CoordinationOwnerIdentity.new owner.runIdentity owner.activationNonce)
    "authenticated remote owner identity is invalid"
  pure (seen.insert owner.token)

/-- `validate_claim_remote_owners`. -/
def validateClaimRemoteOwners (claims : List PathClaim) (remoteOwners : List ClaimRemoteOwner) :
    Except String Unit := do
  refuseIf (claims.length < remoteOwners.length)
    "authenticated remote-owner count exceeds active claim count"
  let _ ← remoteOwners.foldlM (checkRemoteOwner (BTreeSet.ofList (claims.map PathClaim.token))) ∅
  pure ()

/-- A recorded process start time that the store refuses. -/
def invalidStartTime (value : String) : Bool :=
  value == "" || decide (maxProcessStartTimeBytes < byteLength value) || value.toList.any isControl

/-- One owner of the loop of `validate_claim_run_owners`. -/
def checkRunOwner (activeTokens seen : BTreeSet ℕ) (owner : ClaimRunOwner) :
    Except String (BTreeSet ℕ) := do
  refuseIf (owner.token ∉ activeTokens)
    ("authenticated run owner references inactive claim token " ++ toString owner.token)
  refuseIf (owner.token ∈ seen)
    ("authenticated claim token " ++ toString owner.token ++ " has duplicate run owners")
  refuseIf (maxRunIdBytes < byteLength owner.runId)
    "authenticated claim run id exceeds 128 bytes"
  let _ ← context (runIdNew owner.runId) "authenticated claim run id is invalid"
  refuseIf (owner.process.pid = 0) "authenticated claim run owner contains PID 0"
  refuseIf (owner.process.processStartTime.any invalidStartTime)
    "authenticated claim process start-time identity is invalid"
  pure (seen.insert owner.token)

/-- `validate_claim_run_owners`. -/
def validateClaimRunOwners (claims : List PathClaim) (runOwners : List ClaimRunOwner) :
    Except String Unit := do
  refuseIf (claims.length < runOwners.length)
    "authenticated claim run-owner count exceeds active claim count"
  let _ ← runOwners.foldlM (checkRunOwner (BTreeSet.ofList (claims.map PathClaim.token))) ∅
  pure ()

end Maco.SyncStore
