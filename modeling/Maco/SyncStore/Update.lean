import Maco.Base.Sequence
import Maco.SyncStore.Liveness

/-!
# Durable claims updates

The operations of the claims store, as the closures that `with_locked_update` runs on the opened
coordinator and metadata, and `with_locked_update` itself: open and validate the store, run the
closure, check what it left, and commit. A commit is durable before the store is validated again,
so the durable snapshot is returned beside the result. The clock, the process table and the
checksum of a path list are parameters.
-/

namespace Maco.SyncStore

open Maco.Base Maco.Sync Maco.Publication

variable {ρ α : Type}

/-- `AuthenticatedSnapshot` of the claims state. -/
structure StoredSnapshot (ρ : Type) where
  generation : ℕ
  token : ℕ
  value : ClaimsState ρ
deriving DecidableEq, Repr

/-- `validate_authenticated_store`, for a store bound to a repository. -/
def validateAuthenticatedStore [DecidableEq ρ] (checksum : List Path → Except String String)
    (repository : ρ) (snapshot : StoredSnapshot ρ) : Except String Unit := do
  let value := snapshot.value
  refuseIf (value.version ≠ 1 ∨ value.snapshotRevision ≠ snapshot.generation ∨
    value.snapshotRevision ≠ snapshot.token ∨ value.repository ≠ repository)
    "authenticated claims snapshot binding or revision is inconsistent"
  let _ ← coordinatorFromAuthenticated value
  validateClaimRunOwners value.claims value.runOwners
  validateClaimRemoteOwners value.claims value.remoteOwners
  validateClaimLiveness checksum value.nextToken value.claims value.liveness value.supersessions

/-- What the closure of `with_locked_update` may change. -/
structure Working where
  coordinator : Inner
  runOwners : List ClaimRunOwner
  liveness : List ClaimLiveness
  supersessions : List ClaimSupersession
  remoteOwners : List ClaimRemoteOwner

inductive ClaimProcessLiveness where
  | live
  | interrupted
  | unknown
deriving DecidableEq, Repr

/-- The `Debug` text of a `ClaimProcessLiveness`. -/
def ClaimProcessLiveness.text : ClaimProcessLiveness → String
  | .live => "Live"
  | .interrupted => "Interrupted"
  | .unknown => "Unknown"

/-- `ClaimProcessLivenessObservation`, with the diagnostic label of its reason. -/
structure ProcessObservation where
  liveness : ClaimProcessLiveness
  reasonLabel : String

/-- Both parts of a start token are nonempty runs of digits. -/
def validTokenShape : Option (String × String) → Bool
  | none => false
  | some (before, after) =>
    before != "" && after != "" && allChars isAsciiDigit before && allChars isAsciiDigit after

/-- The refusal of a subordinate claim whose parent belongs to another process. -/
def processMismatchText (recorded captured : ClaimProcessIdentity) : String :=
  let recordedParts := recorded.processStartTime.bind (splitOnce · ':')
  let capturedParts := captured.processStartTime.bind (splitOnce · ':')
  let valid := validTokenShape recordedParts && validTokenShape capturedParts
  let prefixEqual := valid && recordedParts.map Prod.fst == capturedParts.map Prod.fst
  let suffixEqual := valid && recordedParts.map Prod.snd == capturedParts.map Prod.snd
  "subordinate parent claim is not owned by this exact live run process; guard=process_mismatch" ++
    ", pid_match=" ++ toString (recorded.pid == captured.pid) ++
    ", recorded_start_present=" ++ toString recorded.processStartTime.isSome ++
    ", captured_start_present=" ++ toString captured.processStartTime.isSome ++
    ", recorded_shape_valid=" ++ toString (validTokenShape recordedParts) ++
    ", captured_shape_valid=" ++ toString (validTokenShape capturedParts) ++
    ", prefix_equal=" ++ toString prefixEqual ++ ", suffix_equal=" ++ toString suffixEqual

/-- The claim an operation of the coordinator returns, with the state it leaves. -/
def claimInCoordinator (coordinator : Inner) (agentId : String) (paths : List Path) :
    Except String (PathClaim × Inner) :=
  match claimPaths coordinator agentId paths with
  | (.ok claim, next) => .ok (claim, next)
  | (.error refusal, _) => .error refusal.message

/-- The update of `claim_paths_with_telemetry_thresholds_internal`. -/
def claimUpdate (agentId : String) (paths : List Path) (timing : ClaimTiming) (now : ℕ)
    (runOwner : Option (String × ClaimProcessIdentity)) (working : Working) :
    Except String (PathClaim × Working) := do
  timing.validate
  ensureUnambiguousLiveness (allClaims working.coordinator) working.liveness
    working.supersessions now
  let (claim, coordinator) ← claimInCoordinator working.coordinator agentId paths
  let entry ← newClaimLiveness claim timing now none
  let owners := match runOwner with
    | some (runId, process) => [⟨claim.token, runId, process⟩]
    | none => []
  pure (claim, { working with
    coordinator
    liveness := working.liveness ++ [entry]
    runOwners := working.runOwners ++ owners })

/-- The update of `claim_subordinate_paths_for_run`. -/
def claimSubordinateUpdate (observe : ClaimProcessIdentity → ProcessObservation)
    (process : ClaimProcessIdentity) (run : String) (parent : PathClaim) (workerId : String)
    (paths : List Path) (sourceDigest : String) (now : ℕ) (working : Working) :
    Except String (PathClaim × Working) := do
  let claims := allClaims working.coordinator
  ensureUnambiguousLiveness claims working.liveness working.supersessions now
  let owner ← require (working.runOwners.find? fun owner => owner.token == parent.token)
    "subordinate claims require an authenticated parent run owner"
  refuseIf (owner.runId ≠ run) ("subordinate parent claim is not owned by this exact live run " ++
    "process; guard=run_mismatch")
  refuseIf (owner.process ≠ process) (processMismatchText owner.process process)
  refuseIf ((observe owner.process).liveness ≠ .live)
    ("subordinate parent claim is not owned by " ++
    "this exact live run process; guard=liveness, classification=" ++
    (observe owner.process).liveness.text ++ ", reason=" ++ (observe owner.process).reasonLabel)
  refuseIf (parent ∉ claims) ("subordinate parent claim is not owned by this exact live run " ++
    "process; guard=parent_claim_missing")
  refuseIf (maxSyncClaims ≤ working.coordinator.subordinateBindings.length)
    "subordinate reservation history exceeds the authenticated claim bound"
  let (claim, coordinator) ← (claimSubordinatePaths working.coordinator parent workerId paths
    sourceDigest).mapError SyncError.message
  let entry ← newClaimLiveness claim ClaimTiming.default now none
  pure (claim, { working with
    coordinator
    runOwners := working.runOwners ++ [⟨claim.token, run, process⟩]
    liveness := working.liveness ++ [entry] })

/-- The update of `release`. -/
def releaseUpdate (token : ℕ) (working : Working) : Except String (PathClaim × Working) := do
  let remoteOwners := working.remoteOwners.filter fun owner => owner.token != token
  let (released, coordinator) ← (release working.coordinator token).mapError SyncError.message
  pure (released, { working with coordinator, remoteOwners })

/-- The update of `release_by_agent`. -/
def releaseByAgentUpdate (agentId : String) (working : Working) :
    Except String (List PathClaim × Working) := do
  let (released, coordinator) ←
    (releaseByAgent working.coordinator agentId).mapError SyncError.message
  let releasedTokens := released.map PathClaim.token
  pure (released, { working with
    coordinator
    remoteOwners := working.remoteOwners.filter fun owner =>
      !decide (owner.token ∈ releasedTokens) })

/-- Replace the first item that passes a test. -/
def replaceFirst (test : α → Bool) (item : α) : List α → List α
  | [] => []
  | first :: rest => if test first then item :: rest else first :: replaceFirst test item rest

/-- The liveness record of a claim after a heartbeat. -/
def heartbeatEntry (timing : Option ClaimTiming) (now : ℕ) (entry : ClaimLiveness) :
    Except String ClaimLiveness := do
  refuseIf (entry.takeoverEligibleSinceUnixSeconds.isSome = true) ("claim '" ++ entry.claimId ++
    "' is takeover-eligible and cannot be revived by heartbeat; release or take it over explicitly")
  refuseIf (now < entry.heartbeatUnixSeconds) ("claim '" ++ entry.claimId ++
    "' heartbeat would move backward from " ++ toString entry.heartbeatUnixSeconds ++ " to " ++
    toString now ++ "; refusing ambiguous clock state")
  let entry := match timing with
    | some timing => { entry with
        heartbeatIntervalSeconds := timing.heartbeatIntervalSeconds
        staleAfterSeconds := timing.staleAfterSeconds }
    | none => entry
  pure { entry with heartbeatUnixSeconds := now }

/-- The liveness records after a heartbeat of a claim; a claim without a record gets one. -/
def heartbeatLiveness (claim : PathClaim) (timing : Option ClaimTiming) (now : ℕ)
    (liveness : List ClaimLiveness) : Except String (List ClaimLiveness) :=
  match liveness.find? fun entry => entry.token == claim.token with
  | some entry => do
    let entry ← heartbeatEntry timing now entry
    pure (replaceFirst (fun other => other.token == claim.token) entry liveness)
  | none => do
    let entry ← newClaimLiveness claim (timing.getD ClaimTiming.default) now none
    pure (liveness ++ [entry])

/-- The update of `heartbeat_at`. -/
def heartbeatUpdate (token : ℕ) (agentId : String) (timing : Option ClaimTiming) (now : ℕ)
    (working : Working) : Except String (ClaimLivenessReport × Working) := do
  validateTiming timing
  ensureSupersessionTimeNotFuture working.supersessions now
  let claim ← require ((allClaims working.coordinator).find? fun claim => claim.token == token)
    ("claim token is not active: " ++ toString token)
  refuseIf (claim.agentId ≠ agentId) ("claim heartbeat agent '" ++ agentId ++
    "' does not exactly match owner '" ++ claim.agentId ++ "'")
  let liveness ← heartbeatLiveness claim timing now working.liveness
  let entry ← require (liveness.find? fun entry => entry.token == token)
    "claim heartbeat metadata disappeared during update"
  let report ← claimLivenessReport claim (some entry) now
  pure (report, { working with liveness })

structure ClaimSweepReport where
  nowUnixSeconds : ℕ
  newlyTakeoverEligible : List String
  claims : List ClaimLivenessReport

/-- A liveness record that a sweep marks takeover-eligible. -/
def sweepMarks (now : ℕ) (entry : ClaimLiveness) : Bool :=
  decide (entry.staleAfterSeconds ≤ now - entry.heartbeatUnixSeconds) &&
    entry.takeoverEligibleSinceUnixSeconds.isNone

/-- The update of `sweep_stale_at`. -/
def sweepUpdate (now : ℕ) (working : Working) : Except String (ClaimSweepReport × Working) := do
  let claims := allClaims working.coordinator
  ensureUnambiguousLiveness claims working.liveness working.supersessions now
  let liveness := working.liveness.map fun entry =>
    if sweepMarks now entry then { entry with takeoverEligibleSinceUnixSeconds := some now }
    else entry
  let newly := (working.liveness.filter (sweepMarks now)).map ClaimLiveness.claimId
  let reports ← claims.mapM fun claim =>
    claimLivenessReport claim (livenessByToken liveness)[claim.token]? now
  pure (⟨now, newly.insertionSort (· ≤ ·), reports⟩, { working with liveness })

/-- `ClaimTakeoverOutcome`, without the telemetry warnings added after the update. -/
structure ClaimTakeoverOutcome where
  supersededClaim : PathClaim
  claim : PathClaim
  liveness : ClaimLivenessReport
  lineage : ClaimSupersession

/-- The update of `takeover_at`. The remote successor is the owner binding a remote takeover made
before it returned. -/
def takeoverUpdate (checksum : List Path → Except String String) (priorToken : ℕ)
    (agentId : String) (timing : Option ClaimTiming) (now : ℕ)
    (remoteSuccessor : Option CoordinationOwnerIdentity) (working : Working) :
    Except String (ClaimTakeoverOutcome × Working) := do
  validateTiming timing
  let claims := allClaims working.coordinator
  ensureUnambiguousLiveness claims working.liveness working.supersessions now
  let priorClaim ← require (claims.find? fun claim => claim.token == priorToken)
    ("claim token is not active: " ++ toString priorToken)
  let priorLiveness ← require (working.liveness.find? fun entry => entry.token == priorToken)
    "active predecessor claim has ambiguous liveness metadata"
  let priorReport ← claimLivenessReport priorClaim (some priorLiveness) now
  refuseIf (priorReport.state ≠ .takeoverEligible) ("claim '" ++ priorLiveness.claimId ++
    "' is not takeover-eligible (state: " ++ priorReport.state.text ++ ")")
  refuseIf (maxSupersessionRecords ≤ working.supersessions.length)
    "claim supersession history reached its 1024 record bound"
  let lineageDepth ← supersessionLineageDepth priorLiveness.claimId working.supersessions
  refuseIf (maxSupersessionLineageDepth ≤ lineageDepth)
    "claim supersession lineage reached its 64-claim depth bound"
  let successorTiming := timing.getD
    ⟨priorLiveness.heartbeatIntervalSeconds, priorLiveness.staleAfterSeconds⟩
  successorTiming.validate
  let pathsChecksum ← checksum priorClaim.paths
  let (superseded, coordinator) ←
    (release working.coordinator priorToken).mapError SyncError.message
  let (claim, coordinator) ← claimInCoordinator coordinator agentId superseded.paths
  let successorLiveness ← newClaimLiveness claim successorTiming now (some priorLiveness.claimId)
  let lineage : ClaimSupersession := {
    priorToken
    priorClaimId := priorLiveness.claimId
    priorAgentId := superseded.agentId
    successorToken := claim.token
    successorClaimId := successorLiveness.claimId
    successorAgentId := claim.agentId
    pathCount := priorClaim.paths.length
    pathsChecksum
    supersededAtUnixSeconds := now }
  let remoteOwners := match remoteSuccessor with
    | some owner => working.remoteOwners.filter (fun other => other.token != priorToken) ++
        [⟨claim.token, owner.runIdentity, owner.activationNonce⟩]
    | none => working.remoteOwners
  let report ← claimLivenessReport claim (some successorLiveness) now
  pure (⟨superseded, claim, report, lineage⟩, { working with
    coordinator
    liveness := working.liveness ++ [successorLiveness]
    supersessions := working.supersessions ++ [lineage]
    remoteOwners })

/-- The part of `with_locked_update` between the closure and the commit: the metadata is cut to the
active claims and sorted, and checked together with the claims. -/
def settleUpdate (checksum : List Path → Except String String) (value : ClaimsState ρ)
    (working : Working) : Except String (ClaimsState ρ) := do
  let snapshot := toSnapshot working.coordinator
  validateSyncSnapshot snapshot
  let activeTokens := BTreeSet.ofList (snapshot.claims.map PathClaim.token)
  let runOwners := sortBy ClaimRunOwner.token
    (working.runOwners.filter fun owner => decide (owner.token ∈ activeTokens))
  let liveness := sortBy ClaimLiveness.token
    (working.liveness.filter fun entry => decide (entry.token ∈ activeTokens))
  let remoteOwners := sortBy ClaimRemoteOwner.token
    (working.remoteOwners.filter fun owner => decide (owner.token ∈ activeTokens))
  let supersessions := sortBy ClaimSupersession.successorToken working.supersessions
  validateClaimRunOwners snapshot.claims runOwners
  validateClaimRemoteOwners snapshot.claims remoteOwners
  validateClaimLiveness checksum snapshot.nextToken snapshot.claims liveness supersessions
  pure { value with
    nextToken := snapshot.nextToken
    claims := snapshot.claims
    subordinateBindings := working.coordinator.subordinateBindings
    runOwners, liveness, supersessions, remoteOwners }

/-- `AuthenticatedSnapshotStore::commit` and `rollover`: the next generation of the store. -/
def commit (snapshot : StoredSnapshot ρ) (token : ℕ) (value : ClaimsState ρ) :
    Except String (StoredSnapshot ρ) := do
  refuseIf (token ≤ snapshot.token) "authenticated snapshot token must increase monotonically"
  let generation ← require (checkedAddU64 snapshot.generation 1)
    "authenticated snapshot generation overflowed"
  pure ⟨generation, token, value⟩

/-- `with_locked_update` up to the commit: the closure's output, and the snapshot that is durable
afterwards. An update that changes nothing commits nothing. -/
def commitUpdate [DecidableEq ρ] (checksum : List Path → Except String String) (repository : ρ)
    (snapshot : StoredSnapshot ρ) (operation : Working → Except String (α × Working)) :
    Except String (α × StoredSnapshot ρ) := do
  validateAuthenticatedStore checksum repository snapshot
  let value := snapshot.value
  let coordinator ← coordinatorFromAuthenticated value
  let (output, working) ← operation
    ⟨coordinator, value.runOwners, value.liveness, value.supersessions, value.remoteOwners⟩
  let settled ← settleUpdate checksum value working
  if settled = value then pure (output, snapshot)
  else do
    let revision ← require (checkedAddU64 value.snapshotRevision 1)
      "authenticated claims snapshot revision exhausted"
    let committed ← commit snapshot revision
      { settled with version := 1, snapshotRevision := revision }
    pure (output, committed)

/-- `with_locked_update`: the durable snapshot, and the result, which a failed validation of the
committed snapshot turns into an error. -/
def withLockedUpdate [DecidableEq ρ] (checksum : List Path → Except String String) (repository : ρ)
    (snapshot : StoredSnapshot ρ) (operation : Working → Except String (α × Working)) :
    StoredSnapshot ρ × Except String α :=
  match commitUpdate checksum repository snapshot operation with
  | .error refusal => (snapshot, .error refusal)
  | .ok (output, committed) =>
    (committed, (validateAuthenticatedStore checksum repository committed).map fun _ => output)

/-- What the store asks of its host: a checksum of path lists and a look at the process table. -/
structure Host where
  checksum : List Path → Except String String
  observe : ClaimProcessIdentity → ProcessObservation

/-- The durable updates. -/
inductive Update where
  | claim (agentId : String) (paths : List Path) (timing : ClaimTiming) (now : ℕ)
      (runOwner : Option (String × ClaimProcessIdentity))
  | claimSubordinate (process : ClaimProcessIdentity) (run : String) (parent : PathClaim)
      (workerId : String) (paths : List Path) (sourceDigest : String) (now : ℕ)
  | release (token : ℕ)
  | releaseByAgent (agentId : String)
  | heartbeat (token : ℕ) (agentId : String) (timing : Option ClaimTiming) (now : ℕ)
  | sweep (now : ℕ)
  | takeover (priorToken : ℕ) (agentId : String) (timing : Option ClaimTiming) (now : ℕ)
      (remoteSuccessor : Option CoordinationOwnerIdentity)

/-- The working state an update leaves. -/
def Update.apply (host : Host) (working : Working) : Update → Except String Working
  | .claim agentId paths timing now runOwner =>
    (claimUpdate agentId paths timing now runOwner working).map Prod.snd
  | .claimSubordinate process run parent workerId paths sourceDigest now =>
    (claimSubordinateUpdate host.observe process run parent workerId paths sourceDigest now
      working).map Prod.snd
  | .release token => (releaseUpdate token working).map Prod.snd
  | .releaseByAgent agentId => (releaseByAgentUpdate agentId working).map Prod.snd
  | .heartbeat token agentId timing now =>
    (heartbeatUpdate token agentId timing now working).map Prod.snd
  | .sweep now => (sweepUpdate now working).map Prod.snd
  | .takeover priorToken agentId timing now remoteSuccessor =>
    (takeoverUpdate host.checksum priorToken agentId timing now remoteSuccessor working).map
      Prod.snd

/-- The closure an update passes to `with_locked_update`, without its output. -/
def Update.operation (host : Host) (update : Update) (working : Working) :
    Except String (Unit × Working) :=
  (update.apply host working).map fun next => ((), next)

end Maco.SyncStore
