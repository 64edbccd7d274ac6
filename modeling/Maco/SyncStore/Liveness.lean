import Maco.SyncStore.State

/-!
# Claim liveness and supersession metadata

The liveness record kept for an active claim, the report that classifies it at a given time, and
the validator of liveness and supersession history. The checksum of a path list is a parameter: it
hashes a serialization made outside this repository.
-/

namespace Maco.SyncStore

open Maco.Base Maco.Sync Maco.Publication

/-- `canonical_claim_id`. -/
def canonicalClaimId (token : ℕ) : String := "claim-" ++ zeroPadded 20 token

/-- `validate_claim_id`. -/
def validateClaimId (claimId : String) : Except String Unit := do
  refuseIf (claimId = "" ∨ maxClaimIdBytes < byteLength claimId)
    "claim id must be between 1 and 128 bytes"
  refuseIf (allChars isNameChar claimId = false) "claim id contains unsupported characters"

/-- `validate_lineage_agent_id`. -/
def validateLineageAgentId (agentId : String) : Except String Unit := do
  refuseIf (agentId = "" ∨ maxAgentIdBytes < byteLength agentId)
    "claim lineage agent id has an invalid length"
  refuseIf (allChars isNameChar agentId = false)
    "claim lineage agent id contains unsupported characters"

/-- `new_claim_liveness`. -/
def newClaimLiveness (claim : PathClaim) (timing : ClaimTiming) (now : ℕ)
    (supersedes : Option String) : Except String ClaimLiveness := do
  timing.validate
  refuseIf (supersedes.any fun claimId => !(validateClaimId claimId).isOk)
    "superseded claim id is invalid"
  pure {
    token := claim.token
    claimId := canonicalClaimId claim.token
    createdUnixSeconds := now
    heartbeatUnixSeconds := now
    heartbeatIntervalSeconds := timing.heartbeatIntervalSeconds
    staleAfterSeconds := timing.staleAfterSeconds
    takeoverEligibleSinceUnixSeconds := none
    supersedes }

inductive ClaimLivenessState where
  | fresh
  | heartbeatDue
  | stale
  | takeoverEligible
  | unknown
deriving DecidableEq, Repr

/-- The `Debug` text of a `ClaimLivenessState`. -/
def ClaimLivenessState.text : ClaimLivenessState → String
  | .fresh => "Fresh"
  | .heartbeatDue => "HeartbeatDue"
  | .stale => "Stale"
  | .takeoverEligible => "TakeoverEligible"
  | .unknown => "Unknown"

structure ClaimLivenessReport where
  claim : PathClaim
  claimId : String
  state : ClaimLivenessState
  ambiguity : Option String
  createdUnixSeconds : Option ℕ
  heartbeatUnixSeconds : Option ℕ
  heartbeatIntervalSeconds : Option ℕ
  staleAfterSeconds : Option ℕ
  takeoverEligibleSinceUnixSeconds : Option ℕ
  supersedes : Option String
deriving DecidableEq, Repr

/-- The state and the ambiguity that `claim_liveness_report` assigns to a liveness record. -/
def classifyLiveness (liveness : ClaimLiveness) (now : ℕ) : ClaimLivenessState × Option String :=
  if now < liveness.heartbeatUnixSeconds then
    (.unknown, some ("observed time " ++ toString now ++ " precedes heartbeat " ++
      toString liveness.heartbeatUnixSeconds))
  else match liveness.takeoverEligibleSinceUnixSeconds with
    | some eligibleSince =>
      if now < eligibleSince then
        (.unknown, some ("observed time " ++ toString now ++ " precedes takeover eligibility " ++
          toString eligibleSince))
      else (.takeoverEligible, none)
    | none =>
      let age := now - liveness.heartbeatUnixSeconds
      if liveness.staleAfterSeconds ≤ age then (.stale, none)
      else if liveness.heartbeatIntervalSeconds ≤ age then (.heartbeatDue, none)
      else (.fresh, none)

/-- `claim_liveness_report`. -/
def claimLivenessReport (claim : PathClaim) (liveness : Option ClaimLiveness) (now : ℕ) :
    Except String ClaimLivenessReport :=
  match liveness with
  | none =>
    pure ⟨claim, canonicalClaimId claim.token, .unknown,
      some ("authenticated claim predates liveness metadata; exact-owner heartbeat or explicit " ++
        "release is required"), none, none, none, none, none, none⟩
  | some liveness => do
    refuseIf (liveness.token ≠ claim.token)
      "claim liveness metadata token does not match its claim"
    let (state, ambiguity) := classifyLiveness liveness now
    pure {
      claim
      claimId := liveness.claimId
      state
      ambiguity
      createdUnixSeconds := some liveness.createdUnixSeconds
      heartbeatUnixSeconds := some liveness.heartbeatUnixSeconds
      heartbeatIntervalSeconds := some liveness.heartbeatIntervalSeconds
      staleAfterSeconds := some liveness.staleAfterSeconds
      takeoverEligibleSinceUnixSeconds := liveness.takeoverEligibleSinceUnixSeconds
      supersedes := liveness.supersedes }

/-- `ensure_supersession_time_not_future`. -/
def ensureSupersessionTimeNotFuture (supersessions : List ClaimSupersession) (now : ℕ) :
    Except String Unit :=
  match supersessions.find? fun entry => now < entry.supersededAtUnixSeconds with
  | some future => .error ("claim supersession '" ++ future.successorClaimId ++
      "' has future timestamp " ++ toString future.supersededAtUnixSeconds ++
      "; observed time is " ++ toString now ++ "; refusing ambiguous clock state")
  | none => .ok ()

/-- The liveness records by token. -/
def livenessByToken (liveness : List ClaimLiveness) : BTreeMap ℕ ClaimLiveness :=
  BTreeMap.ofList (liveness.map fun entry => (entry.token, entry))

/-- `ensure_unambiguous_liveness`. -/
def ensureUnambiguousLiveness (claims : List PathClaim) (liveness : List ClaimLiveness)
    (supersessions : List ClaimSupersession) (now : ℕ) : Except String Unit := do
  ensureSupersessionTimeNotFuture supersessions now
  claims.forM fun claim => do
    let report ← claimLivenessReport claim (livenessByToken liveness)[claim.token]? now
    refuseIf (report.state = .unknown) ("claim '" ++ report.claimId ++
      "' has ambiguous liveness: " ++ report.ambiguity.getD "unknown reason")

/-- The loop of `supersession_lineage_depth`. The budget counts down what the depth bound leaves,
so it is spent exactly when the depth passes the bound. -/
def lineageWalk (bySuccessor : BTreeMap String ClaimSupersession) (budget : ℕ)
    (seen : BTreeSet String) (current : String) (depth : ℕ) : Except String ℕ :=
  match bySuccessor[current]? with
  | none => .ok depth
  | some entry =>
    if current ∈ seen then .error "claim supersession lineage contains a cycle"
    else match budget with
      | 0 => .error "claim supersession lineage exceeds its 64-claim depth bound"
      | budget + 1 =>
        lineageWalk bySuccessor budget (seen.insert current) entry.priorClaimId (depth + 1)

/-- `supersession_lineage_depth`. -/
def supersessionLineageDepth (claimId : String) (supersessions : List ClaimSupersession) :
    Except String ℕ :=
  lineageWalk (BTreeMap.ofList (supersessions.map fun entry => (entry.successorClaimId, entry)))
    maxSupersessionLineageDepth ∅ claimId 0

/-- A recorded takeover eligibility lies at least the stale threshold after the last heartbeat. -/
def checkEligibility (entry : ClaimLiveness) : Except String Unit :=
  match entry.takeoverEligibleSinceUnixSeconds with
  | none => pure ()
  | some eligible => do
    refuseIf (eligible < entry.heartbeatUnixSeconds)
      "authenticated claim eligibility predates its last heartbeat"
    refuseIf (eligible - entry.heartbeatUnixSeconds < entry.staleAfterSeconds)
      "authenticated claim eligibility was recorded before the stale threshold"

/-- A recorded predecessor is a claim id other than the claim's own. -/
def checkSupersedes (entry : ClaimLiveness) : Except String Unit :=
  match entry.supersedes with
  | none => pure ()
  | some supersedes => do
    validateClaimId supersedes
    refuseIf (supersedes = entry.claimId) "authenticated claim cannot supersede itself"

/-- One record of the first loop of `validate_claim_liveness`. -/
def checkLivenessEntry (activeClaims : BTreeMap ℕ PathClaim)
    (activeLiveness : BTreeMap ℕ ClaimLiveness) (entry : ClaimLiveness) :
    Except String (BTreeMap ℕ ClaimLiveness) := do
  refuseIf (activeClaims.contains entry.token = false)
    ("authenticated liveness references inactive claim token " ++ toString entry.token)
  refuseIf (activeLiveness.contains entry.token = true) ("authenticated claim token " ++
    toString entry.token ++ " has duplicate liveness metadata")
  validateClaimId entry.claimId
  refuseIf (entry.claimId ≠ canonicalClaimId entry.token)
    "authenticated claim id is not canonical for its token"
  ClaimTiming.validate ⟨entry.heartbeatIntervalSeconds, entry.staleAfterSeconds⟩
  refuseIf (entry.heartbeatUnixSeconds < entry.createdUnixSeconds)
    "authenticated claim heartbeat predates claim creation"
  checkEligibility entry
  checkSupersedes entry
  pure (activeLiveness.insert entry.token entry)

/-- The maps the second loop of `validate_claim_liveness` fills. -/
structure SupersessionMaps where
  byPrior : BTreeMap ℕ ClaimSupersession
  bySuccessor : BTreeMap ℕ ClaimSupersession

/-- One record of the second loop of `validate_claim_liveness`. -/
def checkSupersession (nextToken : ℕ) (activeClaims : BTreeMap ℕ PathClaim)
    (maps : SupersessionMaps) (entry : ClaimSupersession) : Except String SupersessionMaps := do
  refuseIf (entry.priorToken = 0 ∨ entry.successorToken = 0)
    "authenticated claim supersession contains token zero"
  refuseIf (entry.successorToken ≤ entry.priorToken)
    "authenticated claim supersession tokens are not monotonic"
  refuseIf (nextToken ≤ entry.priorToken ∨ nextToken ≤ entry.successorToken)
    "authenticated claim supersession token reaches or exceeds next_token"
  refuseIf (activeClaims.contains entry.priorToken = true)
    "authenticated supersession predecessor remains active"
  validateClaimId entry.priorClaimId
  validateClaimId entry.successorClaimId
  refuseIf (entry.priorClaimId ≠ canonicalClaimId entry.priorToken ∨
    entry.successorClaimId ≠ canonicalClaimId entry.successorToken)
    "authenticated claim supersession contains a noncanonical claim id"
  validateLineageAgentId entry.priorAgentId
  validateLineageAgentId entry.successorAgentId
  refuseIf (entry.pathCount = 0 ∨ maxSyncPaths < entry.pathCount)
    "authenticated claim supersession path count is out of bounds"
  refuseIf (validSourceDigest entry.pathsChecksum = false)
    "authenticated claim supersession path checksum is invalid"
  refuseIf (maps.byPrior.contains entry.priorToken = true)
    "authenticated claim was superseded more than once"
  refuseIf (maps.bySuccessor.contains entry.successorToken = true)
    "authenticated claim successor has more than one predecessor"
  pure ⟨maps.byPrior.insert entry.priorToken entry,
    maps.bySuccessor.insert entry.successorToken entry⟩

/-- A supersession continues the one that made its predecessor: same owner and scope, later. -/
def checkContinuation (previous : Option ClaimSupersession) (entry : ClaimSupersession) :
    Except String Unit :=
  match previous with
  | none => pure ()
  | some previous => do
    refuseIf (entry.supersededAtUnixSeconds < previous.supersededAtUnixSeconds)
      "authenticated claim supersession time moved backward"
    refuseIf (previous.successorClaimId ≠ entry.priorClaimId ∨
      previous.successorAgentId ≠ entry.priorAgentId ∨ previous.pathCount ≠ entry.pathCount ∨
      previous.pathsChecksum ≠ entry.pathsChecksum)
      "authenticated claim supersession lineage changed owner or scope"

/-- One record of the third loop of `validate_claim_liveness`. -/
def checkLineage (activeClaims : BTreeMap ℕ PathClaim)
    (activeLiveness : BTreeMap ℕ ClaimLiveness) (bySuccessor : BTreeMap ℕ ClaimSupersession)
    (supersessions : List ClaimSupersession) (entry : ClaimSupersession) : Except String Unit := do
  checkContinuation bySuccessor[entry.priorToken]? entry
  let _ ← supersessionLineageDepth entry.successorClaimId supersessions
  refuseIf (activeClaims.contains entry.successorToken = true ∧
    activeLiveness.contains entry.successorToken = false)
    "active successor claim is missing its audited liveness metadata"

/-- One record of the last loop of `validate_claim_liveness`. -/
def checkSuccessor (checksum : List Path → Except String String)
    (activeClaims : BTreeMap ℕ PathClaim) (bySuccessor : BTreeMap ℕ ClaimSupersession)
    (entry : ℕ × ClaimLiveness) : Except String Unit :=
  match entry.2.supersedes, bySuccessor[entry.1]? with
  | none, none => pure ()
  | some prior, some lineage =>
    if prior = lineage.priorClaimId then do
      let claim ← require activeClaims[entry.1]?
        "active liveness lost its claim during validation"
      refuseIf (claim.agentId ≠ lineage.successorAgentId ∨ claim.paths.length ≠ lineage.pathCount)
        "active successor claim no longer matches its audited lineage"
      let pathsChecksum ← checksum claim.paths
      refuseIf (pathsChecksum ≠ lineage.pathsChecksum ∨
        entry.2.createdUnixSeconds ≠ lineage.supersededAtUnixSeconds)
        "active successor claim no longer matches its audited lineage"
    else throw "active successor claim lineage metadata is inconsistent"
  | _, _ => throw "active successor claim lineage metadata is inconsistent"

/-- `validate_claim_liveness`. -/
def validateClaimLiveness (checksum : List Path → Except String String) (nextToken : ℕ)
    (claims : List PathClaim) (liveness : List ClaimLiveness)
    (supersessions : List ClaimSupersession) : Except String Unit := do
  refuseIf (claims.length < liveness.length)
    "authenticated claim liveness count exceeds active claim count"
  refuseIf (maxSupersessionRecords < supersessions.length)
    "authenticated claim supersession history exceeds its 1024 record bound"
  let activeClaims := BTreeMap.ofList (claims.map fun claim => (claim.token, claim))
  let activeLiveness ← liveness.foldlM (checkLivenessEntry activeClaims) ∅
  let maps ← supersessions.foldlM (checkSupersession nextToken activeClaims) ⟨∅, ∅⟩
  supersessions.forM (checkLineage activeClaims activeLiveness maps.bySuccessor supersessions)
  activeLiveness.toList.forM (checkSuccessor checksum activeClaims maps.bySuccessor)

end Maco.SyncStore
