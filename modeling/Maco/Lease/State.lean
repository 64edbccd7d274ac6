import Maco.Base.Number
import Maco.Base.Result
import Maco.Base.Text

/-!
# Leases of queue items

A lease is granted under a proof: worker, lease identity and generation. It is kept alive by
heartbeats, given back by a release, taken over by a reclaim once it has expired, and closed by an
effect: the effect start fences the lease, and only heartbeats and the acknowledgement under the
same proof follow. Times are observations that the journal records.
-/

namespace Maco.Lease

open Maco.Base

def maxCanonicalIdBytes : ℕ := 128

/-- `validate_canonical_identifier`. -/
def validateCanonicalIdentifier (value label : String) : Except String Unit :=
  refuseIf (value = "" ∨ maxCanonicalIdBytes < byteLength value ∨ value = "." ∨ value = ".." ∨
      allChars isNameChar value = false)
    (label ++ " is not a bounded canonical identifier")

structure LeaseProof where
  worker : String
  leaseId : String
  generation : ℕ
deriving DecidableEq, Repr

/-- `LeaseProof::validate`. -/
def LeaseProof.validate (proof : LeaseProof) : Except String Unit := do
  validateCanonicalIdentifier proof.worker "worker identity"
  validateCanonicalIdentifier proof.leaseId "lease identity"
  refuseIf (proof.generation = 0) "lease proof generation must be nonzero"

structure LeaseReclaimLineage where
  predecessor : LeaseProof
  predecessorExpiresAt : ℕ
  reclaimedAt : ℕ
  successor : LeaseProof
deriving DecidableEq, Repr

/-- `LeaseReclaimLineage::validate`. -/
def LeaseReclaimLineage.validate (lineage : LeaseReclaimLineage) : Except String Unit := do
  lineage.predecessor.validate
  lineage.successor.validate
  refuseIf (lineage.reclaimedAt < lineage.predecessorExpiresAt)
    "lease reclaim observation precedes predecessor expiry"
  let expectedGeneration ← require (checkedAddU64 lineage.predecessor.generation 1)
    "lease generation overflowed during reclaim"
  refuseIf (lineage.successor.generation ≠ expectedGeneration)
    "reclaimed lease does not use the exact successor generation"
  refuseIf (lineage.successor.leaseId = lineage.predecessor.leaseId)
    "reclaimed lease must use a distinct lease identity"

structure LeaseGrant where
  proof : LeaseProof
  observedAt : ℕ
  expiresAt : ℕ
deriving DecidableEq, Repr

/-- `LeaseGrant::validate`. -/
def LeaseGrant.validate (grant : LeaseGrant) : Except String Unit := do
  grant.proof.validate
  refuseIf (grant.expiresAt ≤ grant.observedAt)
    "lease grant expiry must be strictly after its observation"

structure LeaseHeartbeat where
  proof : LeaseProof
  observedAt : ℕ
  expiresAt : ℕ
deriving DecidableEq, Repr

/-- `LeaseHeartbeat::validate`. -/
def LeaseHeartbeat.validate (heartbeat : LeaseHeartbeat) : Except String Unit := do
  heartbeat.proof.validate
  refuseIf (heartbeat.expiresAt ≤ heartbeat.observedAt)
    "heartbeat expiry must be strictly after its observation"

structure LeaseBoundObservation where
  proof : LeaseProof
  observedAt : ℕ
deriving DecidableEq, Repr

/-- `LeaseBoundObservation::validate`. -/
def LeaseBoundObservation.validate (observation : LeaseBoundObservation) : Except String Unit :=
  observation.proof.validate

structure LeaseReclaim where
  lineage : LeaseReclaimLineage
  successorExpiresAt : ℕ
deriving DecidableEq, Repr

/-- `LeaseReclaim::validate`. -/
def LeaseReclaim.validate (reclaim : LeaseReclaim) : Except String Unit := do
  reclaim.lineage.validate
  refuseIf (reclaim.successorExpiresAt ≤ reclaim.lineage.reclaimedAt)
    "reclaimed lease expiry must be strictly after its observation"

inductive LeaseEvent where
  | claimed (grant : LeaseGrant)
  | heartbeat (beat : LeaseHeartbeat)
  | released (observation : LeaseBoundObservation)
  | reclaimed (reclaim : LeaseReclaim)
  | effectStarted (observation : LeaseBoundObservation)
  | acknowledged (observation : LeaseBoundObservation)
deriving DecidableEq, Repr

namespace LeaseEvent

/-- `resulting_proof`. -/
def resultingProof : LeaseEvent → LeaseProof
  | .claimed grant => grant.proof
  | .heartbeat beat => beat.proof
  | .released observation | .effectStarted observation | .acknowledged observation =>
    observation.proof
  | .reclaimed reclaim => reclaim.lineage.successor

/-- `observed_at`. -/
def observedAt : LeaseEvent → ℕ
  | .claimed grant => grant.observedAt
  | .heartbeat beat => beat.observedAt
  | .released observation | .effectStarted observation | .acknowledged observation =>
    observation.observedAt
  | .reclaimed reclaim => reclaim.lineage.reclaimedAt

/-- `LeaseEvent::validate`. -/
def validate : LeaseEvent → Except String Unit
  | .claimed grant => grant.validate
  | .heartbeat beat => beat.validate
  | .released observation | .effectStarted observation | .acknowledged observation =>
    observation.validate
  | .reclaimed reclaim => reclaim.validate

end LeaseEvent

inductive LeasePhase where
  | available
  | active
  | effectFenced
  | acknowledged
deriving DecidableEq, Repr

/-- `require_exact_proof`. -/
def requireExactProof (expected presented : LeaseProof) (action : String) : Except String Unit :=
  refuseIf (presented ≠ expected)
    (action ++ " does not prove the exact active worker lease and generation")

/-- `require_strict_time_advance`. -/
def requireStrictTimeAdvance (previous observedAt : ℕ) (action : String) : Except String Unit :=
  refuseIf (observedAt ≤ previous) (action ++ " time did not strictly advance")

/-- `validate_retained_lineage`. -/
def validateRetainedLineage (lineage : Option LeaseReclaimLineage)
    (currentGeneration currentObservedAt : ℕ) : Except String Unit :=
  whenSome lineage fun lineage => do
    lineage.validate
    refuseIf (currentGeneration < lineage.successor.generation)
      "retained reclaim lineage is newer than current lease generation"
    refuseIf (currentObservedAt < lineage.reclaimedAt)
      "retained reclaim lineage is newer than current lease observation"

structure AvailableLease where
  lastGeneration : ℕ
  lastObservedAt : Option ℕ
  lastReclaim : Option LeaseReclaimLineage
deriving DecidableEq, Repr

/-- `AvailableLease::initial`. -/
def AvailableLease.initial : AvailableLease := ⟨0, none, none⟩

/-- `AvailableLease::validate`. -/
def AvailableLease.validate (available : AvailableLease) : Except String Unit :=
  if available.lastGeneration = 0 then
    refuseIf (available.lastObservedAt.isSome = true ∨ available.lastReclaim.isSome = true)
      "initial available lease state contains transition evidence"
  else do
    let observedAt ← require available.lastObservedAt
      "used available lease state omits its last observation"
    validateRetainedLineage available.lastReclaim available.lastGeneration observedAt

structure ActiveLease where
  proof : LeaseProof
  issuedAt : ℕ
  lastHeartbeatAt : ℕ
  expiresAt : ℕ
  lastReclaim : Option LeaseReclaimLineage
deriving DecidableEq, Repr

/-- A lease that was reclaimed is the successor of its lineage. -/
def ActiveLease.matchesLineage (active : ActiveLease) (lineage : LeaseReclaimLineage) : Prop :=
  lineage.successor.generation = active.proof.generation →
    lineage.successor = active.proof ∧ lineage.reclaimedAt = active.issuedAt

instance (active : ActiveLease) (lineage : LeaseReclaimLineage) :
    Decidable (active.matchesLineage lineage) :=
  inferInstanceAs (Decidable (_ → _))

/-- `ActiveLease::validate`. -/
def ActiveLease.validate (active : ActiveLease) : Except String Unit := do
  active.proof.validate
  refuseIf (active.lastHeartbeatAt < active.issuedAt) "active lease heartbeat precedes issuance"
  refuseIf (active.expiresAt ≤ active.lastHeartbeatAt)
    "active lease is not live at its last heartbeat"
  validateRetainedLineage active.lastReclaim active.proof.generation active.issuedAt
  whenSome active.lastReclaim fun lineage =>
    refuseIf (¬ active.matchesLineage lineage)
      "current reclaimed lease does not match its retained successor lineage"

/-- `require_live_observation`. -/
def requireLiveObservation (active : ActiveLease) (observedAt : ℕ) (action : String) :
    Except String Unit := do
  requireStrictTimeAdvance active.lastHeartbeatAt observedAt action
  refuseIf (active.expiresAt ≤ observedAt) (action ++ " was observed on an expired lease")

structure EffectFencedLease where
  active : ActiveLease
  effectStartedAt : ℕ
  postEffectHeartbeat : Option LeaseHeartbeat
deriving DecidableEq, Repr

namespace EffectFencedLease

variable (fence : EffectFencedLease)

/-- `live_expires_at`. -/
def liveExpiresAt : ℕ :=
  (fence.postEffectHeartbeat.map LeaseHeartbeat.expiresAt).getD fence.active.expiresAt

/-- `latest_observation_at`. -/
def latestObservationAt : ℕ :=
  (fence.postEffectHeartbeat.map LeaseHeartbeat.observedAt).getD fence.effectStartedAt

/-- `EffectFencedLease::validate`. -/
def validate : Except String Unit := do
  fence.active.validate
  refuseIf (fence.effectStartedAt ≤ fence.active.lastHeartbeatAt)
    "effect start does not strictly advance lease time"
  refuseIf (fence.active.expiresAt ≤ fence.effectStartedAt)
    "effect start was observed on an expired lease"
  whenSome fence.postEffectHeartbeat fun heartbeat => do
    heartbeat.validate
    requireExactProof fence.active.proof heartbeat.proof "post-effect lease heartbeat"
    requireStrictTimeAdvance fence.effectStartedAt heartbeat.observedAt
      "post-effect lease heartbeat"
    refuseIf (heartbeat.expiresAt < fence.active.expiresAt)
      "post-effect lease heartbeat cannot shorten frozen active expiry"
    refuseIf (fence.liveExpiresAt ≤ heartbeat.observedAt)
      "post-effect lease heartbeat was observed on an expired lease"

end EffectFencedLease

structure AcknowledgedLease where
  fence : EffectFencedLease
  acknowledgedAt : ℕ
deriving DecidableEq, Repr

/-- `AcknowledgedLease::validate`. -/
def AcknowledgedLease.validate (acknowledged : AcknowledgedLease) : Except String Unit := do
  acknowledged.fence.validate
  refuseIf (acknowledged.acknowledgedAt < acknowledged.fence.latestObservationAt)
    "lease acknowledgement precedes the latest durable lease observation"

inductive LeaseState where
  | available (lease : AvailableLease)
  | active (lease : ActiveLease)
  | effectFenced (lease : EffectFencedLease)
  | acknowledged (lease : AcknowledgedLease)
deriving DecidableEq, Repr

namespace LeaseState

/-- `LeaseState::initial`. -/
def initial : LeaseState := available .initial

def phase : LeaseState → LeasePhase
  | available _ => .available
  | active _ => .active
  | effectFenced _ => .effectFenced
  | acknowledged _ => .acknowledged

def generation : LeaseState → ℕ
  | available lease => lease.lastGeneration
  | active lease => lease.proof.generation
  | effectFenced lease => lease.active.proof.generation
  | acknowledged lease => lease.fence.active.proof.generation

/-- `active_proof`. -/
def activeProof : LeaseState → Option LeaseProof
  | available _ => none
  | active lease => some lease.proof
  | effectFenced lease => some lease.active.proof
  | acknowledged lease => some lease.fence.active.proof

/-- `last_observed_at`. -/
def lastObservedAt : LeaseState → Option ℕ
  | available lease => lease.lastObservedAt
  | active lease => some lease.lastHeartbeatAt
  | effectFenced lease => some lease.latestObservationAt
  | acknowledged lease => some lease.acknowledgedAt

/-- `LeaseState::validate`. -/
def validate : LeaseState → Except String Unit
  | available lease => lease.validate
  | active lease => lease.validate
  | effectFenced lease => lease.validate
  | acknowledged lease => lease.validate

/-- `for_next_occurrence`. -/
def forNextOccurrence : LeaseState → Except String LeaseState
  | acknowledged lease => do
    let next : AvailableLease :=
      { lastGeneration := lease.fence.active.proof.generation
        lastObservedAt := some lease.acknowledgedAt
        lastReclaim := lease.fence.active.lastReclaim }
    next.validate
    pure (available next)
  | _ => .error "next occurrence lease requires acknowledged state"

/-- `apply_claim`. -/
def applyClaim (grant : LeaseGrant) : LeaseState → Except String LeaseState
  | available lease => do
    whenSome lease.lastObservedAt fun lastObservedAt =>
      requireStrictTimeAdvance lastObservedAt grant.observedAt "lease claim"
    let expectedGeneration ← require (checkedAddU64 lease.lastGeneration 1)
      "lease generation overflowed during claim"
    refuseIf (grant.proof.generation ≠ expectedGeneration)
      "lease claim does not use the exact next generation"
    pure (active
      { proof := grant.proof
        issuedAt := grant.observedAt
        lastHeartbeatAt := grant.observedAt
        expiresAt := grant.expiresAt
        lastReclaim := lease.lastReclaim })
  | _ => .error "lease claim requires available state"

/-- `apply_heartbeat`. -/
def applyHeartbeat (heartbeat : LeaseHeartbeat) : LeaseState → Except String LeaseState
  | active lease => do
    requireExactProof lease.proof heartbeat.proof "lease heartbeat"
    requireLiveObservation lease heartbeat.observedAt "lease heartbeat"
    refuseIf (heartbeat.expiresAt < lease.expiresAt) "lease heartbeat cannot shorten expiry"
    pure (active { lease with
      lastHeartbeatAt := heartbeat.observedAt
      expiresAt := heartbeat.expiresAt })
  | effectFenced fence => do
    requireExactProof fence.active.proof heartbeat.proof "post-effect lease heartbeat"
    requireStrictTimeAdvance fence.latestObservationAt heartbeat.observedAt
      "post-effect lease heartbeat"
    refuseIf (fence.liveExpiresAt ≤ heartbeat.observedAt)
      "post-effect lease heartbeat was observed on an expired lease"
    refuseIf (heartbeat.expiresAt < fence.liveExpiresAt)
      "post-effect lease heartbeat cannot shorten expiry"
    refuseIf (heartbeat.expiresAt < fence.active.expiresAt)
      "post-effect lease heartbeat cannot shorten frozen active expiry"
    pure (effectFenced { fence with postEffectHeartbeat := some heartbeat })
  | _ => .error "lease heartbeat requires an unfenced active lease or effect-fenced lease"

/-- `apply_reclaim`. -/
def applyReclaim (reclaim : LeaseReclaim) : LeaseState → Except String LeaseState
  | active lease => do
    let lineage := reclaim.lineage
    requireExactProof lease.proof lineage.predecessor "lease reclaim predecessor"
    refuseIf (lineage.predecessorExpiresAt ≠ lease.expiresAt)
      "lease reclaim predecessor expiry does not match durable active state"
    refuseIf (lineage.reclaimedAt < lease.expiresAt)
      "lease reclaim was observed before predecessor expiry"
    let expectedGeneration ← require (checkedAddU64 lease.proof.generation 1)
      "lease generation overflowed during reclaim"
    refuseIf (lineage.successor.generation ≠ expectedGeneration)
      "lease reclaim does not use the exact next generation"
    pure (active
      { proof := lineage.successor
        issuedAt := lineage.reclaimedAt
        lastHeartbeatAt := lineage.reclaimedAt
        expiresAt := reclaim.successorExpiresAt
        lastReclaim := some lineage })
  | _ => .error "lease reclaim requires an unfenced active predecessor"

section

variable (observation : LeaseBoundObservation)

/-- `apply_release`. -/
def applyRelease : LeaseState → Except String LeaseState
  | active lease => do
    requireExactProof lease.proof observation.proof "lease release"
    requireLiveObservation lease observation.observedAt "lease release"
    pure (available
      { lastGeneration := lease.proof.generation
        lastObservedAt := some observation.observedAt
        lastReclaim := lease.lastReclaim })
  | _ => .error "lease release requires an unfenced active lease"

/-- `apply_effect_start`. -/
def applyEffectStart : LeaseState → Except String LeaseState
  | active lease => do
    requireExactProof lease.proof observation.proof "effect start"
    requireLiveObservation lease observation.observedAt "effect start"
    pure (effectFenced ⟨lease, observation.observedAt, none⟩)
  | _ => .error "effect start requires an unfenced active lease"

/-- `apply_acknowledgement`. -/
def applyAcknowledgement : LeaseState → Except String LeaseState
  | effectFenced fence => do
    requireExactProof fence.active.proof observation.proof "lease acknowledgement"
    refuseIf (observation.observedAt < fence.latestObservationAt)
      "lease acknowledgement time moved backward"
    pure (acknowledged ⟨fence, observation.observedAt⟩)
  | _ => .error "acknowledgement requires a durably effect-fenced lease"

end

/-- `apply_in_place`. -/
def applyInPlace (state : LeaseState) (event : LeaseEvent) : Except String LeaseState :=
  match event with
  | .claimed grant => state.applyClaim grant
  | .heartbeat heartbeat => state.applyHeartbeat heartbeat
  | .released observation => state.applyRelease observation
  | .reclaimed reclaim => state.applyReclaim reclaim
  | .effectStarted observation => state.applyEffectStart observation
  | .acknowledged observation => state.applyAcknowledgement observation

def apply (state : LeaseState) (event : LeaseEvent) : Except String LeaseState := do
  event.validate
  let next ← state.applyInPlace event
  next.validate
  pure next

end LeaseState

end Maco.Lease
