import Maco.Journal.Intent

/-!
# The journal reducer

A verified journal history is reduced to the authority it grants: the active owners with their
scopes and leases, the effects they have reserved, and the committed events. Each entry is checked
against its pointer and the head before it, and its intent is then applied. The same transition,
with or without a provider time, previews a proposed intent against a snapshot.
-/

namespace Maco.Journal

open Maco.Base Maco.Publication Maco.SyncStore

structure CoordinationJournalConfig where
  anchorItem : ForgeItem
  anchorCommitOid : String
  trustedActors : BTreeMap ProviderObjectId ForgeActor
  timing : ClaimTiming

/-- `CoordinationJournalConfig::is_trusted_actor`. -/
def CoordinationJournalConfig.isTrustedActor (config : CoordinationJournalConfig)
    (actor : ForgeActor) : Bool :=
  config.trustedActors[actor.providerActorId]?.any (· == actor)

structure JournalPointer where
  eventNonce : String
  providerCommentId : ProviderObjectId
  bodySha256 : String
  expectedParentOid : String
deriving DecidableEq, Repr

structure AuthenticatedCommentEvidence where
  item : ForgeItem
  providerCommentId : ProviderObjectId
  author : ForgeActor
  createdAt : ForgeTimestamp
  body : String
deriving DecidableEq

structure VerifiedJournalEntry where
  pointer : JournalPointer
  commitOid : String
  parentOid : String
  comment : AuthenticatedCommentEvidence
deriving DecidableEq

def maxJournalEntries : ℕ := 512

/-- Each entry's parent is the commit before it, starting at a given commit. -/
def LinearFrom : String → List VerifiedJournalEntry → Prop
  | _, [] => True
  | head, entry :: entries => entry.parentOid = head ∧ LinearFrom entry.commitOid entries

instance decidableLinearFrom (head : String) (entries : List VerifiedJournalEntry) :
    Decidable (LinearFrom head entries) :=
  match entries with
  | [] => .isTrue trivial
  | entry :: entries =>
    have := decidableLinearFrom entry.commitOid entries
    inferInstanceAs (Decidable (entry.parentOid = head ∧ LinearFrom entry.commitOid entries))

/-- `TrustedFiniteJournalHistory`: a bounded chain of verified entries from an anchor. -/
structure TrustedFiniteJournalHistory where
  anchorCommitOid : String
  entries : List VerifiedJournalEntry
  bounded : entries.length ≤ maxJournalEntries
  linear : LinearFrom anchorCommitOid entries

structure ActiveOwnerRecord where
  owner : CoordinationOwnerIdentity
  boundClaimActor : ForgeActor
  scopes : List String
  lease : ClaimLeasePolicy
  activationAt : ForgeTimestamp
  lastHeartbeatAt : ForgeTimestamp
  activationEventNonce : String
deriving DecidableEq

structure PendingEffectReservation where
  effectId : String
  owner : CoordinationOwnerIdentity
  reservedAt : ForgeTimestamp
  reserveEventNonce : String
  publicationEffect : Option PublicationEffectDescriptor
deriving DecidableEq

structure CommittedEventIndex where
  eventNonce : String
  commitOid : String
  parentOid : String
  owner : CoordinationOwnerIdentity
deriving DecidableEq, Repr

structure AuthoritySnapshot where
  journalHeadOid : String
  activeOwners : List ActiveOwnerRecord
  pendingReservations : List PendingEffectReservation
  committedEvents : List CommittedEventIndex
deriving DecidableEq

/-- The two maps a transition reads and writes. -/
structure Authority where
  activeOwners : BTreeMap CoordinationOwnerIdentity ActiveOwnerRecord
  pending : BTreeMap String PendingEffectReservation

/-- `EffectReconciliationVerifier`, when the parent supplies one. -/
abbrev EffectReconciliationVerifier : Type :=
  Option (CoordinationOwnerIdentity → String → EffectReconciliationReceipt → Bool)

/-- `ProposedIntentAdmission`, where an absent time is `PreflightDeferred`. -/
structure ProposedIntentAdmission where
  boundActor : ForgeActor
  observedAt : Option ForgeTimestamp
deriving DecidableEq

/-- The time recorded when none is observed. -/
def placeholderAt : ForgeTimestamp := ⟨"1970-01-01T00:00:00Z", by rfl⟩

/-- The time a transition records. -/
def ProposedIntentAdmission.createdAt (admission : ProposedIntentAdmission) : ForgeTimestamp :=
  admission.observedAt.getD placeholderAt

/-! ## Checks -/

/-- `ensure_lease_matches_config`. -/
def ensureLeaseMatchesConfig (lease : ClaimLeasePolicy) (timing : ClaimTiming) :
    Except String Unit :=
  refuseIf (lease.heartbeatIntervalSeconds ≠ timing.heartbeatIntervalSeconds ∨
    lease.staleAfterSeconds ≠ timing.staleAfterSeconds)
    "intent lease policy does not match configured claim timing"

/-- `active_owner_mut`. -/
def activeOwner (authority : Authority) (owner : CoordinationOwnerIdentity) :
    Except String ActiveOwnerRecord :=
  require authority.activeOwners[owner]?
    "coordination intent owner is not the active matching owner"

/-- `require_exact_bound_actor`. -/
def requireExactBoundActor (owner : ActiveOwnerRecord) (actor : ForgeActor) : Except String Unit :=
  refuseIf (actor ≠ owner.boundClaimActor)
    "coordination intent actor does not match the bound claim activation actor"

/-- `owner_has_blocking_reserve`. -/
def ownerHasBlockingReserve (pending : BTreeMap String PendingEffectReservation)
    (owner : CoordinationOwnerIdentity) : Bool :=
  pending.values.any fun reserve => reserve.owner == owner

/-- `active_scope_conflict`: the first other owner whose scopes overlap. -/
def activeScopeConflict (active : BTreeMap CoordinationOwnerIdentity ActiveOwnerRecord)
    (scopes : List String) (except : Option CoordinationOwnerIdentity) : Option String :=
  ((active.toList.filter fun entry => except != some entry.1).find? fun entry =>
    scopesOverlap entry.2.scopes scopes).map fun entry =>
      entry.1.runIdentity ++ ":" ++ entry.1.activationNonce

/-- Refuse with the name of the conflicting owner. -/
def refuseConflict (conflict : Option String) (refusal : String) : Except String Unit :=
  match conflict with
  | some owner => .error (refusal ++ owner)
  | none => .ok ()

/-- Has the lease run out at an observed time, measured from the last heartbeat? -/
def leaseRunOut (record : ActiveOwnerRecord) (observedAt : ForgeTimestamp) :
    Except String Bool := do
  let time ← timestampSeconds observedAt
  let heartbeat ← timestampSeconds record.lastHeartbeatAt
  elapsedStrictlyAfter heartbeat time record.lease.staleAfterSeconds

/-- A takeover at an observed time needs a lease that has run out. -/
def requireLeaseRunOut (record : ActiveOwnerRecord) : Option ForgeTimestamp → Except String Unit
  | none => pure ()
  | some observedAt => do
      let ranOut ← leaseRunOut record observedAt
      refuseIf (ranOut = false) "takeover provider time is not past predecessor lease duration"

/-- A reservation at an observed time needs a lease that has not run out. -/
def requireLeaseCurrent (record : ActiveOwnerRecord) : Option ForgeTimestamp → Except String Unit
  | none => pure ()
  | some observedAt => do
      let ranOut ← leaseRunOut record observedAt
      refuseIf (ranOut = true)
        "effect reserve requires a current lease proof from this intent timestamp"

/-- `verify_bound_effect_complete_for_replay`. -/
def verifyBoundEffectComplete (sha256Hex : String → String) (reserveEventNonce : String)
    (descriptor : PublicationEffectDescriptor) (receipt : EffectReconciliationReceipt) :
    Except String Unit := do
  let material ← require receipt.parentObservedMaterial
    "bound effect completion lacks parent observed material"
  refuseIf (material.reserveEventNonce ≠ reserveEventNonce)
    "bound effect completion reserve nonce does not match reservation"
  refuseIf (material.descriptor ≠ descriptor)
    "bound effect completion descriptor does not match reservation"
  refuseIf (material.descriptor.effectId ≠ receipt.effectId)
    "bound effect completion effect id does not match reconciliation receipt"
  refuseIf (receipt.verifiedMaterialSha256 ≠ material.canonicalMaterialDigest)
    "bound effect completion digest does not match sealed parent material"
  material.validate sha256Hex

/-- A completion is verified from its sealed material or by the parent's verifier. -/
def verifyCompletion (sha256Hex : String → String) (verifier : EffectReconciliationVerifier)
    (owner : CoordinationOwnerIdentity) (effectId : String) (reserve : PendingEffectReservation)
    (reconciliation : EffectReconciliationReceipt) : Except String Unit :=
  if reconciliation.parentObservedMaterial.isSome then do
    let descriptor ← require reserve.publicationEffect
      "bound effect completion requires a matching bound reservation"
    verifyBoundEffectComplete sha256Hex reserve.reserveEventNonce descriptor reconciliation
  else do
    refuseIf reserve.publicationEffect.isSome
      "bound effect reservation cannot complete with opaque reconciliation"
    let verify ← require verifier "effect completion lacks parent-verified reconciliation"
    refuseIf (verify owner effectId reconciliation = false)
      "effect completion reconciliation was rejected by parent verifier"

/-! ## Transitions -/

/-- The record an activation enters. -/
def activationRecord (intent : CoordinationIntent) (admission : ProposedIntentAdmission)
    (scopes : List String) (lease : ClaimLeasePolicy) : ActiveOwnerRecord where
  owner := intent.owner
  boundClaimActor := admission.boundActor
  scopes
  lease
  activationAt := admission.createdAt
  lastHeartbeatAt := admission.createdAt
  activationEventNonce := intent.eventNonce

/-- The record a reservation enters. -/
def reservationRecord (intent : CoordinationIntent) (admission : ProposedIntentAdmission)
    (effectId : String) (publicationEffect : Option PublicationEffectDescriptor) :
    PendingEffectReservation where
  effectId
  owner := intent.owner
  reservedAt := admission.createdAt
  reserveEventNonce := intent.eventNonce
  publicationEffect

section Transitions

variable (config : CoordinationJournalConfig) (intent : CoordinationIntent)
  (admission : ProposedIntentAdmission) (authority : Authority)

/-- The `Claim` transition. -/
def applyClaim (scopes : List String) (lease : ClaimLeasePolicy) : Except String Authority := do
  ensureLeaseMatchesConfig lease config.timing
  refuseIf (authority.activeOwners.contains intent.owner) "claim owner activation is already live"
  refuseConflict (activeScopeConflict authority.activeOwners scopes none)
    "claim scopes overlap active owner "
  pure { authority with
    activeOwners := authority.activeOwners.insert intent.owner
      (activationRecord intent admission scopes lease) }

/-- A heartbeat moves the last heartbeat to its observed time. -/
def recordHeartbeat (record : ActiveOwnerRecord) :
    Option ForgeTimestamp → Except String Authority
  | none => pure authority
  | some observedAt => do
      refuseIf (observedAt < record.lastHeartbeatAt) "heartbeat provider time moved backward"
      pure { authority with
        activeOwners := authority.activeOwners.insert intent.owner
          { record with lastHeartbeatAt := observedAt } }

/-- The `Heartbeat` transition. -/
def applyHeartbeat : Except String Authority := do
  let record ← activeOwner authority intent.owner
  requireExactBoundActor record admission.boundActor
  recordHeartbeat intent authority record admission.observedAt

/-- The `Takeover` transition. -/
def applyTakeover (predecessor : CoordinationOwnerIdentity) (scopes : List String)
    (lease : ClaimLeasePolicy) : Except String Authority := do
  ensureLeaseMatchesConfig lease config.timing
  let record ← require authority.activeOwners[predecessor]?
    "takeover predecessor is not an active owner"
  refuseIf (record.scopes ≠ scopes) "takeover scopes must exactly match predecessor scopes"
  refuseIf (ownerHasBlockingReserve authority.pending predecessor)
    "takeover blocked by active effect reservation"
  requireLeaseRunOut record admission.observedAt
  refuseConflict (activeScopeConflict authority.activeOwners scopes (some predecessor))
    "takeover scopes overlap a different active owner "
  let remaining := authority.activeOwners.erase predecessor
  refuseIf (remaining.contains intent.owner) "takeover successor activation is already live"
  pure { authority with
    activeOwners := remaining.insert intent.owner
      (activationRecord intent admission scopes lease) }

/-- The `Release` transition. -/
def applyRelease : Except String Authority := do
  let record ← activeOwner authority intent.owner
  requireExactBoundActor record admission.boundActor
  refuseIf (ownerHasBlockingReserve authority.pending intent.owner)
    "release blocked by active effect reservation"
  pure { authority with activeOwners := authority.activeOwners.erase intent.owner }

/-- The `EffectReserve` transition. -/
def applyEffectReserve (effectId : String)
    (publicationEffect : Option PublicationEffectDescriptor) : Except String Authority := do
  let record ← activeOwner authority intent.owner
  requireExactBoundActor record admission.boundActor
  refuseIf (authority.pending.contains effectId) "effect id is already reserved"
  requireLeaseCurrent record admission.observedAt
  pure { authority with
    pending := authority.pending.insert effectId
      (reservationRecord intent admission effectId publicationEffect) }

/-- The `EffectComplete` transition. -/
def applyEffectComplete (sha256Hex : String → String) (verifier : EffectReconciliationVerifier)
    (effectId : String) (reconciliation : EffectReconciliationReceipt) :
    Except String Authority := do
  let record ← activeOwner authority intent.owner
  requireExactBoundActor record admission.boundActor
  let reserve ← require authority.pending[effectId]?
    "effect completion names an unknown reservation"
  refuseIf (reserve.owner ≠ intent.owner)
    "effect completion owner does not match reservation owner"
  verifyCompletion sha256Hex verifier intent.owner effectId reserve reconciliation
  pure { authority with pending := authority.pending.erase effectId }

/-- `apply_intent_semantics`. -/
def applyIntentSemantics (sha256Hex : String → String) (verifier : EffectReconciliationVerifier) :
    Except String Authority :=
  match intent.action with
  | .claim scopes lease => applyClaim config intent admission authority scopes lease
  | .heartbeat => applyHeartbeat intent admission authority
  | .takeover predecessor scopes lease =>
      applyTakeover config intent admission authority predecessor scopes lease
  | .release _ => applyRelease intent admission authority
  | .effectReserve effectId publicationEffect =>
      applyEffectReserve intent admission authority effectId publicationEffect
  | .effectComplete effectId reconciliation =>
      applyEffectComplete intent admission authority sha256Hex verifier effectId reconciliation

end Transitions

/-! ## Reduction and preflight -/

/-- The loop state of the reducer. -/
structure Reduction where
  priorHead : String
  seenNonces : BTreeSet String
  authority : Authority
  committed : List CommittedEventIndex

/-- Nothing read yet. -/
def Reduction.initial (config : CoordinationJournalConfig) : Reduction where
  priorHead := config.anchorCommitOid
  seenNonces := ∅
  authority := ⟨∅, ∅⟩
  committed := []

section Reduce

variable (external : External) (config : CoordinationJournalConfig)

/-- `verify_journal_entry_contract`. -/
def verifyJournalEntryContract (entry : VerifiedJournalEntry) (expectedParent : String) :
    Except String CoordinationIntent := do
  refuseIf (entry.parentOid ≠ expectedParent)
    "journal entry parent OID does not match the supplied linear predecessor"
  refuseIf (entry.pointer.expectedParentOid ≠ expectedParent)
    "journal pointer expected parent does not match the verified parent OID"
  refuseIf (config.isTrustedActor entry.comment.author = false)
    "journal comment author is not in the trusted actor allowlist"
  refuseIf (entry.comment.item ≠ config.anchorItem)
    "journal comment is not bound to the configured anchor item"
  refuseIf (entry.comment.providerCommentId ≠ entry.pointer.providerCommentId)
    "journal pointer comment id does not match authenticated comment evidence"
  let parsed ← external.parse entry.comment.body
  let intent ← require parsed "journal comment body is not a coordination intent"
  intent.requireTarget config.anchorItem
  refuseIf (intent.eventNonce ≠ entry.pointer.eventNonce)
    "journal pointer event nonce does not match intent body"
  refuseIf (intent.expectedParentOid ≠ entry.pointer.expectedParentOid)
    "journal pointer parent expectation does not match intent body"
  refuseIf (external.sha256Hex entry.comment.body ≠ entry.pointer.bodySha256)
    "journal pointer body digest does not match authenticated comment body"
  pure intent

/-- The admission of an entry that is in the journal already. -/
def VerifiedJournalEntry.admission (entry : VerifiedJournalEntry) : ProposedIntentAdmission :=
  ⟨entry.comment.author, some entry.comment.createdAt⟩

variable (verifier : EffectReconciliationVerifier)

/-- The end of a turn of the reducer's loop: the intent of a verified entry is applied. -/
def commitIntent (state : Reduction) (entry : VerifiedJournalEntry) (intent : CoordinationIntent) :
    Except String Reduction := do
  let authority ← applyIntentSemantics config intent entry.admission state.authority
    external.sha256Hex verifier
  pure {
    priorHead := entry.commitOid
    seenNonces := state.seenNonces.insert entry.pointer.eventNonce
    authority
    committed := state.committed ++
      [⟨intent.eventNonce, entry.commitOid, entry.parentOid, intent.owner⟩] }

/-- One turn of the reducer's loop. -/
def reduceEntry (state : Reduction) (entry : VerifiedJournalEntry) : Except String Reduction := do
  refuseIf (state.seenNonces.contains entry.pointer.eventNonce)
    "duplicate event nonce in committed journal history"
  let intent ← verifyJournalEntryContract external config entry state.priorHead
  commitIntent external config verifier state entry intent

/-- The snapshot a reduction ends in. -/
def Reduction.snapshot (state : Reduction) : AuthoritySnapshot where
  journalHeadOid := state.priorHead
  activeOwners := state.authority.activeOwners.values
  pendingReservations := state.authority.pending.values
  committedEvents := state.committed

/-- `reduce_trusted_journal_history`. -/
def reduceTrustedJournalHistory (history : TrustedFiniteJournalHistory) :
    Except String AuthoritySnapshot :=
  (history.entries.foldlM (reduceEntry external config verifier) (.initial config)).map
    Reduction.snapshot

/-- The maps rebuilt from the lists of a snapshot. -/
def AuthoritySnapshot.authority (snapshot : AuthoritySnapshot) : Authority where
  activeOwners := .ofList (snapshot.activeOwners.map fun record => (record.owner, record))
  pending := .ofList (snapshot.pendingReservations.map fun reserve => (reserve.effectId, reserve))

/-- `preflight_proposed_journal_transition`. -/
def preflightProposedJournalTransition (snapshot : AuthoritySnapshot) (intent : CoordinationIntent)
    (admission : ProposedIntentAdmission) : Except String Unit := do
  intent.requireTarget config.anchorItem
  refuseIf (intent.expectedParentOid ≠ snapshot.journalHeadOid)
    "proposed intent parent does not match authoritative journal head"
  let _ ← applyIntentSemantics config intent admission snapshot.authority
    external.sha256Hex verifier
  pure ()

end Reduce

end Maco.Journal
