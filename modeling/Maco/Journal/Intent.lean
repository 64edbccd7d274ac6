import Maco.Journal.Effect
import Maco.Publication.Scope
import Maco.Publication.Transport
import Maco.SyncStore.State

/-!
# Coordination intents

The journal's records: what an owner may announce, the checks every intent passes, and its text, a
JSON payload between two markers. An intent is read back from a comment only when rendering it
again gives the very same text. Reading JSON and SHA-256 are outside the model and enter as
`External`.
-/

namespace Maco.Journal

open Maco.Base Maco.Publication Maco.SyncStore

/-- The journal's record format. -/
def journalFormat : RecordFormat where
  marker := "<!-- maco:forge-coordination-journal:v1 -->"
  endMarker := "<!-- /maco:forge-coordination-journal:v1 -->"
  markerStart := "<!-- maco:forge-coordination-journal"
  endMarkerStart := "<!-- /maco:forge-coordination-journal"
  markerToken := "maco:forge-coordination-journal"
  schema := "maco.forge-coordination-journal"
  marked := by decide

structure ClaimLeasePolicy where
  heartbeatIntervalSeconds : ℕ
  staleAfterSeconds : ℕ
deriving DecidableEq, Repr

/-- `ClaimLeasePolicy::validate`. -/
def ClaimLeasePolicy.validate (lease : ClaimLeasePolicy) : Except String Unit :=
  ClaimTiming.validate ⟨lease.heartbeatIntervalSeconds, lease.staleAfterSeconds⟩

inductive EffectReconciliationOutcome where
  | completed
  | provenNoEffect
deriving DecidableEq, Repr

structure EffectReconciliationReceipt where
  effectId : String
  outcome : EffectReconciliationOutcome
  verifiedMaterialSha256 : String
  parentObservedMaterial : Option ParentObservedMaterial
deriving DecidableEq, Repr

inductive CoordinationIntentAction where
  | claim (scopes : List String) (lease : ClaimLeasePolicy)
  | heartbeat
  | takeover (predecessor : CoordinationOwnerIdentity) (scopes : List String)
      (lease : ClaimLeasePolicy)
  | release (reason : String)
  | effectReserve (effectId : String) (publicationEffect : Option PublicationEffectDescriptor)
  | effectComplete (effectId : String) (reconciliation : EffectReconciliationReceipt)
deriving DecidableEq, Repr

/-- `CoordinationIntent`. The wire form has the same fields, not yet checked. -/
structure CoordinationIntent where
  schema : String
  version : ℕ
  repositoryId : ProviderObjectId
  itemId : ProviderObjectId
  eventNonce : String
  expectedParentOid : String
  owner : CoordinationOwnerIdentity
  action : CoordinationIntentAction
deriving DecidableEq, Repr

/-- What the journal takes from outside. -/
structure External where
  /-- `sha256_hex` of the text's bytes. -/
  sha256Hex : String → String
  /-- `serde_json::from_str` with the derived deserializers. -/
  intentFromStr : String → Option CoordinationIntent

/-! ## Checks -/

/-- `validate_git_oid`: every text of this shape is an object id of the Git library too. -/
def validateGitOid (value label : String) : Except String Unit :=
  refuseIf (byteLength value ≠ 40 ∨ allChars isLowerHexDigit value = false)
    (label ++ " must be a canonical lowercase 40-character Git OID")

/-- `validate_sha256_hex`. -/
def validateSha256Hex (value label : String) : Except String Unit :=
  refuseIf (byteLength value ≠ 64 ∨ allChars isLowerHexDigit value = false)
    (label ++ " must be a canonical lowercase SHA-256 hex digest")

/-- The effect id of a reservation or a receipt. -/
def validateReservedEffectId (effectId : String) : Except String Unit := do
  validateId effectId "effect id"
  refuseIf (maxEffectIdBytes < byteLength effectId) "effect id exceeds its byte limit"

variable (sha256Hex : String → String)

/-- The parent material a bound receipt carries. -/
def EffectReconciliationReceipt.validateMaterial (receipt : EffectReconciliationReceipt)
    (material : ParentObservedMaterial) : Except String Unit := do
  material.validate sha256Hex
  refuseIf (receipt.outcome ≠ .completed)
    "bound effect reconciliation supports only completed outcomes"
  refuseIf (receipt.verifiedMaterialSha256 ≠ material.canonicalMaterialDigest)
    "bound effect reconciliation digest does not match parent material"
  refuseIf (receipt.effectId ≠ material.descriptor.effectId)
    "bound effect reconciliation effect id does not match descriptor"

/-- `EffectReconciliationReceipt::validate`. -/
def EffectReconciliationReceipt.validate (receipt : EffectReconciliationReceipt) :
    Except String Unit := do
  validateReservedEffectId receipt.effectId
  validateSha256Hex receipt.verifiedMaterialSha256 "effect reconciliation digest"
  receipt.parentObservedMaterial.toList.forM (receipt.validateMaterial sha256Hex)

/-- The descriptor of a reservation names the reserved effect. -/
def validateReservedDescriptor (effectId : String) (descriptor : PublicationEffectDescriptor) :
    Except String Unit := do
  descriptor.validate sha256Hex
  refuseIf (descriptor.effectId ≠ effectId)
    "publication effect descriptor disagrees with reserved effect id"

section

variable (intent : CoordinationIntent)

/-- The checks on an intent's action. -/
def CoordinationIntent.validateAction : Except String Unit :=
  match intent.action with
  | .claim scopes lease => do
      validateScopes journalFormat scopes
      lease.validate
  | .heartbeat => pure ()
  | .takeover predecessor scopes lease => do
      predecessor.validate
      validateScopes journalFormat scopes
      lease.validate
      refuseIf (predecessor = intent.owner) "takeover predecessor must differ from successor owner"
  | .release reason =>
      validateText journalFormat reason "release reason" maxReleaseReasonBytes false
  | .effectReserve effectId publicationEffect => do
      validateReservedEffectId effectId
      publicationEffect.toList.forM (validateReservedDescriptor sha256Hex effectId)
  | .effectComplete effectId reconciliation => do
      validateId effectId "effect id"
      reconciliation.validate sha256Hex
      refuseIf (effectId ≠ reconciliation.effectId)
        "effect completion action disagrees with its reconciliation receipt"

/-- `CoordinationIntent::validate`. -/
def CoordinationIntent.validate : Except String Unit := do
  refuseIf (intent.schema ≠ journalFormat.schema ∨ intent.version ≠ 1)
    "coordination intent has an unsupported schema or version"
  refuseIf (intent.repositoryId.kind ≠ .repository ∨ intent.itemId.kind ≠ .item ∨
    intent.repositoryId.providerId ≠ intent.itemId.providerId)
    "coordination intent target is not one provider-bound repository item"
  validateId intent.eventNonce "coordination event nonce"
  validateGitOid intent.expectedParentOid "coordination expected parent"
  intent.owner.validate
  intent.validateAction sha256Hex

/-- `CoordinationIntent::require_target`. -/
def CoordinationIntent.requireTarget (item : ForgeItem) : Except String Unit :=
  refuseIf (intent.repositoryId ≠ item.repository.providerRepositoryId ∨
    intent.itemId ≠ item.providerItemId)
    "coordination intent targets a different stable repository item"

/-! ## Text -/

/-- The JSON value of an owner identity. -/
def ownerJson (owner : CoordinationOwnerIdentity) : Json :=
  .object [("run_identity", .string owner.runIdentity),
    ("activation_nonce", .string owner.activationNonce)]

/-- The JSON value of a lease. -/
def ClaimLeasePolicy.toJson (lease : ClaimLeasePolicy) : Json :=
  .object [("heartbeat_interval_seconds", .number lease.heartbeatIntervalSeconds),
    ("stale_after_seconds", .number lease.staleAfterSeconds)]

/-- The JSON value of a receipt; absent parent material is left out. -/
def EffectReconciliationReceipt.toJson (receipt : EffectReconciliationReceipt) : Json :=
  .object ([("effect_id", .string receipt.effectId),
    ("outcome", .string (match receipt.outcome with
      | .completed => "completed"
      | .provenNoEffect => "proven_no_effect")),
    ("verified_material_sha256", .string receipt.verifiedMaterialSha256)] ++
    receipt.parentObservedMaterial.toList.map fun material =>
      ("parent_observed_material", material.toJson))

/-- The JSON value of an action, tagged with its kind. -/
def CoordinationIntentAction.toJson : CoordinationIntentAction → Json
  | .claim scopes lease => .object [("kind", .string "claim"),
      ("scopes", .array (scopes.map .string)), ("lease", lease.toJson)]
  | .heartbeat => .object [("kind", .string "heartbeat")]
  | .takeover predecessor scopes lease => .object [("kind", .string "takeover"),
      ("predecessor", ownerJson predecessor), ("scopes", .array (scopes.map .string)),
      ("lease", lease.toJson)]
  | .release reason => .object [("kind", .string "release"), ("reason", .string reason)]
  | .effectReserve effectId publicationEffect => .object ([("kind", .string "effect_reserve"),
      ("effect_id", .string effectId)] ++ publicationEffect.toList.map fun descriptor =>
        ("publication_effect", descriptor.toJson))
  | .effectComplete effectId reconciliation => .object [("kind", .string "effect_complete"),
      ("effect_id", .string effectId), ("reconciliation", reconciliation.toJson)]

/-- The JSON value of an intent. -/
def CoordinationIntent.toJson : Json :=
  .object [("schema", .string intent.schema), ("version", .number intent.version),
    ("repository_id", intent.repositoryId.toJson), ("item_id", intent.itemId.toJson),
    ("event_nonce", .string intent.eventNonce),
    ("expected_parent_oid", .string intent.expectedParentOid),
    ("owner", ownerJson intent.owner), ("action", intent.action.toJson)]

/-- The intents of the journal. -/
def intentKind : RecordKind CoordinationIntent where
  format := journalFormat
  noun := "coordination intent"
  subject := "coordination intent"
  validate intent := intent.validate sha256Hex
  validateIds intent := do intent.repositoryId.validate; intent.itemId.validate
  toJson := CoordinationIntent.toJson
  object _ := ⟨_, rfl⟩

/-- `CoordinationIntent::render`. -/
def CoordinationIntent.render : Except String String := (intentKind sha256Hex).render intent

end

/-- `CoordinationIntent::parse`. -/
def External.parse (external : External) (body : String) :
    Except String (Option CoordinationIntent) :=
  (intentKind external.sha256Hex).parse external.intentFromStr body

end Maco.Journal
