import Maco.Publication.Identity
import Maco.Publication.Scope
import Maco.Publication.Transport

/-!
# Coordination records of item threads

What agents write into the comments of a forge item: claims, heartbeats, releases and agent states,
each a JSON payload between two markers. A record is read back only from the exact text it renders
to. Reading JSON is outside the model and enters as a parameter.
-/

namespace Maco.Forge

open Maco.Base Maco.Publication

/-- The record format of item threads. -/
def threadFormat : RecordFormat where
  marker := "<!-- maco:forge-coordination:v1 -->"
  endMarker := "<!-- /maco:forge-coordination:v1 -->"
  markerStart := "<!-- maco:forge-coordination"
  endMarkerStart := "<!-- /maco:forge-coordination"
  markerToken := "maco:forge-coordination"
  schema := "maco.forge-coordination"
  marked := by decide

inductive AgentPhase where
  | starting
  | working
  | blocked
  | complete
  | failed
deriving DecidableEq, Repr

/-- The serialized name of a phase. -/
def AgentPhase.name : AgentPhase → String
  | .starting => "starting"
  | .working => "working"
  | .blocked => "blocked"
  | .complete => "complete"
  | .failed => "failed"

/-- The fields of a claim. -/
structure ClaimFields where
  claimId : String
  agentId : String
  activationNonce : String
  scopes : List String
  staleAfterSeconds : ℕ
  supersedes : Option String
deriving DecidableEq, Repr

/-- The fields by which a heartbeat or a release names its claim. -/
structure ClaimReference where
  claimId : String
  agentId : String
  activationNonce : String
deriving DecidableEq, Repr

/-- The fields of an agent state. -/
structure AgentStateFields where
  agentId : String
  activationNonce : String
  sequence : ℕ
  phase : AgentPhase
  message : Option String
deriving DecidableEq, Repr

inductive CoordinationAction where
  | claim (fields : ClaimFields)
  | heartbeat (reference : ClaimReference)
  | release (reference : ClaimReference) (reason : String)
  | agentState (fields : AgentStateFields)
deriving DecidableEq, Repr

/-- `CoordinationRecord`. The wire form has the same fields, not yet checked. -/
structure CoordinationRecord where
  schema : String
  version : ℕ
  repositoryId : ProviderObjectId
  itemId : ProviderObjectId
  eventId : String
  action : CoordinationAction
deriving DecidableEq, Repr

/-! ## Checks -/

/-- `validate_claim_reference`. -/
def ClaimReference.validate (reference : ClaimReference) : Except String Unit := do
  validateId reference.claimId "claim reference id"
  validateId reference.agentId "claim reference agent id"
  validateId reference.activationNonce "claim reference activation nonce"

/-- The claim a claim supersedes is another one. -/
def ClaimFields.validateSupersedes (fields : ClaimFields) (predecessor : String) :
    Except String Unit := do
  validateId predecessor "superseded claim id"
  refuseIf (predecessor = fields.claimId) "claim cannot supersede itself"

/-- The checks on a record's action. -/
def CoordinationAction.validate : CoordinationAction → Except String Unit
  | .claim fields => do
      validateId fields.claimId "claim id"
      validateId fields.agentId "claim agent id"
      validateId fields.activationNonce "claim activation nonce"
      validateScopes threadFormat fields.scopes
      refuseIf (fields.staleAfterSeconds < 60 ∨ 7 * 24 * 60 * 60 < fields.staleAfterSeconds)
        "claim stale threshold is outside its bounded range"
      fields.supersedes.toList.forM fields.validateSupersedes
  | .heartbeat reference => reference.validate
  | .release reference reason => do
      reference.validate
      validateText threadFormat reason "release reason" maxReleaseReasonBytes false
  | .agentState fields => do
      validateId fields.agentId "state agent id"
      validateId fields.activationNonce "state activation nonce"
      refuseIf (fields.sequence = 0) "agent state sequence must be positive"
      fields.message.toList.forM (validateText threadFormat · "agent state message" 2048 true)

section

variable (record : CoordinationRecord)

/-- `CoordinationRecord::validate`. -/
def CoordinationRecord.validate : Except String Unit := do
  refuseIf (record.schema ≠ threadFormat.schema ∨ record.version ≠ 1)
    "coordination record has an unsupported schema or version"
  refuseIf (record.repositoryId.kind ≠ .repository ∨ record.itemId.kind ≠ .item ∨
    record.repositoryId.providerId ≠ record.itemId.providerId)
    "coordination record target is not one provider-bound repository item"
  validateId record.eventId "coordination event id"
  record.action.validate

/-- `CoordinationRecord::require_target`. -/
def CoordinationRecord.requireTarget (item : ForgeItem) : Except String Unit :=
  refuseIf (record.repositoryId ≠ item.repository.providerRepositoryId ∨
    record.itemId ≠ item.providerItemId)
    "coordination record targets a different stable repository item"

/-! ## Text -/

/-- The members by which a heartbeat or a release names its claim. -/
def ClaimReference.members (reference : ClaimReference) : List (String × Json) :=
  [("claim_id", .string reference.claimId), ("agent_id", .string reference.agentId),
    ("activation_nonce", .string reference.activationNonce)]

/-- The JSON value of an action, tagged with its kind. -/
def CoordinationAction.toJson : CoordinationAction → Json
  | .claim fields => .object [("kind", .string "claim"), ("claim_id", .string fields.claimId),
      ("agent_id", .string fields.agentId),
      ("activation_nonce", .string fields.activationNonce),
      ("scopes", .array (fields.scopes.map .string)),
      ("stale_after_seconds", .number fields.staleAfterSeconds),
      ("supersedes", .nullable fields.supersedes)]
  | .heartbeat reference => .object (("kind", .string "heartbeat") :: reference.members)
  | .release reference reason =>
      .object (("kind", .string "release") :: reference.members ++ [("reason", .string reason)])
  | .agentState fields => .object [("kind", .string "agent_state"),
      ("agent_id", .string fields.agentId),
      ("activation_nonce", .string fields.activationNonce),
      ("sequence", .number fields.sequence), ("phase", .string fields.phase.name),
      ("message", .nullable fields.message)]

/-- The JSON value of a record. -/
def CoordinationRecord.toJson : Json :=
  .object [("schema", .string record.schema), ("version", .number record.version),
    ("repository_id", record.repositoryId.toJson), ("item_id", record.itemId.toJson),
    ("event_id", .string record.eventId), ("action", record.action.toJson)]

end

/-- The records of item threads. -/
def recordKind : RecordKind CoordinationRecord where
  format := threadFormat
  noun := "coordination record"
  subject := "coordination marker"
  validate := CoordinationRecord.validate
  validateIds record := do record.repositoryId.validate; record.itemId.validate
  toJson := CoordinationRecord.toJson
  object _ := ⟨_, rfl⟩

/-- `CoordinationRecord::render`. -/
def CoordinationRecord.render (record : CoordinationRecord) : Except String String :=
  recordKind.render record

/-- `serde_json::from_str` with the derived deserializers. -/
abbrev RecordReader : Type := String → Option CoordinationRecord

/-- `CoordinationRecord::parse`. -/
def parseRecord (recordFromStr : RecordReader) (body : String) :
    Except String (Option CoordinationRecord) :=
  recordKind.parse recordFromStr body

end Maco.Forge
