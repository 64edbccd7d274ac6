import Maco.Messaging.Payload
import Maco.Turn.State

/-!
# Envelopes, channels and their limits

The durable records of the message broker: an envelope with the delivery state of each of its
recipients, and a governed channel with its members and publishers. Every record is checked against
the configured limits, and every check validates the limits first.
-/

namespace Maco.Messaging

open Maco.Base List
open Maco.Turn (RoleCategory)
open Json (itemsNesting membersNesting nesting reread rereadMembers)

def messageEnvelopeVersion : ℕ := 1

def governedChannelVersion : ℕ := 1

structure MessagingLimits where
  maxCredentials : ℕ
  maxMessages : ℕ
  maxChannels : ℕ
  maxMembersPerChannel : ℕ
  maxPublishersPerChannel : ℕ
  maxPayloadBytes : ℕ
  maxIdentifierBytes : ℕ
  maxJournalRecords : ℕ
  maxJournalBytes : ℕ
  maxDeliveryAttempts : ℕ
deriving DecidableEq, Repr

inductive EnvelopeValidationError where
  | zeroLimit (field : String)
  | invalidLimit (reason : String)
  | limitArithmeticOverflow
  | emptyIdentifier (field : String)
  | identifierTooLong (field : String) (actual max : ℕ)
  | nonCanonicalIdentifier (field : String)
  | unsupportedVersion (record : String) (actual expected : ℕ)
  | zeroSequence
  | payload (error : PayloadError)
  | emptyRecipients
  | tooManyRecipients (actual max : ℕ)
  | directRecipientMismatch
  | channelAddressMismatch
  | channelRecipientMismatch
  | channelPublisherNotPermitted (channelId senderId : String)
  | emptyChannelMembers
  | emptyChannelPublishers
  | tooManyChannelMembers (actual max : ℕ)
  | tooManyChannelPublishers (actual max : ℕ)
  | publisherNotMember (publisherId : String)
  | acknowledgedWithoutDelivery
  | alreadyAcknowledged
  | deliveryAttemptOverflow
  | tooManyDeliveryAttempts (actual max : ℕ)
deriving DecidableEq, Repr

namespace MessagingLimits

/-- The limits that must be positive, with their names. -/
def fields (limits : MessagingLimits) : List (String × ℕ) :=
  [("max_credentials", limits.maxCredentials),
    ("max_messages", limits.maxMessages),
    ("max_channels", limits.maxChannels),
    ("max_members_per_channel", limits.maxMembersPerChannel),
    ("max_publishers_per_channel", limits.maxPublishersPerChannel),
    ("max_payload_bytes", limits.maxPayloadBytes),
    ("max_identifier_bytes", limits.maxIdentifierBytes),
    ("max_journal_records", limits.maxJournalRecords),
    ("max_journal_bytes", limits.maxJournalBytes),
    ("max_delivery_attempts", limits.maxDeliveryAttempts)]

/-- `MessagingLimits::validate`. -/
def validate (limits : MessagingLimits) : Except EnvelopeValidationError Unit := do
  limits.fields.forM fun field => refuseIf (field.2 = 0) (.zeroLimit field.1)
  refuseIf (limits.maxMembersPerChannel < limits.maxPublishersPerChannel)
    (.invalidLimit "max_publishers_per_channel exceeds max_members_per_channel")
  refuseIf (limits.maxCredentials < limits.maxMembersPerChannel)
    (.invalidLimit "max_members_per_channel exceeds max_credentials")
  refuseIf (2 ^ 32 ≤ limits.maxDeliveryAttempts)
    (.invalidLimit "max_delivery_attempts exceeds the persisted u32 counter")
  let identifierSlots ← require (checkedAddU64 limits.maxMembersPerChannel 3)
    .limitArithmeticOverflow
  let identifierBytes ← require (checkedMulU64 limits.maxIdentifierBytes identifierSlots)
    .limitArithmeticOverflow
  let largestRecordBytes ← require (checkedAddU64 limits.maxPayloadBytes identifierBytes)
    .limitArithmeticOverflow
  refuseIf (limits.maxJournalBytes < largestRecordBytes)
    (.invalidLimit "max_journal_bytes cannot contain one maximally bounded envelope")

end MessagingLimits

/-- The characters of an identifier. -/
def isIdentifierChar (c : Char) : Bool :=
  isAsciiAlphanumeric c || c == '-' || c == '_' || c == '.' || c == ':'

/-- `validate_identifier` of the envelopes. -/
def validateIdentifier (field value : String) (limits : MessagingLimits) :
    Except EnvelopeValidationError Unit := do
  refuseIf (value = "" ∨ value ≠ trim value) (.emptyIdentifier field)
  refuseIf (limits.maxIdentifierBytes < byteLength value)
    (.identifierTooLong field (byteLength value) limits.maxIdentifierBytes)
  refuseIf (¬ allChars isIdentifierChar value = true) (.nonCanonicalIdentifier field)

/-- `MessageId`, the text of the identifier. -/
abbrev MessageId : Type := String

/-- `MessageId::validate`. -/
def validateMessageId (id : MessageId) (limits : MessagingLimits) :
    Except EnvelopeValidationError Unit := do
  limits.validate
  validateIdentifier "message_id" id limits

inductive MessageAddress where
  | direct (recipientId : String)
  | channel (channelId : String)
deriving DecidableEq, Repr

/-- `MessageAddress::validate`. -/
def MessageAddress.validate (address : MessageAddress) (limits : MessagingLimits) :
    Except EnvelopeValidationError Unit := do
  limits.validate
  match address with
  | .direct recipientId => validateIdentifier "recipient_id" recipientId limits
  | .channel channelId => validateIdentifier "channel_id" channelId limits

structure RecipientDeliveryState where
  deliveryAttempts : ℕ
  acknowledged : Bool
deriving DecidableEq, Repr

namespace RecipientDeliveryState

/-- `RecipientDeliveryState::pending`. -/
def pending : RecipientDeliveryState := ⟨0, false⟩

variable (state : RecipientDeliveryState)

/-- `RecipientDeliveryState::validate`. -/
def validate (limits : MessagingLimits) : Except EnvelopeValidationError Unit := do
  limits.validate
  refuseIf (limits.maxDeliveryAttempts < state.deliveryAttempts)
    (.tooManyDeliveryAttempts state.deliveryAttempts limits.maxDeliveryAttempts)
  refuseIf (state.acknowledged = true ∧ state.deliveryAttempts = 0) .acknowledgedWithoutDelivery

/-- `RecipientDeliveryState::record_delivery_attempt`: the state with one more attempt. -/
def recordDeliveryAttempt (limits : MessagingLimits) :
    Except EnvelopeValidationError RecipientDeliveryState := do
  state.validate limits
  refuseIf (state.acknowledged = true) .alreadyAcknowledged
  refuseIf (2 ^ 32 ≤ state.deliveryAttempts + 1) .deliveryAttemptOverflow
  refuseIf (limits.maxDeliveryAttempts < state.deliveryAttempts + 1)
    (.tooManyDeliveryAttempts (state.deliveryAttempts + 1) limits.maxDeliveryAttempts)
  pure { state with deliveryAttempts := state.deliveryAttempts + 1 }

/-- `RecipientDeliveryState::acknowledge`: whether this is the first acknowledgement, and the
state after it. -/
def acknowledge : Except EnvelopeValidationError (Bool × RecipientDeliveryState) :=
  if state.acknowledged = true then pure (false, state)
  else do
    refuseIf (state.deliveryAttempts = 0) .acknowledgedWithoutDelivery
    pure (true, { state with acknowledged := true })

end RecipientDeliveryState

structure GovernedChannel where
  version : ℕ
  channelId : String
  members : BTreeSet String
  publishers : BTreeSet String
deriving DecidableEq

namespace GovernedChannel

/-- `GovernedChannel::validate`. -/
def validate (channel : GovernedChannel) (limits : MessagingLimits) :
    Except EnvelopeValidationError Unit := do
  limits.validate
  refuseIf (channel.version ≠ governedChannelVersion)
    (.unsupportedVersion "governed_channel" channel.version governedChannelVersion)
  validateIdentifier "channel_id" channel.channelId limits
  refuseIf (channel.members.size = 0) .emptyChannelMembers
  refuseIf (limits.maxMembersPerChannel < channel.members.size)
    (.tooManyChannelMembers channel.members.size limits.maxMembersPerChannel)
  refuseIf (channel.publishers.size = 0) .emptyChannelPublishers
  refuseIf (limits.maxPublishersPerChannel < channel.publishers.size)
    (.tooManyChannelPublishers channel.publishers.size limits.maxPublishersPerChannel)
  channel.members.toList.forM fun member => validateIdentifier "channel_member" member limits
  channel.publishers.toList.forM fun publisher => do
    validateIdentifier "channel_publisher" publisher limits
    refuseIf (¬ channel.members.contains publisher = true) (.publisherNotMember publisher)

/-- `GovernedChannel::new`. -/
def new (channelId : String) (members publishers : BTreeSet String) (limits : MessagingLimits) :
    Except EnvelopeValidationError GovernedChannel := do
  let channel : GovernedChannel := ⟨governedChannelVersion, channelId, members, publishers⟩
  channel.validate limits
  pure channel

end GovernedChannel

/-- `MessageEnvelope`. Its one delivery guarantee is left out. -/
structure MessageEnvelope where
  version : ℕ
  id : MessageId
  address : MessageAddress
  senderId : String
  senderRole : RoleCategory
  sequence : ℕ
  payload : Json
  recipients : BTreeMap String RecipientDeliveryState

namespace MessageEnvelope

/-- The recipients of an envelope, in order. -/
def recipientIds (envelope : MessageEnvelope) : List String :=
  envelope.recipients.toList.map Prod.fst

/-- `MessageEnvelope::validate`. -/
def validate (envelope : MessageEnvelope) (limits : MessagingLimits) :
    Except EnvelopeValidationError Unit := do
  limits.validate
  refuseIf (envelope.version ≠ messageEnvelopeVersion)
    (.unsupportedVersion "message_envelope" envelope.version messageEnvelopeVersion)
  validateMessageId envelope.id limits
  envelope.address.validate limits
  validateIdentifier "sender_id" envelope.senderId limits
  refuseIf (envelope.sequence = 0) .zeroSequence
  (validatePayload envelope.payload limits.maxPayloadBytes).mapError .payload
  refuseIf (envelope.recipients.size = 0) .emptyRecipients
  refuseIf (limits.maxMembersPerChannel < envelope.recipients.size)
    (.tooManyRecipients envelope.recipients.size limits.maxMembersPerChannel)
  envelope.recipients.toList.forM fun recipient => do
    validateIdentifier "recipient_id" recipient.1 limits
    recipient.2.validate limits
  match envelope.address with
  | .direct recipientId =>
    refuseIf (envelope.recipients.size ≠ 1 ∨ ¬ envelope.recipients.contains recipientId = true)
      .directRecipientMismatch
  | .channel _ => pure ()

/-- `MessageEnvelope::new`. -/
def new (id : MessageId) (address : MessageAddress) (senderId : String)
    (senderRole : RoleCategory) (sequence : ℕ) (payload : Json) (recipientIds : BTreeSet String)
    (limits : MessagingLimits) : Except EnvelopeValidationError MessageEnvelope := do
  let envelope : MessageEnvelope :=
    { version := messageEnvelopeVersion
      id
      address
      senderId
      senderRole
      sequence
      payload
      recipients := BTreeMap.ofList
        (recipientIds.toList.map fun recipientId => (recipientId, .pending)) }
  envelope.validate limits
  pure envelope

/-- `MessageEnvelope::validate_for_channel`. -/
def validateForChannel (envelope : MessageEnvelope) (channel : GovernedChannel)
    (limits : MessagingLimits) : Except EnvelopeValidationError Unit := do
  envelope.validate limits
  channel.validate limits
  refuseIf (envelope.address ≠ .channel channel.channelId) .channelAddressMismatch
  refuseIf (envelope.recipientIds ≠ channel.members.toList) .channelRecipientMismatch
  refuseIf (¬ channel.publishers.contains envelope.senderId = true)
    (.channelPublisherNotPermitted channel.channelId envelope.senderId)

end MessageEnvelope

/-! ### Their documents -/

/-- `RoleCategory::as_str`. -/
def roleText : RoleCategory → String
  | .delegatingCoordinator => "delegating_coordinator"
  | .nonDelegatingTerminalWorker => "non_delegating_terminal_worker"
  | .readOnlyResearcher => "read_only_researcher"
  | .readOnlyReviewAuditor => "read_only_review_auditor"

/-- The document of an address. -/
def MessageAddress.document : MessageAddress → Json
  | .direct recipientId =>
    .object [("kind", .string "direct"), ("recipient_id", .string recipientId)]
  | .channel channelId =>
    .object [("kind", .string "channel"), ("channel_id", .string channelId)]

/-- The document of a delivery state. -/
def RecipientDeliveryState.document (state : RecipientDeliveryState) : Json :=
  .object [("delivery_attempts", .number state.deliveryAttempts),
    ("acknowledged", .bool state.acknowledged)]

/-- The document of a set of identifiers. -/
def identifiersDocument (identifiers : BTreeSet String) : Json :=
  .array (identifiers.toList.map .string)

/-- The document of a channel. -/
def GovernedChannel.document (channel : GovernedChannel) : Json :=
  .object [("version", .number channel.version), ("channel_id", .string channel.channelId),
    ("members", identifiersDocument channel.members),
    ("publishers", identifiersDocument channel.publishers)]

/-- The document of the recipients of an envelope. -/
def recipientsDocument (recipients : BTreeMap String RecipientDeliveryState) : Json :=
  .object (recipients.toList.map fun recipient => (recipient.1, recipient.2.document))

/-- The document of an envelope. -/
def MessageEnvelope.document (envelope : MessageEnvelope) : Json :=
  .object [("version", .number envelope.version), ("id", .string envelope.id),
    ("address", envelope.address.document), ("sender_id", .string envelope.senderId),
    ("sender_role", .string (roleText envelope.senderRole)),
    ("sequence", .number envelope.sequence),
    ("payload", envelope.payload), ("guarantee", .string "at_least_once"),
    ("recipients", recipientsDocument envelope.recipients)]

/-- The document of the limits. -/
def MessagingLimits.document (limits : MessagingLimits) : Json :=
  .object (limits.fields.map fun field => (field.1, .number field.2))

/-- The document of a hierarchy. -/
def authorityDocument (authority : BTreeMap String RoleCategory) : Json :=
  .object (authority.toList.map fun agent => (agent.1, .string (roleText agent.2)))

/-! ### How deep they nest -/

theorem MessageAddress.nesting_document (address : MessageAddress) :
    address.document.nesting = 1 := by
  cases address <;> rfl

theorem identifiersDocument_nesting (identifiers : BTreeSet String) :
    (identifiersDocument identifiers).nesting ≤ 1 :=
  Json.nesting_array_le (forall_mem_map.mpr fun _ _ => le_rfl)

theorem recipientsDocument_nesting (recipients : BTreeMap String RecipientDeliveryState) :
    (recipientsDocument recipients).nesting ≤ 2 :=
  Json.nesting_object_le (forall_mem_map.mpr fun _ _ => le_rfl)

theorem authorityDocument_nesting (authority : BTreeMap String RoleCategory) :
    (authorityDocument authority).nesting ≤ 1 :=
  Json.nesting_object_le (forall_mem_map.mpr fun _ _ => le_rfl)

theorem GovernedChannel.nesting_document (channel : GovernedChannel) :
    channel.document.nesting ≤ 2 := by
  have members := identifiersDocument_nesting channel.members
  have publishers := identifiersDocument_nesting channel.publishers
  simp only [GovernedChannel.document, nesting, membersNesting]
  omega

/-- An envelope nests one level deeper than its payload, or three levels for its recipients. -/
theorem MessageEnvelope.nesting_document (envelope : MessageEnvelope) :
    envelope.payload.nesting + 1 ≤ envelope.document.nesting ∧
      envelope.document.nesting ≤ max (envelope.payload.nesting + 1) 3 := by
  have address := envelope.address.nesting_document
  have recipients := recipientsDocument_nesting envelope.recipients
  simp only [MessageEnvelope.document, nesting, membersNesting]
  omega

/-! ### What a reader makes of them -/

section

variable (readFloat : FloatText → FloatText)

@[simp] theorem MessageAddress.reread_document (address : MessageAddress) :
    address.document.reread readFloat = address.document := by
  cases address <;> rfl

@[simp] theorem identifiersDocument_reread (identifiers : BTreeSet String) :
    (identifiersDocument identifiers).reread readFloat = identifiersDocument identifiers :=
  Json.reread_array (forall_mem_map.mpr fun _ _ => rfl)

@[simp] theorem recipientsDocument_reread (recipients : BTreeMap String RecipientDeliveryState) :
    (recipientsDocument recipients).reread readFloat = recipientsDocument recipients :=
  Json.reread_object (forall_mem_map.mpr fun _ _ => rfl)

@[simp] theorem authorityDocument_reread (authority : BTreeMap String RoleCategory) :
    (authorityDocument authority).reread readFloat = authorityDocument authority :=
  Json.reread_object (forall_mem_map.mpr fun _ _ => rfl)

@[simp] theorem GovernedChannel.reread_document (channel : GovernedChannel) :
    channel.document.reread readFloat = channel.document := by
  simp only [GovernedChannel.document, reread, rereadMembers, identifiersDocument_reread]

end

end Maco.Messaging
