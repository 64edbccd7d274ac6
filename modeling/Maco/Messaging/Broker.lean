import Maco.Messaging.Chain

/-!
# The message broker

The broker authenticates its callers, checks a request against its own state, has the store append
one event, and only then changes its state. Opening a store replays its events into a new broker.

The digests the broker takes (the integrity key of a store from the credentials, the binding of a
store to its path and hierarchy) are parameters, and so is the random part of a store's identity.
-/

namespace Maco.Messaging

open Maco.Base
open Maco.Turn (RoleCategory)

def maxCredentialInspectionWork : ℕ := 64 * 1024 * 1024

structure PresentedCredential where
  agentId : String
  secret : String
deriving DecidableEq, Repr

/-- `CredentialRegistry`, as the secret of each principal. -/
abbrev CredentialRegistry : Type := BTreeMap String String

inductive MessagingError where
  | invalidIdentifier (field : String)
  | credentialCapacityExceeded (limit : ℕ)
  | unknownCredential (agentId : String)
  | badCredential (agentId : String)
  | unknownAuthorityPrincipal (agentId : String)
  | emptyCredentialRegistry
  | unauthorizedChannelCreator (agentId : String)
  | duplicateChannel (channelId : String)
  | channelCapacityExceeded (limit : ℕ)
  | duplicateChannelMember (channelId agentId : String)
  | duplicateChannelPublisher (channelId agentId : String)
  | tooManyChannelMembers (channelId : String) (limit : ℕ)
  | tooManyChannelPublishers (channelId : String) (limit : ℕ)
  | invalidChannelPolicy (channelId : String)
  | unknownChannel (channelId : String)
  | nonMemberDelivery (channelId agentId : String)
  | nonMemberChannelOperation (channelId agentId : String)
  | unauthorizedBroadcastPublication (channelId agentId : String)
  | unknownRecipient (recipientId : String)
  | misaddressedRecipient (recipientId : String)
  | nonRecipientDelivery (messageId : MessageId) (agentId : String)
  | nonRecipientAcknowledgement (messageId : MessageId) (agentId : String)
  | nonMemberAcknowledgement (channelId : String) (messageId : MessageId) (agentId : String)
  | unknownMessage (messageId : MessageId)
  | messageSequenceExhausted
  | messageCapacityExceeded (limit : ℕ)
  | deliveryAttemptLimitExceeded (messageId : MessageId) (recipientId : String)
  | payloadContainsCredentialSecret
  | payloadCredentialInspectionLimitExceeded (maxWork : ℕ)
  | inconsistentState (kind : String)
  | envelope (error : EnvelopeValidationError)
  | store (error : StoreError)
deriving DecidableEq, Repr

inductive AcknowledgementOutcome where
  | acknowledged
  | alreadyAcknowledged
deriving DecidableEq, Repr

/-- `validate_identifier` of the broker. -/
def MessagingBroker.validateIdentifier (field value : String) (maxBytes : ℕ) :
    Except MessagingError Unit :=
  refuseIf (value = "" ∨ value ≠ trim value ∨ maxBytes < byteLength value ∨
    ¬ allChars isIdentifierChar value = true) (.invalidIdentifier field)

namespace CredentialRegistry

variable (credentials : CredentialRegistry)

/-- `CredentialRegistry::authenticate`. -/
def authenticate (presented : PresentedCredential) : Except MessagingError Unit := do
  let expected ← require credentials[presented.agentId]? (.unknownCredential presented.agentId)
  refuseIf (expected ≠ presented.secret) (.badCredential presented.agentId)

/-- `credential_substring_scan_work`. -/
def credentialSubstringScanWork (valueLength secretLength : ℕ) : ℕ :=
  (if secretLength = 0 ∨ valueLength < secretLength then 0
    else (valueLength - secretLength + 1) * secretLength) + 1

/-- `contains_bytes_constant_time`, of texts that are not empty. -/
def containsBytesConstantTime (value secret : String) : Bool :=
  secret != "" && containsText value secret

/-- `string_contains_registered_secret`, with the work and the answer so far. -/
def stringContainsRegisteredSecret (maxWork : ℕ) (spent : ℕ × Bool) (value : String) :
    Except MessagingError (ℕ × Bool) :=
  credentials.values.foldlM (fun spent secret => do
    let next := spent.1 + credentialSubstringScanWork (byteLength value) (byteLength secret)
    refuseIf (maxWork < next) (.payloadCredentialInspectionLimitExceeded maxWork)
    pure (next, spent.2 || containsBytesConstantTime value secret)) spent

/-- `payload_contains_registered_secret`. The strings are inspected in another order than the source
does, which changes neither the answer nor whether the work suffices. -/
def payloadContainsRegisteredSecret (payload : Json) : Except MessagingError Bool := do
  let spent ← payload.strings.foldlM
    (credentials.stringContainsRegisteredSecret maxCredentialInspectionWork) (0, false)
  pure spent.2

end CredentialRegistry

/-- The state a broker rebuilds from its store. -/
structure Replica where
  channels : BTreeMap String GovernedChannel
  messages : BTreeMap MessageId MessageEnvelope
  messageOrder : List MessageId
  nextSequence : ℕ

structure MessagingBroker extends Replica where
  store : MessagingStore
  credentials : CredentialRegistry
  authorityBinding : BTreeMap String RoleCategory
  limits : MessagingLimits

/-- What a broker is created and opened with. -/
structure Setting where
  credentials : CredentialRegistry
  authorityBinding : BTreeMap String RoleCategory
  limits : MessagingLimits
  /-- The tags under the key derived from the credentials. -/
  crates : Crates
  /-- The digest of the path and the hierarchy. -/
  digest : String

/-- `broker_instance_binding`. -/
def Setting.brokerBinding (setting : Setting) : String := "messaging-v1-" ++ setting.digest

/-- What the store of a broker is expected to hold. -/
def Setting.expected (setting : Setting) : Expected :=
  ⟨setting.brokerBinding, setting.authorityBinding, setting.limits⟩

/-- `validate_registry_binding`. -/
def validateRegistryBinding (credentials : CredentialRegistry)
    (authorityBinding : BTreeMap String RoleCategory) : Except MessagingError Unit := do
  refuseIf (credentials.size = 0) .emptyCredentialRegistry
  credentials.toList.forM fun principal =>
    refuseIf (¬ authorityBinding.contains principal.1 = true)
      (.unknownAuthorityPrincipal principal.1)

/-- `validate_registry_limits`. -/
def validateRegistryLimits (credentials : CredentialRegistry) (limits : MessagingLimits) :
    Except MessagingError Unit := do
  refuseIf (limits.maxCredentials < credentials.size)
    (.credentialCapacityExceeded limits.maxCredentials)
  credentials.toList.forM fun principal =>
    MessagingBroker.validateIdentifier "credential agent id" principal.1 limits.maxIdentifierBytes

/-- `message_id`. -/
def messageId (brokerInstanceId : String) (sequence : ℕ) (limits : MessagingLimits) :
    Except MessagingError MessageId := do
  refuseIf (sequence = 0) .messageSequenceExhausted
  (validateMessageId (messageIdText brokerInstanceId sequence) limits).mapError .envelope
  pure (messageIdText brokerInstanceId sequence)

/-- `collect_unique_policy`. -/
def collectUniquePolicy (values : List String) (limit maxIdentifierBytes : ℕ)
    (duplicate : String → MessagingError) (tooMany : MessagingError) :
    Except MessagingError (BTreeSet String) :=
  values.foldlM (fun collected value => do
    refuseIf (limit ≤ collected.size) tooMany
    MessagingBroker.validateIdentifier "channel principal id" value maxIdentifierBytes
    refuseIf (collected.contains value = true) (duplicate value)
    pure (collected.insert value)) ∅

/-! ### Replay -/

namespace Replica

/-- Before the first event. -/
def new : Replica := ⟨∅, ∅, [], 1⟩

variable (replica : Replica) (setting : Setting)

/-- `validate_replayed_channel`. -/
def validateReplayedChannel (channel : GovernedChannel) : Except MessagingError Unit := do
  context (channel.validate setting.limits)
    (.inconsistentState "persisted channel policy violates messaging bounds")
  refuseIf (channel.members.size = 0 ∨ channel.publishers.size = 0 ∨
      (∃ publisher ∈ channel.publishers.toList, ¬ channel.members.contains publisher = true) ∨
      ∃ principal ∈ channel.members.toList ++ channel.publishers.toList,
        ¬ setting.authorityBinding.contains principal = true)
    (.inconsistentState
      "persisted channel policy contains an unknown or unauthorized principal")
  refuseIf (∃ principal ∈ channel.members.toList ++ channel.publishers.toList,
      ¬ setting.credentials.contains principal = true)
    (.inconsistentState
      "persisted channel policy contains a known but non-addressable principal")

/-- The checks of the address of a replayed message. -/
def validateReplayedAddress (envelope : MessageEnvelope) : Except MessagingError Unit :=
  match envelope.address with
  | .direct recipientId =>
    refuseIf (¬ setting.authorityBinding.contains recipientId = true ∨
        envelope.recipients.size ≠ 1 ∨ ¬ envelope.recipients.contains recipientId = true)
      (.inconsistentState "direct message recipients do not match its address")
  | .channel channelId => do
    let channel ← require replica.channels[channelId]?
      (.inconsistentState "channel message references an unknown channel")
    refuseIf (¬ channel.publishers.contains envelope.senderId = true ∨
        ¬ channel.members.contains envelope.senderId = true ∨
        envelope.recipientIds ≠ channel.members.toList)
      (.inconsistentState "channel message violates persisted publisher or membership policy")

/-- `validate_replayed_message`. -/
def validateReplayedMessage (envelope : MessageEnvelope) : Except MessagingError Unit := do
  context (envelope.validate setting.limits)
    (.inconsistentState "persisted envelope violates messaging bounds")
  refuseIf (∃ recipient ∈ envelope.recipients.toList,
      recipient.2.deliveryAttempts ≠ 0 ∨ recipient.2.acknowledged = true)
    (.inconsistentState
      "new message contains an unsupported guarantee or pre-mutated delivery state")
  let expectedRole ← require setting.authorityBinding[envelope.senderId]?
    (.inconsistentState "message sender is absent from the authority binding")
  refuseIf (expectedRole ≠ envelope.senderRole)
    (.inconsistentState "message sender role differs from the authority binding")
  refuseIf (∃ recipient ∈ envelope.recipientIds, ¬ setting.credentials.contains recipient = true)
    (.inconsistentState "persisted message recipient is no longer credential-addressable")
  replica.validateReplayedAddress setting envelope

/-- The envelope and the delivery state of a recipient an event names. -/
def findDelivery (messageId : MessageId) (recipientId : String)
    (unknown stranger : MessagingError) :
    Except MessagingError (MessageEnvelope × RecipientDeliveryState) := do
  let message ← require replica.messages[messageId]? unknown
  let delivery ← require message.recipients[recipientId]? stranger
  pure (message, delivery)

/-- The replica with one delivery state replaced. -/
def setDelivery (message : MessageEnvelope) (messageId : MessageId) (recipientId : String)
    (delivery : RecipientDeliveryState) : Replica :=
  { replica with
    messages := replica.messages.insert messageId
      { message with recipients := message.recipients.insert recipientId delivery } }

/-- The replica with a channel added. -/
def addChannel (channel : GovernedChannel) : Replica :=
  { replica with channels := replica.channels.insert channel.channelId channel }

/-- The replica with a message added. -/
def addMessage (envelope : MessageEnvelope) (nextSequence : ℕ) : Replica :=
  { replica with
    messages := replica.messages.insert envelope.id envelope
    messageOrder := replica.messageOrder ++ [envelope.id]
    nextSequence }

/-- The body of the loop of `replay`, after the creation of the store. -/
def applyEvent (header : StoreHeader) (replica : Replica) (event : StoreEvent) :
    Except MessagingError Replica :=
  match event with
  | .created _ =>
    .error (.inconsistentState "store creation event does not match its header")
  | .channelCreated channel => do
    refuseIf (replica.channels.contains channel.channelId = true)
      (.inconsistentState "channel creation is duplicated or precedes store creation")
    refuseIf (setting.limits.maxChannels ≤ replica.channels.size)
      (.inconsistentState "persisted channel count exceeds its configured bound")
    validateReplayedChannel setting channel
    pure (replica.addChannel channel)
  | .messageSent envelope => do
    refuseIf (envelope.sequence ≠ replica.nextSequence)
      (.inconsistentState "message sequence is missing, duplicated, or out of order")
    refuseIf (setting.limits.maxMessages ≤ replica.messages.size)
      (.inconsistentState "persisted message count exceeds its configured bound")
    let expectedId ← messageId header.brokerInstanceId envelope.sequence setting.limits
    refuseIf (envelope.id ≠ expectedId ∨ replica.messages.contains envelope.id = true)
      (.inconsistentState "message id is duplicated or inconsistent with its sequence")
    replica.validateReplayedMessage setting envelope
    let nextSequence ← require (checkedAddU64 replica.nextSequence 1) .messageSequenceExhausted
    pure (replica.addMessage envelope nextSequence)
  | .deliveryAttempted messageId recipientId attempt => do
    let (message, delivery) ← replica.findDelivery messageId recipientId
      (.inconsistentState "delivery attempt references an unknown message")
      (.inconsistentState "delivery attempt references a non-recipient")
    let preview ← context (delivery.recordDeliveryAttempt setting.limits)
      (.inconsistentState "persisted delivery attempt exceeds its configured bound")
    refuseIf (preview.deliveryAttempts ≠ attempt) (.inconsistentState
      "delivery attempts are duplicated, out of order, or after acknowledgement")
    pure (replica.setDelivery message messageId recipientId preview)
  | .acknowledged messageId recipientId => do
    let (message, delivery) ← replica.findDelivery messageId recipientId
      (.inconsistentState "acknowledgement references an unknown message")
      (.inconsistentState "acknowledgement references a non-recipient")
    let (first, acknowledged) ← context delivery.acknowledge
      (.inconsistentState "acknowledgement precedes delivery")
    refuseIf (¬ first = true) (.inconsistentState "acknowledgement is duplicated")
    pure (replica.setDelivery message messageId recipientId acknowledged)

end Replica

def replay (setting : Setting) (store : MessagingStore) : Except MessagingError Replica :=
  match store.events with
  | .created header :: events => do
    refuseIf (header.brokerInstanceId ≠ store.header.brokerInstanceId ∨
        header.authorityBinding ≠ setting.authorityBinding ∨ header.limits ≠ setting.limits)
      (.inconsistentState "store creation event does not match its header")
    events.foldlM (Replica.applyEvent setting store.header) .new
  | .channelCreated _ :: _ =>
    .error (.inconsistentState "channel creation is duplicated or precedes store creation")
  | .messageSent _ :: _ =>
    .error (.inconsistentState "message sequence is missing, duplicated, or out of order")
  | .deliveryAttempted _ _ _ :: _ =>
    .error (.inconsistentState "delivery attempt references an unknown message")
  | .acknowledged _ _ :: _ =>
    .error (.inconsistentState "acknowledgement references an unknown message")
  | [] => .error (.inconsistentState "store has no creation event")

namespace MessagingBroker

/-- `from_store`. -/
def fromStore (setting : Setting) (store : MessagingStore) :
    Except MessagingError MessagingBroker := do
  refuseIf (store.header.authorityBinding ≠ setting.authorityBinding)
    (.inconsistentState "persisted hierarchy authority binding changed")
  refuseIf (store.header.limits ≠ setting.limits)
    (.inconsistentState "persisted messaging limits changed")
  let replica ← replay setting store
  pure { replica with
    store
    credentials := setting.credentials
    authorityBinding := setting.authorityBinding
    limits := setting.limits }

/-- The checks `create` and `open` begin with. -/
def checkSetting (setting : Setting) : Except MessagingError Unit := do
  setting.limits.validate.mapError .envelope
  validateRegistryBinding setting.credentials setting.authorityBinding
  validateRegistryLimits setting.credentials setting.limits

/-- `MessagingBroker::create`. -/
def create (setting : Setting) (generation : String) : Except MessagingError MessagingBroker := do
  checkSetting setting
  let store ← (MessagingStore.create setting.crates
    ⟨setting.brokerBinding ++ "-" ++ generation, setting.authorityBinding,
      setting.limits⟩).mapError .store
  fromStore setting store

/-- `MessagingBroker::open`, and the files it leaves. -/
def reopen (setting : Setting) (disk : Disk) (io : ℕ) :
    Except MessagingError MessagingBroker × Disk :=
  match checkSetting setting with
  | .error error => (.error error, disk)
  | .ok _ =>
    match MessagingStore.reopen setting.crates setting.expected disk io with
    | (.error error, left) => (.error (.store error), left)
    | (.ok store, left) => (fromStore setting store, left)

section

variable (setting : Setting)

/-- `self.store.append(event)?` and then the change of the broker's own state. -/
def commit {α : Type} (broker : MessagingBroker) (event : StoreEvent) (io : ℕ)
    (finish : Replica → Except MessagingError (α × Replica)) :
    Except MessagingError α × MessagingBroker :=
  match broker.store.append setting.crates event io with
  | (.error error, store) => (.error (.store error), { broker with store })
  | (.ok _, store) =>
    match finish broker.toReplica with
    | .error error => (.error error, { broker with store })
    | .ok (answer, replica) =>
      (.ok answer, { broker with toReplica := replica, store })

variable (broker : MessagingBroker) (credential : PresentedCredential)

def authenticate : Except MessagingError (String × RoleCategory) := do
  broker.credentials.authenticate credential
  let role ← require broker.authorityBinding[credential.agentId]?
    (.unknownAuthorityPrincipal credential.agentId)
  pure (credential.agentId, role)

/-- The checks of `create_channel`, and the channel it will create. -/
def prepareChannel (channelId : String) (members publishers : List String) :
    Except MessagingError GovernedChannel := do
  let (creatorId, creatorRole) ← broker.authenticate credential
  refuseIf (creatorRole ≠ .delegatingCoordinator) (.unauthorizedChannelCreator creatorId)
  validateIdentifier "channel id" channelId broker.limits.maxIdentifierBytes
  refuseIf (broker.channels.contains channelId = true) (.duplicateChannel channelId)
  refuseIf (broker.limits.maxChannels ≤ broker.channels.size)
    (.channelCapacityExceeded broker.limits.maxChannels)
  let members ← collectUniquePolicy members broker.limits.maxMembersPerChannel
    broker.limits.maxIdentifierBytes (.duplicateChannelMember channelId)
    (.tooManyChannelMembers channelId broker.limits.maxMembersPerChannel)
  let publishers ← collectUniquePolicy publishers broker.limits.maxPublishersPerChannel
    broker.limits.maxIdentifierBytes (.duplicateChannelPublisher channelId)
    (.tooManyChannelPublishers channelId broker.limits.maxPublishersPerChannel)
  refuseIf (¬ members.contains creatorId = true ∨ ¬ publishers.contains creatorId = true ∨
      publishers.size = 0 ∨ members.size = 0 ∨
      ∃ publisher ∈ publishers.toList, ¬ members.contains publisher = true)
    (.invalidChannelPolicy channelId)
  (members.toList ++ publishers.toList).forM fun principal => do
    refuseIf (¬ broker.authorityBinding.contains principal = true) (.unknownRecipient principal)
    refuseIf (¬ broker.credentials.contains principal = true) (.misaddressedRecipient principal)
  context (GovernedChannel.new channelId members publishers broker.limits)
    (.invalidChannelPolicy channelId)

/-- `create_channel`. -/
def createChannel (channelId : String) (members publishers : List String) (io : ℕ) :
    Except MessagingError GovernedChannel × MessagingBroker :=
  match broker.prepareChannel credential channelId members publishers with
  | .error error => (.error error, broker)
  | .ok channel => broker.commit setting (.channelCreated channel) io fun replica =>
    pure (channel, replica.addChannel channel)

/-- The checks of `append_message`, and the envelope it will append with the next sequence. -/
def prepareMessage (address : MessageAddress) (senderId : String) (senderRole : RoleCategory)
    (recipientIds : BTreeSet String) (payload : Json) :
    Except MessagingError (MessageEnvelope × ℕ) := do
  (validatePayload payload broker.limits.maxPayloadBytes).mapError
    fun error => .envelope (.payload error)
  let secret ← broker.credentials.payloadContainsRegisteredSecret payload
  refuseIf (secret = true) .payloadContainsCredentialSecret
  refuseIf (broker.limits.maxMessages ≤ broker.messages.size)
    (.messageCapacityExceeded broker.limits.maxMessages)
  let id ← messageId broker.store.header.brokerInstanceId broker.nextSequence broker.limits
  let envelope ← (MessageEnvelope.new id address senderId senderRole broker.nextSequence payload
    recipientIds broker.limits).mapError .envelope
  refuseIf (broker.messages.contains id = true)
    (.inconsistentState "derived message id is duplicated")
  let nextSequence ← require (checkedAddU64 broker.nextSequence 1) .messageSequenceExhausted
  pure (envelope, nextSequence)

/-- The end of `append_message`. -/
def appendMessage (envelope : MessageEnvelope) (nextSequence io : ℕ) :
    Except MessagingError MessageEnvelope × MessagingBroker :=
  broker.commit setting (.messageSent envelope) io fun replica =>
    pure (envelope, replica.addMessage envelope nextSequence)

/-- The checks of `send_direct`. -/
def prepareDirect (recipientId : String) (payload : Json) :
    Except MessagingError (MessageEnvelope × ℕ) := do
  let (senderId, senderRole) ← broker.authenticate credential
  validateIdentifier "direct recipient id" recipientId broker.limits.maxIdentifierBytes
  refuseIf (¬ broker.authorityBinding.contains recipientId = true) (.unknownRecipient recipientId)
  refuseIf (¬ broker.credentials.contains recipientId = true) (.misaddressedRecipient recipientId)
  broker.prepareMessage (.direct recipientId) senderId senderRole (.ofList [recipientId]) payload

/-- `send_direct`. -/
def sendDirect (recipientId : String) (payload : Json) (io : ℕ) :
    Except MessagingError MessageEnvelope × MessagingBroker :=
  match broker.prepareDirect credential recipientId payload with
  | .error error => (.error error, broker)
  | .ok (envelope, nextSequence) => broker.appendMessage setting envelope nextSequence io

/-- The checks of `publish_channel`. -/
def prepareBroadcast (channelId : String) (payload : Json) :
    Except MessagingError (MessageEnvelope × ℕ) := do
  let (senderId, senderRole) ← broker.authenticate credential
  validateIdentifier "channel id" channelId broker.limits.maxIdentifierBytes
  let channel ← require broker.channels[channelId]? (.unknownChannel channelId)
  refuseIf (¬ channel.members.contains senderId = true)
    (.nonMemberChannelOperation channelId senderId)
  refuseIf (¬ channel.publishers.contains senderId = true)
    (.unauthorizedBroadcastPublication channelId senderId)
  broker.prepareMessage (.channel channelId) senderId senderRole channel.members payload

/-- `publish_channel`. -/
def publishChannel (channelId : String) (payload : Json) (io : ℕ) :
    Except MessagingError MessageEnvelope × MessagingBroker :=
  match broker.prepareBroadcast credential channelId payload with
  | .error error => (.error error, broker)
  | .ok (envelope, nextSequence) => broker.appendMessage setting envelope nextSequence io

/-- The delivery attempt `record_delivery_attempt` will record. -/
def previewDelivery (messageId : MessageId) (recipientId : String) :
    Except MessagingError RecipientDeliveryState := do
  let (_, delivery) ← broker.toReplica.findDelivery messageId recipientId
    (.unknownMessage messageId)
    (.inconsistentState "delivery selection chose a non-recipient")
  refuseIf (delivery.acknowledged = true)
    (.inconsistentState "delivery selection chose an acknowledged recipient")
  context (delivery.recordDeliveryAttempt broker.limits)
    (.deliveryAttemptLimitExceeded messageId recipientId)

/-- `record_delivery_attempt`. -/
def recordDeliveryAttempt (messageId : MessageId) (recipientId : String) (io : ℕ) :
    Except MessagingError MessageEnvelope × MessagingBroker :=
  match broker.previewDelivery messageId recipientId with
  | .error error => (.error error, broker)
  | .ok preview =>
    broker.commit setting (.deliveryAttempted messageId recipientId preview.deliveryAttempts) io
      fun replica => do
        let (message, _) ← replica.findDelivery messageId recipientId
          (.inconsistentState "message disappeared after delivery append")
          (.inconsistentState "recipient disappeared after delivery append")
        pure ({ message with recipients := message.recipients.insert recipientId preview },
          replica.setDelivery message messageId recipientId preview)

/-- A delivery of a message that was selected, if any. -/
def deliver (recipientId : String) (io : ℕ) :
    Option MessageId → Except MessagingError (Option MessageEnvelope) × MessagingBroker
  | none => (.ok none, broker)
  | some messageId =>
    match broker.recordDeliveryAttempt setting messageId recipientId io with
    | (.error error, next) => (.error error, next)
    | (.ok envelope, next) => (.ok (some envelope), next)

/-- Whether a message awaits the acknowledgement of a recipient. -/
def awaits (recipientId : String) (eligible : MessageEnvelope → Bool) (messageId : MessageId) :
    Bool :=
  match broker.messages[messageId]? with
  | none => false
  | some message =>
    eligible message &&
      match message.recipients[recipientId]? with
      | none => false
      | some state => !state.acknowledged

/-- `receive_next`. -/
def receiveNext (io : ℕ) : Except MessagingError (Option MessageEnvelope) × MessagingBroker :=
  match broker.authenticate credential with
  | .error error => (.error error, broker)
  | .ok (recipientId, _) =>
    broker.deliver setting recipientId io
      (broker.messageOrder.find? (broker.awaits recipientId fun _ => true))

/-- The checks of `receive_message`: the message, unless it has been acknowledged. -/
def selectMessage (recipientId : String) (messageId : MessageId) :
    Except MessagingError (Option MessageId) := do
  (validateMessageId messageId broker.limits).mapError .envelope
  let message ← require broker.messages[messageId]? (.unknownMessage messageId)
  let delivery ← require message.recipients[recipientId]?
    (match message.address with
      | .direct _ => .nonRecipientDelivery messageId recipientId
      | .channel channelId => .nonMemberDelivery channelId recipientId)
  pure (if delivery.acknowledged = true then none else some messageId)

/-- `receive_message`. -/
def receiveMessage (messageId : MessageId) (io : ℕ) :
    Except MessagingError (Option MessageEnvelope) × MessagingBroker :=
  match broker.authenticate credential with
  | .error error => (.error error, broker)
  | .ok (recipientId, _) =>
    match broker.selectMessage recipientId messageId with
    | .error error => (.error error, broker)
    | .ok selected => broker.deliver setting recipientId io selected

/-- The checks of `receive_next_from_channel`. -/
def checkMember (recipientId channelId : String) : Except MessagingError Unit := do
  validateIdentifier "channel id" channelId broker.limits.maxIdentifierBytes
  let channel ← require broker.channels[channelId]? (.unknownChannel channelId)
  refuseIf (¬ channel.members.contains recipientId = true)
    (.nonMemberDelivery channelId recipientId)

/-- `receive_next_from_channel`. -/
def receiveNextFromChannel (channelId : String) (io : ℕ) :
    Except MessagingError (Option MessageEnvelope) × MessagingBroker :=
  match broker.authenticate credential with
  | .error error => (.error error, broker)
  | .ok (recipientId, _) =>
    match broker.checkMember recipientId channelId with
    | .error error => (.error error, broker)
    | .ok _ =>
      broker.deliver setting recipientId io
        (broker.messageOrder.find? (broker.awaits recipientId fun message =>
          decide (message.address = .channel channelId)))

/-- The checks of `acknowledge`: the state of the caller's delivery. -/
def checkAcknowledgement (recipientId : String) (messageId : MessageId) :
    Except MessagingError RecipientDeliveryState := do
  (validateMessageId messageId broker.limits).mapError .envelope
  let message ← require broker.messages[messageId]? (.unknownMessage messageId)
  require message.recipients[recipientId]?
    (match message.address with
      | .direct _ => .nonRecipientAcknowledgement messageId recipientId
      | .channel channelId => .nonMemberAcknowledgement channelId messageId recipientId)

def acknowledge (messageId : MessageId) (io : ℕ) :
    Except MessagingError AcknowledgementOutcome × MessagingBroker :=
  match broker.authenticate credential with
  | .error error => (.error error, broker)
  | .ok (recipientId, _) =>
    match broker.checkAcknowledgement recipientId messageId with
    | .error error => (.error error, broker)
    | .ok delivery =>
      if delivery.acknowledged = true then (.ok .alreadyAcknowledged, broker)
      else if delivery.deliveryAttempts = 0 then
        (.error (.inconsistentState "acknowledgement before first delivery is forbidden"), broker)
      else
        broker.commit setting (.acknowledged messageId recipientId) io fun replica => do
          let (message, delivery) ← replica.findDelivery messageId recipientId
            (.inconsistentState "message disappeared after acknowledgement append")
            (.inconsistentState "recipient disappeared after acknowledgement append")
          let (first, acknowledged) ← context delivery.acknowledge
            (.inconsistentState "recipient became ineligible after acknowledgement append")
          refuseIf (¬ first = true)
            (.inconsistentState "recipient became acknowledged after acknowledgement append")
          pure (.acknowledged, replica.setDelivery message messageId recipientId acknowledged)

end

end MessagingBroker

/-- A call of the broker. -/
inductive Request where
  | createChannel (credential : PresentedCredential) (channelId : String)
      (members publishers : List String)
  | sendDirect (credential : PresentedCredential) (recipientId : String) (payload : Json)
  | publishChannel (credential : PresentedCredential) (channelId : String) (payload : Json)
  | receiveNext (credential : PresentedCredential)
  | receiveMessage (credential : PresentedCredential) (messageId : MessageId)
  | receiveNextFromChannel (credential : PresentedCredential) (channelId : String)
  | acknowledge (credential : PresentedCredential) (messageId : MessageId)

/-- What a call that succeeds returns. -/
inductive Response where
  | channel (channel : GovernedChannel)
  | sent (envelope : MessageEnvelope)
  | received (envelope : Option MessageEnvelope)
  | outcome (outcome : AcknowledgementOutcome)

/-- A result with its answer wrapped. -/
def wrapAnswer {α : Type} (wrap : α → Response)
    (result : Except MessagingError α × MessagingBroker) :
    Except MessagingError Response × MessagingBroker := (result.1.map wrap, result.2)

/-- One call, whose append completes at most so many of its steps. -/
def MessagingBroker.perform (setting : Setting) (broker : MessagingBroker) (request : Request)
    (io : ℕ) : Except MessagingError Response × MessagingBroker :=
  match request with
  | .createChannel credential channelId members publishers =>
    wrapAnswer .channel (broker.createChannel setting credential channelId members publishers io)
  | .sendDirect credential recipientId payload =>
    wrapAnswer .sent (broker.sendDirect setting credential recipientId payload io)
  | .publishChannel credential channelId payload =>
    wrapAnswer .sent (broker.publishChannel setting credential channelId payload io)
  | .receiveNext credential => wrapAnswer .received (broker.receiveNext setting credential io)
  | .receiveMessage credential messageId =>
    wrapAnswer .received (broker.receiveMessage setting credential messageId io)
  | .receiveNextFromChannel credential channelId =>
    wrapAnswer .received (broker.receiveNextFromChannel setting credential channelId io)
  | .acknowledge credential messageId =>
    wrapAnswer .outcome (broker.acknowledge setting credential messageId io)

end Maco.Messaging
