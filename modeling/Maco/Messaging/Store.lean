import Maco.Messaging.Envelope

/-!
# The messaging journal

One line per event, each line chained to the one before by a keyed checksum, and a tail anchor that
binds the length and the last checksum of the journal. A replacement of the anchor is written to a
temporary file and renamed over it. Opening a journal reads every line, replays the events, and
repairs an anchor that lags behind.

The files are the lines of the journal, the anchor and the temporary anchor. A line is written
whole and a rename is atomic. An operation on the files is a list of steps, and a number says how
many of them complete before the process fails or dies. The file locks, the identities of the files
and the search for outside changes are left out: nothing but the store writes the files.
-/

namespace Maco.Messaging

open Maco.Base
open Maco.Turn (RoleCategory)

def journalFormatVersion : ℕ := 1

def tailAnchorFormatVersion : ℕ := 1

def genesisChecksum : String := String.ofList (List.replicate 64 '0')

def maxBrokerInstanceIdBytes : ℕ := 256

def maxAuthorityIdentities : ℕ := 65536

def hardMaxJournalRecords : ℕ := 1000000

def hardMaxJournalBytes : ℕ := 512 * 1024 * 1024

/-- The deepest nesting the JSON reader accepts. -/
def readerNesting : ℕ := 127

structure StoreHeader where
  brokerInstanceId : String
  authorityBinding : BTreeMap String RoleCategory
  limits : MessagingLimits
deriving DecidableEq

inductive StoreEvent where
  | created (header : StoreHeader)
  | channelCreated (channel : GovernedChannel)
  | messageSent (envelope : MessageEnvelope)
  | deliveryAttempted (messageId : MessageId) (recipientId : String) (attempt : ℕ)
  | acknowledged (messageId : MessageId) (recipientId : String)

/-- Whether an event is the creation of a store. -/
def StoreEvent.isCreated : StoreEvent → Bool
  | .created _ => true
  | _ => false

/-- The document of an event. -/
def StoreEvent.document : StoreEvent → Json
  | .created header =>
    .object [("event", .string "created"),
      ("broker_instance_id", .string header.brokerInstanceId),
      ("authority_binding", authorityDocument header.authorityBinding),
      ("limits", header.limits.document)]
  | .channelCreated channel =>
    .object [("event", .string "channel_created"), ("channel", channel.document)]
  | .messageSent envelope =>
    .object [("event", .string "message_sent"), ("envelope", envelope.document)]
  | .deliveryAttempted messageId recipientId attempt =>
    .object [("event", .string "delivery_attempted"), ("message_id", .string messageId),
      ("recipient_id", .string recipientId), ("attempt", .number attempt)]
  | .acknowledged messageId recipientId =>
    .object [("event", .string "acknowledged"), ("message_id", .string messageId),
      ("recipient_id", .string recipientId)]

structure JournalRecord where
  version : ℕ
  sequence : ℕ
  previousChecksum : String
  event : StoreEvent
  checksum : String

namespace JournalRecord

/-- The document of a record. -/
def document (record : JournalRecord) : Json :=
  .object [("version", .number record.version), ("sequence", .number record.sequence),
    ("previous_checksum", .string record.previousChecksum), ("event", record.event.document),
    ("checksum", .string record.checksum)]

/-- The bytes of a line, its end included. -/
def lineBytes (record : JournalRecord) : ℕ := record.document.size + 1

end JournalRecord

/-- The bytes of a journal. -/
def journalBytes (journal : List JournalRecord) : ℕ := (journal.map JournalRecord.lineBytes).sum

structure TailAnchor where
  version : ℕ
  journalBytes : ℕ
  lastSequence : ℕ
  lastChecksum : String
  authenticationTag : String
deriving DecidableEq, Repr

structure JournalCheckpoint where
  journalBytes : ℕ
  sequence : ℕ
  checksum : String
deriving DecidableEq, Repr

/-- `StoreError`. The text of an error of the envelopes is the error itself. -/
inductive StoreError where
  | missingTailAnchor
  | tailAnchorTemporaryExists
  | malformedTailAnchor (detail : String)
  | tailAnchorAuthenticationFailed
  | tailAnchorMismatch
  | io
  | emptyJournal
  | malformedRecord (recordIndex : ℕ)
  | unsupportedVersion (recordIndex found expected : ℕ)
  | nonCanonicalRecord (recordIndex : ℕ)
  | firstRecordNotCreated
  | duplicateCreated (recordIndex : ℕ)
  | outOfOrderSequence (recordIndex expected found : ℕ)
  | checksumMismatch (sequence : ℕ)
  | invalidBrokerIdentity
  | brokerBindingMismatch
  | invalidAuthorityIdentity (agentId : String)
  | invalidAuthorityBinding
  | authorityBindingMismatch
  | limitsMismatch
  | rejectedLimits (error : EnvelopeValidationError)
  | invalidLimits (detail : String)
  | rejectedEvent (error : EnvelopeValidationError)
  | invalidEvent (detail : String)
  | invalidStateTransition (detail : String)
  | unknownEventIdentity (agentId : String)
  | senderRoleMismatch (senderId : String)
  | recordLimitExceeded (actual max : ℕ)
  | journalByteLimitExceeded (actual max : ℕ)
  | sequenceExhausted
  | poisoned
deriving DecidableEq, Repr

/-! ### Checks of the header and of an event on its own -/

/-- `is_canonical_identifier`. -/
def isCanonicalIdentifier (value : String) (maxBytes : ℕ) : Bool :=
  value != "" && decide (byteLength value ≤ maxBytes) && trim value == value &&
    value != "." && value != ".." && allChars isIdentifierChar value

/-- `is_canonical_authentication_tag`. -/
def isCanonicalAuthenticationTag (value : String) : Bool :=
  byteLength value == 64 && allChars isLowerHexDigit value

/-- `validate_limits`. -/
def validateLimits (limits : MessagingLimits) : Except StoreError Unit := do
  limits.validate.mapError .rejectedLimits
  refuseIf (limits.maxJournalRecords = 0 ∨ hardMaxJournalRecords < limits.maxJournalRecords)
    (.invalidLimits "max_journal_records must be within 1..=1000000")
  refuseIf (limits.maxJournalBytes = 0 ∨ hardMaxJournalBytes < limits.maxJournalBytes)
    (.invalidLimits "max_journal_bytes must be within 1..=536870912")

/-- `validate_authority_binding`. -/
def validateAuthorityBinding (authorityBinding : BTreeMap String RoleCategory)
    (maxIdentifierBytes : ℕ) : Except StoreError Unit := do
  refuseIf (authorityBinding.size = 0 ∨ maxAuthorityIdentities < authorityBinding.size)
    .invalidAuthorityBinding
  authorityBinding.toList.forM fun agent =>
    refuseIf (¬ isCanonicalIdentifier agent.1 maxIdentifierBytes = true)
      (.invalidAuthorityIdentity agent.1)

/-- `validate_header`. -/
def validateHeader (header : StoreHeader) : Except StoreError Unit := do
  refuseIf (¬ isCanonicalIdentifier header.brokerInstanceId maxBrokerInstanceIdBytes = true)
    .invalidBrokerIdentity
  validateLimits header.limits
  validateAuthorityBinding header.authorityBinding header.limits.maxIdentifierBytes

/-- `validate_known_identity`. -/
def validateKnownIdentity (agentId : String) (authorityBinding : BTreeMap String RoleCategory) :
    Except StoreError Unit :=
  refuseIf (¬ authorityBinding.contains agentId = true) (.unknownEventIdentity agentId)

/-- `validate_known_identities`. -/
def validateKnownIdentities (identities : List String)
    (authorityBinding : BTreeMap String RoleCategory) : Except StoreError Unit :=
  identities.forM fun agentId => validateKnownIdentity agentId authorityBinding

/-- `validate_message_and_recipient`. -/
def validateMessageAndRecipient (messageId : MessageId) (recipientId : String)
    (limits : MessagingLimits) : Except StoreError Unit := do
  (validateMessageId messageId limits).mapError .rejectedEvent
  refuseIf (¬ isCanonicalIdentifier recipientId limits.maxIdentifierBytes = true)
    (.invalidEvent "recipient id is not a bounded canonical identifier")

/-- `validate_event_shape`. -/
def validateEventShape (event : StoreEvent) (header : StoreHeader) : Except StoreError Unit :=
  match event with
  | .created _ => .error (.duplicateCreated 0)
  | .channelCreated channel => do
    (channel.validate header.limits).mapError .rejectedEvent
    validateKnownIdentities channel.members.toList header.authorityBinding
  | .messageSent envelope => do
    (envelope.validate header.limits).mapError .rejectedEvent
    let effectiveRole ← require header.authorityBinding[envelope.senderId]?
      (.unknownEventIdentity envelope.senderId)
    refuseIf (effectiveRole ≠ envelope.senderRole) (.senderRoleMismatch envelope.senderId)
    validateKnownIdentities envelope.recipientIds header.authorityBinding
  | .deliveryAttempted messageId recipientId attempt => do
    validateMessageAndRecipient messageId recipientId header.limits
    validateKnownIdentity recipientId header.authorityBinding
    refuseIf (attempt = 0 ∨ header.limits.maxDeliveryAttempts < attempt)
      (.invalidEvent "delivery attempt must be within the configured bound")
  | .acknowledged messageId recipientId => do
    validateMessageAndRecipient messageId recipientId header.limits
    validateKnownIdentity recipientId header.authorityBinding

/-! ### The replayed state -/

/-- The identifier of the message with a sequence number. -/
def messageIdText (brokerInstanceId : String) (sequence : ℕ) : MessageId :=
  brokerInstanceId ++ "-" ++ zeroPadded 20 sequence

/-- `ReplayedState`; a message is the delivery states of its recipients. -/
structure ReplayedState where
  channels : BTreeMap String GovernedChannel
  messages : BTreeMap MessageId (BTreeMap String RecipientDeliveryState)
  nextMessageSequence : ℕ

namespace ReplayedState

/-- `ReplayedState::new`. -/
def new : ReplayedState := ⟨∅, ∅, 1⟩

/-- The error text shared by the refusals of a delivery attempt. -/
def exhaustedText : String :=
  "delivery attempt references a non-recipient, acknowledged recipient, or exhausted counter"

/-- The error text shared by the refusals of an acknowledgement. -/
def precedesText : String :=
  "acknowledgement references a non-recipient or precedes delivery"

variable (state : ReplayedState)

/-- The checks of a message that is addressed to a channel. -/
def validateFanOut (envelope : MessageEnvelope) (header : StoreHeader) : Except StoreError Unit :=
  match envelope.address with
  | .direct _ => pure ()
  | .channel channelId => do
    let channel ← require state.channels[channelId]?
      (.invalidStateTransition "channel message references an unknown channel")
    context (envelope.validateForChannel channel header.limits)
      (.invalidStateTransition "channel message fan-out differs from channel membership")
    refuseIf (¬ channel.publishers.contains envelope.senderId = true ∨
        ¬ channel.members.contains envelope.senderId = true)
      (.invalidStateTransition "channel message sender is not an authorized member publisher")

/-- `ReplayedState::validate_transition`. -/
def validateTransition (event : StoreEvent) (header : StoreHeader) : Except StoreError Unit := do
  validateEventShape event header
  match event with
  | .created _ => .error (.duplicateCreated 0)
  | .channelCreated channel =>
    refuseIf (state.channels.contains channel.channelId = true)
      (.invalidStateTransition "channel creation is duplicated")
    refuseIf (header.limits.maxChannels ≤ state.channels.size)
      (.invalidStateTransition "channel count exceeds the configured bound")
    refuseIf (¬ ∃ publisher ∈ channel.publishers.toList,
        header.authorityBinding[publisher]? = some .delegatingCoordinator)
      (.invalidStateTransition "channel policy has no delegating coordinator publisher")
  | .messageSent envelope =>
    refuseIf (header.limits.maxMessages ≤ state.messages.size)
      (.invalidStateTransition "message count exceeds the configured bound")
    refuseIf (envelope.sequence ≠ state.nextMessageSequence)
      (.invalidStateTransition "message sequence is missing, duplicated, or out of order")
    refuseIf (envelope.id ≠ messageIdText header.brokerInstanceId envelope.sequence ∨
        state.messages.contains envelope.id = true)
      (.invalidStateTransition "message id is duplicated or inconsistent with its sequence")
    refuseIf (∃ recipient ∈ envelope.recipients.toList,
        recipient.2.deliveryAttempts ≠ 0 ∨ recipient.2.acknowledged = true)
      (.invalidStateTransition "new message contains pre-mutated delivery state")
    state.validateFanOut envelope header
    let _ ← require (checkedAddU64 state.nextMessageSequence 1) .sequenceExhausted
    pure ()
  | .deliveryAttempted messageId recipientId attempt =>
    let message ← require state.messages[messageId]?
      (.invalidStateTransition "delivery attempt references an unknown message")
    let delivery ← require message[recipientId]? (.invalidStateTransition exhaustedText)
    refuseIf (delivery.acknowledged = true) (.invalidStateTransition exhaustedText)
    refuseIf (2 ^ 32 ≤ delivery.deliveryAttempts + 1) (.invalidStateTransition exhaustedText)
    refuseIf (header.limits.maxDeliveryAttempts < delivery.deliveryAttempts + 1)
      (.invalidStateTransition exhaustedText)
    refuseIf (delivery.deliveryAttempts + 1 ≠ attempt)
      (.invalidStateTransition "delivery attempts are duplicated or out of order")
  | .acknowledged messageId recipientId =>
    let message ← require state.messages[messageId]?
      (.invalidStateTransition "acknowledgement references an unknown message")
    let delivery ← require message[recipientId]? (.invalidStateTransition precedesText)
    refuseIf (delivery.deliveryAttempts = 0) (.invalidStateTransition precedesText)
    refuseIf (delivery.acknowledged = true)
      (.invalidStateTransition "acknowledgement is duplicated")

/-- A message with the delivery state of one recipient changed. -/
def changeDelivery (messageId : MessageId) (recipientId : String)
    (change : RecipientDeliveryState → RecipientDeliveryState) (detail : String) :
    Except StoreError ReplayedState := do
  let message ← require state.messages[messageId]? (.invalidStateTransition detail)
  let delivery ← require message[recipientId]? (.invalidStateTransition detail)
  pure { state with
    messages := state.messages.insert messageId (message.insert recipientId (change delivery)) }

/-- `ReplayedState::apply_validated`. -/
def applyValidated (event : StoreEvent) : Except StoreError ReplayedState :=
  match event with
  | .created _ => .error (.duplicateCreated 0)
  | .channelCreated channel =>
    pure { state with channels := state.channels.insert channel.channelId channel }
  | .messageSent envelope => do
    let nextMessageSequence ← require (checkedAddU64 state.nextMessageSequence 1)
      .sequenceExhausted
    pure { state with
      nextMessageSequence
      messages := state.messages.insert envelope.id envelope.recipients }
  | .deliveryAttempted messageId recipientId attempt =>
    state.changeDelivery messageId recipientId
      (fun delivery => { delivery with deliveryAttempts := attempt })
      "validated delivery transition could not be applied"
  | .acknowledged messageId recipientId =>
    state.changeDelivery messageId recipientId
      (fun delivery => { delivery with acknowledged := true })
      "validated acknowledgement transition could not be applied"

/-- One event read back: the transition is checked and then applied. -/
def advance (header : StoreHeader) (state : ReplayedState) (event : StoreEvent) :
    Except StoreError ReplayedState := do
  state.validateTransition event header
  state.applyValidated event

end ReplayedState

/-- The state after the events that follow the creation of the store. -/
def replayEvents (header : StoreHeader) (events : List StoreEvent) :
    Except StoreError ReplayedState :=
  events.foldlM (ReplayedState.advance header) .new

/-! ### Tags and files -/

/-- What the store takes from crates: the keyed tags under one integrity key (`record_checksum` and
`tail_anchor_authentication_tag`), and what the JSON reader makes of a number that is no integer. -/
structure Crates where
  checksum : ℕ → ℕ → String → StoreEvent → String
  tag : ℕ → ℕ → String → String
  readFloat : FloatText → FloatText
  checksum_canonical : ∀ version sequence previous event,
    isCanonicalAuthenticationTag (checksum version sequence previous event) = true
  tag_canonical : ∀ bytes sequence checksum,
    isCanonicalAuthenticationTag (tag bytes sequence checksum) = true

/-- What an anchor file holds: bytes that are no anchor, or an anchor. -/
inductive AnchorFile where
  | garbled
  | anchor (anchor : TailAnchor)
deriving DecidableEq, Repr

/-- The files of a store. -/
structure Disk where
  journal : List JournalRecord
  anchor : Option AnchorFile
  temp : Option AnchorFile

/-- The events of the lines of a journal. -/
def Disk.events (disk : Disk) : List StoreEvent := disk.journal.map JournalRecord.event

/-- `tail_anchor_matches_checkpoint`. -/
def tailAnchorMatchesCheckpoint (anchor : TailAnchor) (checkpoint : JournalCheckpoint) : Bool :=
  anchor.journalBytes == checkpoint.journalBytes && anchor.lastSequence == checkpoint.sequence &&
    anchor.lastChecksum == checkpoint.checksum

/-- One step on the files. -/
inductive DiskStep where
  | appendLine (record : JournalRecord)
  | createTemp
  | writeTemp (anchor : TailAnchor)
  | renameTemp
  | removeTemp
  | verifyAnchor (checkpoint : JournalCheckpoint)

section

variable (crates : Crates)

/-- `encoded_tail_anchor`. -/
def encodedTailAnchor (checkpoint : JournalCheckpoint) : TailAnchor :=
  { version := tailAnchorFormatVersion
    journalBytes := checkpoint.journalBytes
    lastSequence := checkpoint.sequence
    lastChecksum := checkpoint.checksum
    authenticationTag :=
      crates.tag checkpoint.journalBytes checkpoint.sequence checkpoint.checksum }

/-- `read_tail_anchor`. -/
def readTailAnchor (file : AnchorFile) : Except StoreError TailAnchor :=
  match file with
  | .garbled => .error (.malformedTailAnchor "tail anchor is empty or exceeds its hard byte bound")
  | .anchor anchor => do
    refuseIf (anchor.version ≠ tailAnchorFormatVersion ∨ anchor.journalBytes = 0 ∨
        ¬ isCanonicalAuthenticationTag anchor.lastChecksum = true ∨
        ¬ isCanonicalAuthenticationTag anchor.authenticationTag = true)
      (.malformedTailAnchor "tail anchor fields are outside the supported canonical form")
    refuseIf (anchor.authenticationTag ≠
        crates.tag anchor.journalBytes anchor.lastSequence anchor.lastChecksum)
      .tailAnchorAuthenticationFailed
    pure anchor

/-- `verify_anchor_checkpoint`. -/
def verifyAnchorCheckpoint (disk : Disk) (checkpoint : JournalCheckpoint) :
    Except StoreError Unit := do
  let file ← require disk.anchor .missingTailAnchor
  let anchor ← readTailAnchor crates file
  refuseIf (¬ tailAnchorMatchesCheckpoint anchor checkpoint = true) .tailAnchorMismatch

/-- What a step does to the files. -/
def Disk.perform (disk : Disk) : DiskStep → Except StoreError Disk
  | .appendLine record => pure { disk with journal := disk.journal ++ [record] }
  | .createTemp => do
    refuseIf (disk.temp.isSome = true) .tailAnchorTemporaryExists
    pure { disk with temp := some .garbled }
  | .writeTemp anchor => pure { disk with temp := some (.anchor anchor) }
  | .renameTemp => do
    let file ← require disk.temp .io
    pure { disk with anchor := some file, temp := none }
  | .removeTemp => pure { disk with temp := none }
  | .verifyAnchor checkpoint => do
    verifyAnchorCheckpoint crates disk checkpoint
    pure disk

/-- The files after at most so many of the steps, and the error when not all of them completed. -/
def Disk.run (io : ℕ) (steps : List DiskStep) (disk : Disk) : Option StoreError × Disk :=
  match steps, io with
  | [], _ => (none, disk)
  | _ :: _, 0 => (some .io, disk)
  | step :: steps, io + 1 =>
    match disk.perform crates step with
    | .error error => (some error, disk)
    | .ok next => Disk.run io steps next

/-- `replace_tail_anchor`: the steps that publish the anchor of a checkpoint. -/
def replaceTailAnchor (checkpoint : JournalCheckpoint) : List DiskStep :=
  [.createTemp, .writeTemp (encodedTailAnchor crates checkpoint), .renameTemp]

/-! ### Opening -/

/-- What `open` is told to expect. -/
structure Expected where
  brokerBinding : String
  authorityBinding : BTreeMap String RoleCategory
  limits : MessagingLimits

/-- The state of the loop over the lines. -/
structure Reading where
  header : Option StoreHeader
  events : List StoreEvent
  previousChecksum : String
  lastSequence : ℕ
  replayed : ReplayedState
  checkpoints : List JournalCheckpoint
  journalOffset : ℕ

/-- Before the first line. -/
def Reading.start : Reading := ⟨none, [], genesisChecksum, 0, .new, [], 0⟩

variable (expected : Expected)

/-- The header a first line has to hold. -/
def recoverHeader (event : StoreEvent) : Except StoreError StoreHeader :=
  match event with
  | .created header => do
    validateHeader header
    let generation := (stripStart header.brokerInstanceId expected.brokerBinding).bind
      fun rest => stripStart rest "-"
    refuseIf (generation = none ∨ generation = some "") .brokerBindingMismatch
    refuseIf (header.authorityBinding ≠ expected.authorityBinding) .authorityBindingMismatch
    refuseIf (header.limits ≠ expected.limits) .limitsMismatch
    pure header
  | _ => .error .firstRecordNotCreated

/-- The checks of one line before its event is looked at. -/
def checkLine (reading : Reading) (record : JournalRecord) : Except StoreError Unit := do
  let recordIndex := reading.events.length
  refuseIf (readerNesting < record.document.nesting) (.malformedRecord recordIndex)
  refuseIf (record.version ≠ journalFormatVersion)
    (.unsupportedVersion recordIndex record.version journalFormatVersion)
  refuseIf ((record.document.reread crates.readFloat).chars ≠ record.document.chars)
    (.nonCanonicalRecord recordIndex)
  refuseIf (record.sequence ≠ recordIndex)
    (.outOfOrderSequence recordIndex recordIndex record.sequence)
  refuseIf (¬ isCanonicalAuthenticationTag record.previousChecksum = true ∨
      record.previousChecksum ≠ reading.previousChecksum) (.checksumMismatch record.sequence)
  refuseIf (¬ isCanonicalAuthenticationTag record.checksum = true ∨
      record.checksum ≠ crates.checksum record.version record.sequence
        record.previousChecksum record.event) (.checksumMismatch record.sequence)

/-- The header and the replayed state after the event of one line. -/
def replayLine (reading : Reading) (event : StoreEvent) :
    Except StoreError (StoreHeader × ReplayedState) :=
  match reading.events with
  | [] => do
    let header ← recoverHeader expected event
    pure (header, reading.replayed)
  | _ :: _ => do
    refuseIf (event.isCreated = true) (.duplicateCreated reading.events.length)
    let header ← require reading.header .firstRecordNotCreated
    let replayed ← reading.replayed.advance header event
    pure (header, replayed)

/-- The body of the loop of `open` over the lines. -/
def readRecord (reading : Reading) (record : JournalRecord) : Except StoreError Reading := do
  checkLine crates reading record
  let (header, replayed) ← replayLine expected reading record.event
  let journalOffset := reading.journalOffset + record.lineBytes
  pure
    { header := some header
      events := reading.events ++ [record.event]
      previousChecksum := record.checksum
      lastSequence := record.sequence
      replayed
      checkpoints := reading.checkpoints ++ [⟨journalOffset, record.sequence, record.checksum⟩]
      journalOffset }

/-- `recover_tail_anchor_temp`: the steps it takes, and whether they publish an anchor. -/
def recoverTailAnchorTemp (disk : Disk) (latest : JournalCheckpoint)
    (checkpoints : List JournalCheckpoint) : Except StoreError (List DiskStep × Bool) :=
  match disk.temp with
  | none => pure ([], false)
  | some file =>
    match readTailAnchor crates file with
    | .error _ => pure (.removeTemp :: replaceTailAnchor crates latest, true)
    | .ok anchor =>
      if tailAnchorMatchesCheckpoint anchor latest = true then pure ([.renameTemp], true)
      else do
        refuseIf (¬ ∃ checkpoint ∈ checkpoints,
          tailAnchorMatchesCheckpoint anchor checkpoint = true) .tailAnchorMismatch
        pure ([.removeTemp], false)

/-- The steps that bring the anchor up to date once the lines have been read. -/
def recoverySteps (disk : Disk) (reading : Reading) : Except StoreError (List DiskStep) := do
  let file ← require disk.anchor .missingTailAnchor
  let anchor ← readTailAnchor crates file
  let latest ← require reading.checkpoints.getLast? .firstRecordNotCreated
  refuseIf (¬ tailAnchorMatchesCheckpoint anchor latest = true ∧
      ¬ (anchor.journalBytes < journalBytes disk.journal ∧
        ∃ checkpoint ∈ reading.checkpoints, tailAnchorMatchesCheckpoint anchor checkpoint = true))
    .tailAnchorMismatch
  let (steps, published) ← recoverTailAnchorTemp crates disk latest reading.checkpoints
  let steps :=
    if published = true then steps
    else if tailAnchorMatchesCheckpoint anchor latest = true then steps
    else steps ++ replaceTailAnchor crates latest
  pure (steps ++ [.verifyAnchor latest])

/-- `MessagingStore`, with the files it holds. -/
structure MessagingStore where
  disk : Disk
  header : StoreHeader
  events : List StoreEvent
  lastSequence : ℕ
  lastChecksum : String
  journalBytes : ℕ
  poisoned : Bool
  replayed : ReplayedState

/-- The checks and the reading of `open`: the store it will return, and the steps it takes. -/
def planOpen (disk : Disk) : Except StoreError (MessagingStore × List DiskStep) := do
  validateLimits expected.limits
  validateAuthorityBinding expected.authorityBinding expected.limits.maxIdentifierBytes
  refuseIf (¬ isCanonicalIdentifier expected.brokerBinding maxBrokerInstanceIdBytes = true)
    .invalidBrokerIdentity
  let fileBytes := journalBytes disk.journal
  refuseIf (expected.limits.maxJournalBytes < fileBytes)
    (.journalByteLimitExceeded fileBytes expected.limits.maxJournalBytes)
  refuseIf (fileBytes = 0) .emptyJournal
  let _ ← require disk.anchor .missingTailAnchor
  refuseIf (expected.limits.maxJournalRecords < disk.journal.length)
    (.recordLimitExceeded disk.journal.length expected.limits.maxJournalRecords)
  let reading ← disk.journal.foldlM (readRecord crates expected) .start
  let header ← require reading.header .firstRecordNotCreated
  let steps ← recoverySteps crates disk reading
  pure
    ({ disk
       header
       events := reading.events
       lastSequence := reading.lastSequence
       lastChecksum := reading.previousChecksum
       journalBytes := fileBytes
       poisoned := false
       replayed := reading.replayed }, steps)

namespace MessagingStore

/-- `MessagingStore::open`, and the files it leaves. -/
def reopen (expected : Expected) (disk : Disk) (io : ℕ) : Except StoreError MessagingStore × Disk :=
  match planOpen crates expected disk with
  | .error error => (.error error, disk)
  | .ok (store, steps) =>
    match disk.run crates io steps with
    | (some error, left) => (.error error, left)
    | (none, left) => (.ok { store with disk := left }, left)

/-- `MessagingStore::create` on files that do not exist yet. -/
def create (header : StoreHeader) : Except StoreError MessagingStore := do
  validateHeader header
  let event := StoreEvent.created header
  let checksum := crates.checksum journalFormatVersion 0 genesisChecksum event
  let record : JournalRecord := ⟨journalFormatVersion, 0, genesisChecksum, event, checksum⟩
  refuseIf (header.limits.maxJournalBytes < record.lineBytes)
    (.journalByteLimitExceeded record.lineBytes header.limits.maxJournalBytes)
  pure
    { disk :=
        { journal := [record]
          anchor := some (.anchor (encodedTailAnchor crates ⟨record.lineBytes, 0, checksum⟩))
          temp := none }
      header
      events := [event]
      lastSequence := 0
      lastChecksum := checksum
      journalBytes := record.lineBytes
      poisoned := false
      replayed := .new }

variable (store : MessagingStore)

/-- The checks of `append_record` before anything is written, and the line it will write. -/
def prepareRecord (event : StoreEvent) : Except StoreError JournalRecord := do
  refuseIf (store.poisoned = true) .poisoned
  refuseIf (store.header.limits.maxJournalRecords < store.events.length + 1)
    (.recordLimitExceeded (store.events.length + 1) store.header.limits.maxJournalRecords)
  let sequence ← require (checkedAddU64 store.lastSequence 1) .sequenceExhausted
  let checksum :=
    crates.checksum journalFormatVersion sequence store.lastChecksum event
  let record : JournalRecord :=
    ⟨journalFormatVersion, sequence, store.lastChecksum, event, checksum⟩
  let prospectiveBytes := store.journalBytes + record.lineBytes
  refuseIf (store.header.limits.maxJournalBytes < prospectiveBytes)
    (.journalByteLimitExceeded prospectiveBytes store.header.limits.maxJournalBytes)
  store.replayed.validateTransition event store.header
  pure record

/-- The checkpoint at the end of a journal that grew by a record. -/
def checkpointAfter (record : JournalRecord) : JournalCheckpoint :=
  ⟨store.journalBytes + record.lineBytes, record.sequence, record.checksum⟩

/-- The steps of `append_record` that write a record and publish its anchor. -/
def appendSteps (record : JournalRecord) : List DiskStep :=
  .appendLine record :: replaceTailAnchor crates (store.checkpointAfter record) ++
    [.verifyAnchor (store.checkpointAfter record)]

/-- `append_record`: any failure once the line is being written poisons the store. -/
def appendRecord (event : StoreEvent) (io : ℕ) : Except StoreError Unit × MessagingStore :=
  match store.prepareRecord crates event with
  | .error error => (.error error, store)
  | .ok record =>
    match store.disk.run crates io (store.appendSteps crates record) with
    | (some error, left) =>
      (.error error, { store with disk := left, poisoned := true })
    | (none, left) =>
      let written : MessagingStore := { store with
        disk := left
        lastSequence := record.sequence
        lastChecksum := record.checksum
        journalBytes := store.journalBytes + record.lineBytes }
      match store.replayed.applyValidated event with
      | .error error => (.error error, { written with poisoned := true })
      | .ok replayed =>
        (.ok (), { written with replayed, events := store.events ++ [event] })

/-- `MessagingStore::append`. -/
def append (event : StoreEvent) (io : ℕ) : Except StoreError Unit × MessagingStore :=
  if event.isCreated = true then (.error (.duplicateCreated store.events.length), store)
  else store.appendRecord crates event io

end MessagingStore

end

end Maco.Messaging
