import Maco.Messaging.Broker
import Maco.Messaging.Crash

/-!
# The live broker and its replay

Every call of the broker that changes its state appends one event, and the change is the one the
replay makes when it reads that event back. So the state of a broker is always the replay of the
events of its store.
-/

namespace Maco.Messaging

open Maco.Base BTreeMap MessagingBroker Replica List
open Maco.Turn (RoleCategory)

/-! ### New recipients -/

/-- The recipients of a new envelope are the given ones, each with its delivery pending. -/
theorem pendingRecipients_get (ids : BTreeSet String) (recipientId : String)
    (state : RecipientDeliveryState) :
    (BTreeMap.ofList (ids.toList.map fun recipientId =>
        (recipientId, RecipientDeliveryState.pending)))[recipientId]? = some state ↔
      recipientId ∈ ids ∧ state = .pending := by
  have names : (ids.toList.map fun recipientId =>
      (recipientId, RecipientDeliveryState.pending)).map Prod.fst = ids.toList := by
    rw [map_map]
    exact map_id _
  have distinct : ids.toList.Nodup := ids.sorted_toList.imp fun less => ne_of_lt less
  rw [← names] at distinct
  rw [get_ofList distinct, mem_map]
  simp only [Prod.mk.injEq, BTreeSet.mem_toList]
  constructor
  · rintro ⟨other, member, rfl, rfl⟩
    exact ⟨member, rfl⟩
  · rintro ⟨member, rfl⟩
    exact ⟨recipientId, member, rfl, rfl⟩

/-- The recipients of a new envelope, in order. -/
theorem pendingRecipients_keys (ids : BTreeSet String) :
    (BTreeMap.ofList (ids.toList.map fun recipientId =>
        (recipientId, RecipientDeliveryState.pending))).toList.map Prod.fst = ids.toList := by
  refine eq_of_sorted_of_mem (fun a b => lt_asymm) ?_ ids.sorted_toList fun recipientId => ?_
  · rw [pairwise_map]
    exact sorted_toList _
  · simp only [mem_map, Prod.exists, mem_toList, pendingRecipients_get, BTreeSet.mem_toList]
    constructor
    · rintro ⟨_, _, ⟨member, -⟩, rfl⟩
      exact member
    · intro member
      exact ⟨_, _, ⟨member, rfl⟩, rfl⟩

/-! ### The replica of a list of events -/

section

variable {setting : Setting} {header : StoreHeader}

/-- The replay of the events gives the replica. -/
def Tracks (setting : Setting) (header : StoreHeader) (events : List StoreEvent)
    (replica : Replica) : Prop :=
  events.foldlM (applyEvent setting header) .new = .ok replica

variable {events : List StoreEvent} {event : StoreEvent} {after : Replica}

/-- One more event is replayed on its own. -/
theorem tracks_snoc :
    Tracks setting header (events ++ [event]) after ↔
      ∃ replica, Tracks setting header events replica ∧
        replica.applyEvent setting header event = .ok after := by
  rw [Tracks, foldlM_append, bind_ok]
  simp only [foldlM_cons, foldlM_nil, ok_iff, exists_eq_right, Tracks]

variable {replica : Replica}

/-- The replay of one list of events is one replica. -/
theorem Tracks.unique
    (tracks : Tracks setting header events replica) (again : Tracks setting header events other) :
    replica = other := Except.ok.inj (tracks.symm.trans again)

/-- A replay of an acknowledgement or of an attempt changes one delivery. -/
theorem findDelivery_ok {messageId : MessageId} {recipientId : String}
    {unknown stranger : MessagingError} {message : MessageEnvelope}
    {delivery : RecipientDeliveryState} :
    replica.findDelivery messageId recipientId unknown stranger = .ok (message, delivery) ↔
      replica.messages[messageId]? = some message ∧
        message.recipients[recipientId]? = some delivery := by
  simp only [findDelivery, ok_iff, Prod.mk.injEq]
  constructor
  · rintro ⟨_, known, _, present, rfl, rfl⟩
    exact ⟨known, present⟩
  · rintro ⟨known, present⟩
    exact ⟨_, known, _, present, rfl, rfl⟩

/-- A recorded attempt changes the delivery. -/
theorem recordDeliveryAttempt_moves {limits : MessagingLimits} {state next : RecipientDeliveryState}
    (recorded : state.recordDeliveryAttempt limits = .ok next) : next ≠ state := by
  simp only [RecipientDeliveryState.recordDeliveryAttempt, ok_iff] at recorded
  obtain ⟨_, -, -, -, -, rfl⟩ := recorded
  exact fun same => Nat.succ_ne_self _ (congrArg RecipientDeliveryState.deliveryAttempts same)

/-- A first acknowledgement changes the delivery. -/
theorem acknowledge_moves {state next : RecipientDeliveryState}
    (acknowledged : state.acknowledge = .ok (true, next)) : next ≠ state := by
  rw [RecipientDeliveryState.acknowledge] at acknowledged
  split at acknowledged
  · cases acknowledged
  · rename_i clear
    simp only [ok_iff, Prod.mk.injEq, true_and] at acknowledged
    obtain ⟨-, rfl⟩ := acknowledged
    exact fun same => clear (congrArg RecipientDeliveryState.acknowledged same).symm

/-- What the replay of an event does. -/
inductive Applied (setting : Setting) (replica : Replica) : Replica → Prop
  | channel {channel : GovernedChannel}
      (fresh : replica.channels[channel.channelId]? = none)
      (valid : validateReplayedChannel setting channel = .ok ()) :
      Applied setting replica (replica.addChannel channel)
  | message (envelope : MessageEnvelope) :
      Applied setting replica (replica.addMessage envelope (replica.nextSequence + 1))
  | delivery {messageId : MessageId} {recipientId : String} {message : MessageEnvelope}
      {state next : RecipientDeliveryState}
      (known : replica.messages[messageId]? = some message)
      (recipient : message.recipients[recipientId]? = some state) (moved : next ≠ state) :
      Applied setting replica (replica.setDelivery message messageId recipientId next)

/-- The replay of one event, inverted. -/
theorem applyEvent_ok (applied : replica.applyEvent setting header event = .ok after) :
    Applied setting replica after := by
  cases event with
  | created other => cases applied
  | channelCreated channel =>
    simp only [applyEvent, ok_iff] at applied
    obtain ⟨fresh, -, _, valid, rfl⟩ := applied
    exact .channel (by simpa [not_contains_iff] using fresh) valid
  | messageSent envelope =>
    simp only [applyEvent, ok_iff, checkedAddU64_eq_some] at applied
    obtain ⟨-, -, _, -, -, _, -, _, ⟨-, rfl⟩, rfl⟩ := applied
    exact .message envelope
  | deliveryAttempted messageId recipientId attempt =>
    simp only [applyEvent, ok_iff, context_ok, Prod.exists, findDelivery_ok] at applied
    obtain ⟨message, delivery, ⟨known, present⟩, preview, recorded, -, rfl⟩ := applied
    exact .delivery known present (recordDeliveryAttempt_moves recorded)
  | acknowledged messageId recipientId =>
    simp only [applyEvent, ok_iff, context_ok, Prod.exists, findDelivery_ok, not_not] at applied
    obtain ⟨message, delivery, ⟨known, present⟩, first, acknowledged, done, rfl, rfl⟩ := applied
    exact .delivery known present (acknowledge_moves done)

/-- No event leaves the replica as it was. -/
theorem Applied.changes (applied : Applied setting replica after) : after ≠ replica := by
  intro same
  cases applied with
  | channel fresh valid =>
    rw [← same] at fresh
    simp [addChannel] at fresh
  | message envelope =>
    have next := congrArg nextSequence same
    simp [addMessage] at next
  | delivery known recipient moved =>
    rw [← same] at known
    simp only [setDelivery, get_insert_self, Option.some.injEq] at known
    rw [← known] at recipient
    simp [moved] at recipient

/-- Every channel passed the checks of the replay. -/
def ChannelsValid (setting : Setting) (replica : Replica) : Prop :=
  ∀ (channelId : String) channel,
    replica.channels[channelId]? = some channel → validateReplayedChannel setting channel = .ok ()

/-- The channels of a replay are valid. -/
theorem Tracks.channelsValid
    (tracks : Tracks setting header events replica) : ChannelsValid setting replica := by
  refine foldlM_invariant (fun _ replica => ChannelsValid setting replica) ?_ ?_ tracks
  · intro done event state next valid step
    cases applyEvent_ok step with
    | channel fresh accepted =>
      intro channelId stored found
      rcases get_insert_cases found with ⟨-, rfl⟩ | ⟨-, old⟩
      · exact accepted
      · exact valid channelId stored old
    | message envelope => exact valid
    | delivery known recipient moved => exact valid
  · intro channelId channel found
    simp [new] at found

/-! ### The events the calls issue -/

/-- A broker of a setting, whose channels passed the checks of the replay. -/
structure Serves (setting : Setting) (header : StoreHeader) (broker : MessagingBroker) : Prop where
  credentials : broker.credentials = setting.credentials
  authority : broker.authorityBinding = setting.authorityBinding
  limits : broker.limits = setting.limits
  header_eq : broker.store.header = header
  channels : ChannelsValid setting broker.toReplica

/-- The end of a call that appends one event: the answer and the new state, if the append is done.
-/
def MessagingBroker.committed {α : Type} (setting : Setting) (broker : MessagingBroker)
    (event : StoreEvent) (io : ℕ) (answer : α) (after : Replica) :
    Except MessagingError α × MessagingBroker :=
  match broker.store.append setting.crates event io with
  | (.error error, store) => (.error (.store error), { broker with store })
  | (.ok _, store) =>
    (.ok answer, { broker with toReplica := after, store })

variable {broker : MessagingBroker}

theorem commit_eq {α : Type} {finish : Replica → Except MessagingError (α × Replica)} {answer : α}
    (finishes : finish broker.toReplica = .ok (answer, after)) (event : StoreEvent) (io : ℕ) :
    broker.commit setting event io finish = broker.committed setting event io answer after := by
  rw [commit, committed]
  rcases broker.store.append setting.crates event io with ⟨error | done, store⟩
  · rfl
  · simp only [finishes]

/-- A caller that is authenticated is a principal with a role. -/
theorem authenticate_ok (authenticated : broker.authenticate credential = .ok (agentId, role)) :
    agentId = credential.agentId ∧ broker.authorityBinding[agentId]? = some role := by
  simp only [authenticate, ok_iff, Prod.mk.injEq] at authenticated
  obtain ⟨_, -, _, known, rfl, rfl⟩ := authenticated
  exact ⟨rfl, known⟩

/-- A prepared channel passes the checks of the replay. -/
theorem prepareChannel_ok (serves : Serves setting header broker)
    (prepared : broker.prepareChannel credential channelId members publishers = .ok channel) :
    broker.toReplica.applyEvent setting header (.channelCreated channel) =
      .ok (broker.toReplica.addChannel channel) := by
  simp only [prepareChannel, ok_iff, context_ok, forM_ok, Prod.exists, GovernedChannel.new,
    serves.limits, serves.authority, serves.credentials] at prepared
  obtain ⟨creatorId, role, -, -, _, -, fresh, room, chosen, -, allowed, -, policy, known, _, valid,
    rfl⟩ := prepared
  simp only [not_or, not_exists, not_and, not_not] at policy
  obtain ⟨-, -, some_publisher, some_member, subset⟩ := policy
  have accepted : validateReplayedChannel setting
      ⟨governedChannelVersion, channelId, chosen, allowed⟩ = .ok () := by
    simp only [validateReplayedChannel, ok_iff, context_ok, not_or, not_exists, not_and, not_not]
    exact ⟨(), valid, ⟨some_member, some_publisher, subset, fun principal member =>
      not_not.mp (known principal member).1⟩, fun principal member =>
      not_not.mp (known principal member).2⟩
  simp only [applyEvent, ok_iff]
  exact ⟨fresh, room, (), accepted, trivial⟩

variable {payload : Json} {envelope : MessageEnvelope} {nextSequence : ℕ}

section

variable (serves : Serves setting header broker)

include serves

/-- A prepared message passes the checks of the replay when its recipients can be addressed. -/
theorem prepareMessage_ok
    (prepared : broker.prepareMessage address senderId senderRole recipientIds payload =
      .ok (envelope, nextSequence)) (role : setting.authorityBinding[senderId]? = some senderRole)
    (addressable : ∀ recipientId ∈ recipientIds,
      setting.credentials.contains recipientId = true)
    (addressed : envelope.address = address → envelope.senderId = senderId →
      envelope.recipientIds = recipientIds.toList → envelope.validate setting.limits = .ok () →
      broker.toReplica.validateReplayedAddress setting envelope = .ok ()) :
    broker.toReplica.applyEvent setting header (.messageSent envelope) =
      .ok (broker.toReplica.addMessage envelope nextSequence) := by
  simp only [prepareMessage, messageId, MessageEnvelope.new, ok_iff, mapError_ok, serves.limits,
    serves.header_eq, Prod.mk.injEq] at prepared
  obtain ⟨_, -, _, -, -, room, _, ⟨positive, _, valid_id, rfl⟩, made, ⟨_, valid, same⟩, fresh,
    after, next, rfl, rfl⟩ := prepared
  have recipients : made.recipientIds = recipientIds.toList := by
    rw [← same]
    exact pendingRecipients_keys recipientIds
  have pending : ∀ recipient ∈ made.recipients.toList,
      recipient.2 = RecipientDeliveryState.pending := by
    rintro ⟨recipientId, state⟩ member
    rw [mem_toList, ← same] at member
    exact ((pendingRecipients_get _ _ _).mp member).2
  have sender : made.senderId = senderId := by rw [← same]
  have held : made.senderRole = senderRole := by rw [← same]
  have place : made.address = address := by rw [← same]
  have number : made.sequence = broker.nextSequence := by rw [← same]
  have name : made.id = messageIdText header.brokerInstanceId broker.nextSequence := by rw [← same]
  rw [same] at valid
  have accepted : broker.toReplica.validateReplayedMessage setting made = .ok () := by
    simp only [validateReplayedMessage, ok_iff, context_ok, not_exists, not_and, not_not,
      recipients, sender, held, BTreeSet.mem_toList]
    refine ⟨(), valid, ?_, senderRole, role, by simp, addressable, ?_⟩
    · intro recipient member
      rw [pending recipient member]
      simp [RecipientDeliveryState.pending]
    · exact addressed place sender recipients valid
  simp only [applyEvent, messageId, ok_iff, mapError_ok, number, name, not_or, not_not, ne_eq,
    not_true_eq_false, not_false_eq_true, true_and]
  exact ⟨room, _, ⟨positive, _, valid_id, rfl⟩, ⟨rfl, fresh⟩, (), accepted, after, next, rfl⟩

/-- The envelope of a direct message is replayed, and has its addressee as its one recipient. -/
theorem prepareDirect_ok (prepared : broker.prepareDirect credential recipientId payload =
      .ok (envelope, nextSequence)) :
    broker.toReplica.applyEvent setting header (.messageSent envelope) =
      .ok (broker.toReplica.addMessage envelope nextSequence) := by
  simp only [prepareDirect, ok_iff, Prod.exists, not_not, serves.authority,
    serves.credentials] at prepared
  obtain ⟨senderId, senderRole, authenticated, _, -, known, registered, prepared⟩ := prepared
  have role := (authenticate_ok authenticated).2
  rw [serves.authority] at role
  refine prepareMessage_ok serves prepared role ?_ ?_
  · intro other member
    have only : other = recipientId := by simpa [BTreeSet.mem_ofList] using member
    rw [only]
    exact registered
  · intro address sender recipients valid
    have single : ¬ (envelope.recipients.size ≠ 1 ∨
        ¬ envelope.recipients.contains recipientId = true) := by
      simp only [MessageEnvelope.validate, ok_iff, address] at valid
      obtain ⟨_, -, -, _, -, _, -, _, -, -, _, -, -, -, _, -, matched⟩ := valid
      exact matched
    simp only [validateReplayedAddress, address, refuseIf_ok, not_or, not_not] at single ⊢
    exact ⟨known, single⟩

/-- The envelope of a channel message is replayed. -/
theorem prepareBroadcast_ok (prepared : broker.prepareBroadcast credential channelId payload =
      .ok (envelope, nextSequence)) :
    broker.toReplica.applyEvent setting header (.messageSent envelope) =
      .ok (broker.toReplica.addMessage envelope nextSequence) := by
  simp only [prepareBroadcast, ok_iff, Prod.exists, not_not] at prepared
  obtain ⟨senderId, senderRole, authenticated, _, -, channel, found, member, publisher, prepared⟩ :=
    prepared
  have role := (authenticate_ok authenticated).2
  rw [serves.authority] at role
  have policy := serves.channels channelId channel found
  simp only [validateReplayedChannel, ok_iff, not_exists, not_and, not_not] at policy
  obtain ⟨_, -, -, registered⟩ := policy
  refine prepareMessage_ok serves prepared role ?_ ?_
  · intro recipientId recipient
    exact registered recipientId (mem_append_left _ (BTreeSet.mem_toList.mpr recipient))
  · intro address sender recipients valid
    simp only [validateReplayedAddress, address, ok_iff, sender, recipients, not_or, not_not, ne_eq]
    exact ⟨channel, found, publisher, member, rfl⟩

end

/-- How a call goes: it leaves the broker, or appends one event that the replay takes as the broker
does. -/
def Proceeds {α : Type} (setting : Setting) (header : StoreHeader) (broker : MessagingBroker)
    (call : ℕ → Except MessagingError α × MessagingBroker) : Prop :=
  (∃ answer, ∀ io, call io = (answer, broker)) ∨
  ∃ event answer after, broker.toReplica.applyEvent setting header event = .ok after ∧
    ∀ io, call io = broker.committed setting event io answer after

theorem Proceeds.wrap {α : Type} {call : ℕ → Except MessagingError α × MessagingBroker}
    (proceeds : Proceeds setting header broker call) (wrap : α → Response) :
    Proceeds setting header broker fun io => wrapAnswer wrap (call io) := by
  rcases proceeds with ⟨answer, same⟩ | ⟨event, answer, after, applied, done⟩
  · refine .inl ⟨answer.map wrap, fun io => ?_⟩
    simp only [same, wrapAnswer]
  · refine .inr ⟨event, wrap answer, after, applied, fun io => ?_⟩
    simp only [done, committed, wrapAnswer]
    split <;> rfl

/-- A message that was prepared is appended. -/
theorem appendMessage_proceeds
    (applied : broker.toReplica.applyEvent setting header (.messageSent envelope) =
      .ok (broker.toReplica.addMessage envelope nextSequence)) :
    Proceeds setting header broker (broker.appendMessage setting envelope nextSequence) :=
  .inr ⟨_, _, _, applied, fun io => commit_eq rfl _ io⟩

/-- An acknowledgement that was checked is replayed. -/
theorem acknowledge_proceeds (credential : PresentedCredential) (messageId : MessageId) :
    Proceeds setting header broker fun io =>
      broker.acknowledge setting credential messageId io := by
  simp only [acknowledge]
  cases broker.authenticate credential with
  | error error => exact .inl ⟨.error error, fun io => rfl⟩
  | ok caller =>
    cases checked : broker.checkAcknowledgement caller.1 messageId with
    | error error => exact .inl ⟨.error error, fun io => by simp only [checked]⟩
    | ok delivery =>
      have steps := checked
      simp only [checkAcknowledgement, ok_iff] at steps
      obtain ⟨_, -, message, known, present⟩ := steps
      simp only [checked]
      by_cases repeated : delivery.acknowledged = true
      · simp only [if_pos repeated]
        exact .inl ⟨_, fun io => rfl⟩
      · by_cases undelivered : delivery.deliveryAttempts = 0
        · simp only [if_neg repeated, if_pos undelivered]
          exact .inl ⟨_, fun io => rfl⟩
        · simp only [if_neg repeated, if_neg undelivered]
          have first : delivery.acknowledge =
              .ok (true, { delivery with acknowledged := true }) := by
            simp [RecipientDeliveryState.acknowledge, repeated, refuseIf, undelivered]
          refine .inr ⟨_, .acknowledged, broker.toReplica.setDelivery message messageId caller.1
            { delivery with acknowledged := true }, ?_, fun io => commit_eq ?_ _ io⟩
          · simp only [applyEvent, ok_iff, context_ok, Prod.exists, findDelivery_ok]
            exact ⟨message, delivery, ⟨known, present⟩, true, _, first, by simp, rfl⟩
          · simp only [ok_iff, context_ok, Prod.exists, findDelivery_ok]
            exact ⟨message, delivery, ⟨known, present⟩, true, _, first, by simp, rfl⟩

section

variable (serves : Serves setting header broker)

include serves

/-- A delivery that was previewed is replayed. -/
theorem recordDeliveryAttempt_proceeds (messageId : MessageId) (recipientId : String) :
    Proceeds setting header broker
      (broker.recordDeliveryAttempt setting messageId recipientId) := by
  cases previewed : broker.previewDelivery messageId recipientId with
  | error error =>
    refine .inl ⟨.error error, fun io => ?_⟩
    rw [recordDeliveryAttempt, previewed]
  | ok preview =>
    have steps := previewed
    simp only [previewDelivery, ok_iff, context_ok, Prod.exists, findDelivery_ok,
      serves.limits] at steps
    obtain ⟨message, delivery, found, -, recorded⟩ := steps
    refine .inr ⟨.deliveryAttempted messageId recipientId preview.deliveryAttempts,
      { message with recipients := message.recipients.insert recipientId preview },
      broker.toReplica.setDelivery message messageId recipientId preview, ?_, fun io => ?_⟩
    · simp only [applyEvent, ok_iff, context_ok, Prod.exists, findDelivery_ok]
      exact ⟨message, delivery, found, _, recorded, by simp, rfl⟩
    · rw [recordDeliveryAttempt, previewed]
      refine commit_eq ?_ _ io
      simp only [ok_iff, Prod.exists, findDelivery_ok]
      exact ⟨message, delivery, found, rfl⟩

/-- A delivery of the selected message. -/
theorem deliver_proceeds (recipientId : String) (selected : Option MessageId) :
    Proceeds setting header broker fun io => broker.deliver setting recipientId io selected := by
  cases selected with
  | none => exact .inl ⟨.ok none, fun io => rfl⟩
  | some messageId =>
    rcases recordDeliveryAttempt_proceeds serves messageId recipientId with
      ⟨answer, same⟩ | ⟨event, answer, after, applied, done⟩
    · refine .inl ⟨answer.map some, fun io => ?_⟩
      simp only [deliver, same io]
      cases answer <;> rfl
    · refine .inr ⟨event, some answer, after, applied, fun io => ?_⟩
      simp only [deliver, done io, committed]
      rcases broker.store.append setting.crates event io with ⟨error | done, store⟩ <;> rfl

/-- Every call leaves the broker, or appends one event that the replay takes as the broker does. -/
theorem perform_proceeds (request : Request) :
    Proceeds setting header broker (broker.perform setting request) := by
  change Proceeds setting header broker fun io => broker.perform setting request io
  cases request with
  | createChannel credential channelId members publishers =>
    simp only [perform, createChannel]
    cases prepared : broker.prepareChannel credential channelId members publishers with
    | error error => exact .inl ⟨.error error, fun io => rfl⟩
    | ok channel =>
      refine Proceeds.wrap ?_ .channel
      exact .inr ⟨_, _, _, prepareChannel_ok serves prepared, fun io => commit_eq rfl _ io⟩
  | sendDirect credential recipientId payload =>
    simp only [perform, sendDirect]
    cases prepared : broker.prepareDirect credential recipientId payload with
    | error error => exact .inl ⟨.error error, fun io => rfl⟩
    | ok made => exact (appendMessage_proceeds (prepareDirect_ok serves prepared)).wrap .sent
  | publishChannel credential channelId payload =>
    simp only [perform, publishChannel]
    cases prepared : broker.prepareBroadcast credential channelId payload with
    | error error => exact .inl ⟨.error error, fun io => rfl⟩
    | ok made => exact (appendMessage_proceeds (prepareBroadcast_ok serves prepared)).wrap .sent
  | receiveNext credential =>
    simp only [perform, receiveNext]
    cases broker.authenticate credential with
    | error error => exact .inl ⟨.error error, fun io => rfl⟩
    | ok caller => exact (deliver_proceeds serves _ _).wrap .received
  | receiveMessage credential messageId =>
    simp only [perform, receiveMessage]
    cases broker.authenticate credential with
    | error error => exact .inl ⟨.error error, fun io => rfl⟩
    | ok caller =>
      cases selected : broker.selectMessage caller.1 messageId with
      | error error => exact .inl ⟨.error error, fun io => by simp only [selected]; rfl⟩
      | ok chosen =>
        simp only [selected]
        exact (deliver_proceeds serves _ chosen).wrap .received
  | receiveNextFromChannel credential channelId =>
    simp only [perform, receiveNextFromChannel]
    cases broker.authenticate credential with
    | error error => exact .inl ⟨.error error, fun io => rfl⟩
    | ok caller =>
      cases checked : broker.checkMember caller.1 channelId with
      | error error => exact .inl ⟨.error error, fun io => by simp only [checked]; rfl⟩
      | ok done =>
        simp only [checked]
        exact (deliver_proceeds serves _ _).wrap .received
  | acknowledge credential messageId =>
    exact (acknowledge_proceeds credential messageId).wrap .outcome

end

end

end Maco.Messaging
