import Maco.Messaging.Rebuild

/-!
# Registered secrets in payloads

Before it appends a message the broker looks for the registered secrets in the payload. Its walk
reads the strings and the member names at every depth, but not the numbers.
-/

namespace Maco.Messaging

open Maco.Base CredentialRegistry MessagingBroker

/-- Where a text of a payload stands. -/
inductive TextPlace where
  | name
  | string
  | number
deriving DecidableEq, Repr

/-- The text a number is written with. -/
def numeral : Json → Option String
  | .number value => some (toString value)
  | .negative magnitude => some ("-" ++ toString magnitude)
  | .float literal => some (String.ofList literal.chars)
  | _ => none

/-- The texts of a payload at any depth: the member names, the strings and the written numbers. -/
inductive Carries : Json → TextPlace → String → Prop
  | string (text : String) : Carries (.string text) .string text
  | number {value : Json} {text : String} (written : numeral value = some text) :
      Carries value .number text
  | item {items : List Json} {item : Json} {place : TextPlace} {text : String}
      (member : item ∈ items) (carries : Carries item place text) :
      Carries (.array items) place text
  | name {members : List (String × Json)} {name : String} {value : Json}
      (member : (name, value) ∈ members) : Carries (.object members) .name name
  | value {members : List (String × Json)} {name : String} {value : Json} {place : TextPlace}
      {text : String} (member : (name, value) ∈ members) (carries : Carries value place text) :
      Carries (.object members) place text

theorem mem_itemsStrings {items : List Json} {text : String} :
    text ∈ Json.itemsStrings items ↔ ∃ item ∈ items, text ∈ item.strings := by
  induction items with
  | nil => simp [Json.itemsStrings]
  | cons item items ih => simp [Json.itemsStrings, ih]

theorem mem_membersStrings {members : List (String × Json)} {text : String} :
    text ∈ Json.membersStrings members ↔
      ∃ member ∈ members, text = member.1 ∨ text ∈ member.2.strings := by
  induction members with
  | nil => simp [Json.membersStrings]
  | cons member members ih => simp [Json.membersStrings, ih, or_assoc]

section

variable {credentials : CredentialRegistry} {payload : Json}

/-- The walk reaches every string and every member name. -/
theorem Carries.mem_strings (carries : Carries payload place text)
    (read : place ≠ .number) : text ∈ payload.strings := by
  induction carries with
  | string => exact List.mem_singleton_self _
  | number => exact absurd rfl read
  | item member _ ih => exact mem_itemsStrings.mpr ⟨_, member, ih read⟩
  | name member => exact mem_membersStrings.mpr ⟨_, member, .inl rfl⟩
  | value member _ ih => exact mem_membersStrings.mpr ⟨_, member, .inr (ih read)⟩

/-- A registered secret occurs in a text. An empty secret is never registered. -/
def CredentialRegistry.Reveals (credentials : CredentialRegistry) (text : String) : Prop :=
  ∃ agentId secret : String, credentials[agentId]? = some secret ∧ secret ≠ "" ∧
    secret.toList <:+: text.toList

theorem CredentialRegistry.Reveals.found (reveals : credentials.Reveals text) :
    credentials.values.any (containsBytesConstantTime text) = true := by
  obtain ⟨agentId, secret, registered, some_, occurs⟩ := reveals
  refine List.any_eq_true.mpr ⟨secret, BTreeMap.mem_values.mpr ⟨agentId, registered⟩, ?_⟩
  simp [containsBytesConstantTime, some_, containsText_iff.mpr occurs]

theorem stringContainsRegisteredSecret_found {spent next : ℕ × Bool}
    (inspected : credentials.stringContainsRegisteredSecret maxWork spent value = .ok next) :
    next.2 = (spent.2 || credentials.values.any (containsBytesConstantTime value)) := by
  refine foldlM_invariant (fun done state =>
    state.2 = (spent.2 || done.any (containsBytesConstantTime value))) ?_ (by simp) inspected
  intro done secret state next found stepped
  simp only [ok_iff] at stepped
  obtain ⟨-, rfl⟩ := stepped
  simp [found, Bool.or_assoc]

theorem payloadContainsRegisteredSecret_found
    (inspected : credentials.payloadContainsRegisteredSecret payload = .ok found) :
    found = payload.strings.any fun value =>
      credentials.values.any (containsBytesConstantTime value) := by
  simp only [payloadContainsRegisteredSecret, ok_iff] at inspected
  obtain ⟨spent, walked, rfl⟩ := inspected
  refine foldlM_invariant (fun done state =>
    state.2 = done.any fun value =>
      credentials.values.any (containsBytesConstantTime value)) ?_ rfl walked
  intro done value state next before stepped
  simp [stringContainsRegisteredSecret_found stepped, before]

variable {broker next : MessagingBroker}

/-- A message that is prepared holds no secret in what the walk reads. -/
theorem prepareMessage_inspected
    (prepared : broker.prepareMessage address senderId role recipientIds payload = .ok message) :
    broker.credentials.payloadContainsRegisteredSecret payload = .ok false := by
  simp only [prepareMessage, ok_iff, Bool.not_eq_true] at prepared
  obtain ⟨_, -, _, inspected, rfl, -⟩ := prepared
  exact inspected

/-- The payload of an accepted message was inspected. -/
theorem accepted_inspected {setting : Setting} {credential : PresentedCredential} {io : ℕ}
    {envelope : MessageEnvelope} (accepted : (∃ recipientId,
        broker.sendDirect setting credential recipientId payload io = (.ok envelope, next)) ∨
      ∃ channelId,
        broker.publishChannel setting credential channelId payload io = (.ok envelope, next)) :
    broker.credentials.payloadContainsRegisteredSecret payload = .ok false := by
  rcases accepted with ⟨recipientId, accepted⟩ | ⟨channelId, accepted⟩
  · rw [sendDirect] at accepted
    cases prepared : broker.prepareDirect credential recipientId payload with
    | error refusal => rw [prepared] at accepted; cases accepted
    | ok message =>
      simp only [prepareDirect, ok_iff, Prod.exists] at prepared
      obtain ⟨_, _, -, _, -, -, -, prepared⟩ := prepared
      exact prepareMessage_inspected prepared
  · rw [publishChannel] at accepted
    cases prepared : broker.prepareBroadcast credential channelId payload with
    | error refusal => rw [prepared] at accepted; cases accepted
    | ok message =>
      simp only [prepareBroadcast, ok_iff, Prod.exists] at prepared
      obtain ⟨_, _, -, _, -, _, -, -, -, prepared⟩ := prepared
      exact prepareMessage_inspected prepared

/-- An accepted message carries no registered secret exactly when none of its numbers does. -/
theorem accepted_carries_no_secret_iff {setting : Setting} {credential : PresentedCredential}
    {io : ℕ} {envelope : MessageEnvelope} (accepted : (∃ recipientId,
        broker.sendDirect setting credential recipientId payload io = (.ok envelope, next)) ∨
      ∃ channelId,
        broker.publishChannel setting credential channelId payload io = (.ok envelope, next)) :
    (∀ place text, Carries payload place text → ¬ broker.credentials.Reveals text) ↔
      ∀ literal, Carries payload .number literal → ¬ broker.credentials.Reveals literal := by
  refine ⟨fun clean => clean .number, fun numbers place text carries reveals => ?_⟩
  by_cases number : place = .number
  · subst number
    exact numbers text carries reveals
  · have clean := payloadContainsRegisteredSecret_found (accepted_inspected accepted)
    rw [eq_comm, List.any_eq_false] at clean
    exact clean text (carries.mem_strings number) reveals.found

end

/-- A pair whose worker has a secret of digits. -/
def digitSetting : Setting :=
  { pairSetting with credentials := .ofList [("lead", "lead-secret"), ("worker", "4711")] }

/-- A greeting with a number. -/
def numberedGreeting (number : ℕ) : Json := .array [.string "hello", .number number]

/-- The lead of that pair sends the worker a greeting. -/
def sendsGreeting (number : ℕ) (broker : MessagingBroker) :=
  broker.sendDirect digitSetting ⟨"lead", "lead-secret"⟩ "worker" (numberedGreeting number) 10

/-- The greeting is sent, whichever of two numbers it holds. -/
theorem exists_greeting (number : ℕ) (either : number = 4711 ∨ number = 12) :
    ∃ broker envelope next, BrokerReaches digitSetting (.running broker) ∧
      broker.credentials = digitSetting.credentials ∧
      sendsGreeting number broker = (.ok envelope, next) := by
  have sends : ((create digitSetting "g").toOption.map fun broker =>
      (decide (broker.credentials = digitSetting.credentials),
        (sendsGreeting number broker).1.toOption.map fun _ => ())) = some (true, some ()) := by
    rcases either with rfl | rfl <;> decide +kernel
  obtain ⟨broker, made, sent⟩ := ok_of_toOption sends
  obtain ⟨registered, sent⟩ := Prod.mk.inj sent
  obtain ⟨envelope, performed, -⟩ := ok_of_toOption sent
  exact ⟨broker, envelope, _, .created (by decide) made, of_decide_eq_true registered,
    Prod.ext performed rfl⟩

theorem accepted_carries_no_secret_iff_greeting :
    ∃ broker envelope next, BrokerReaches digitSetting (.running broker) ∧
      sendsGreeting 12 broker = (.ok envelope, next) ∧
      ∀ place text, Carries (numberedGreeting 12) place text →
        ¬ broker.credentials.Reveals text := by
  obtain ⟨broker, envelope, next, reaches, registered, sent⟩ := exists_greeting 12 (.inr rfl)
  refine ⟨broker, envelope, next, reaches, sent,
    (accepted_carries_no_secret_iff (.inl ⟨_, sent⟩)).mpr fun literal carries reveals => ?_⟩
  obtain rfl : literal = "12" := by
    cases carries with
    | number written => cases written
    | item member carries =>
      simp only [List.mem_cons, List.not_mem_nil, or_false] at member
      rcases member with rfl | rfl
      · cases carries with | number written => cases written
      · cases carries with | number written => exact (Option.some.inj written).symm
  have clean : digitSetting.credentials.values.any (containsBytesConstantTime "12") = false := by
    decide +kernel
  rw [← registered, reveals.found] at clean
  cases clean

/-- The number 4711 is sent although it prints as the worker's secret. -/
theorem accepted_number_carries_secret :
    ∃ broker envelope next text, BrokerReaches digitSetting (.running broker) ∧
      sendsGreeting 4711 broker = (.ok envelope, next) ∧
      Carries (numberedGreeting 4711) .number text ∧ broker.credentials.Reveals text := by
  obtain ⟨broker, envelope, next, reaches, registered, sent⟩ := exists_greeting 4711 (.inl rfl)
  refine ⟨broker, envelope, next, "4711", reaches, sent, .item (.tail _ (.head _)) (.number rfl),
    "worker", "4711", by rw [registered]; rfl, by decide, List.infix_rfl⟩

end Maco.Messaging
