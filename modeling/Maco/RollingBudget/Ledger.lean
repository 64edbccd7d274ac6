import Maco.RollingBudget.Event
import Maco.StateJournal.Files

/-!
# The workspace rolling budget ledger

The ledger keeps its events twice: as records of an authenticated journal and, decoded, in memory.
Every public call first decides what to append, checks that the journal still has room for the
terminal events of all pending reservations, and then publishes one record. Publication may fail
after the record has become durable, so it is modelled with what the file system does as a
parameter, and the outcome of a call is kept apart from the ledger it leaves behind.
-/

namespace Maco.RollingBudget

open Maco.Base

/-- `MAX_RECORDS` of the ledger's journal. -/
def maxRecords : ℕ := 4096

/-- `MAX_RECORD_BYTES` of the ledger's journal. -/
def maxRecordBytes : ℕ := 64 * 1024

/-- `MAX_TOTAL_BYTES` of the ledger's journal. -/
def maxTotalBytes : ℕ := 16 * 1024 * 1024

/-- `MAX_PHASE_BYTES` of the ledger's journal. -/
def maxPhaseBytes : ℕ := 32

/-- `JournalRecord`, without the identity of the instance and the authentication tags. -/
structure JournalRecord (Value : Type) where
  sequence : ℕ
  phase : String
  subject : Option String
  payload : Value
deriving Repr, DecidableEq

/-- The cost an event carries. -/
def BudgetLedgerEvent.costUsd : BudgetLedgerEvent → Option Float
  | .reservation _ _ entry => entry.costUsd
  | .reservationReconciled _ _ entry _ => entry.costUsd
  | .consume _ _ _ costUsd _ => costUsd
  | .poolConsume _ _ entry => entry.costUsd
  | .rateLimited .. => none

/-- The JSON library: `to_value` and `from_value` between an event and the value in memory that is
its payload, and the encoded length of a record. The law is that of the two functions: a cost that
is a number of JSON is kept by them as it is. Nothing is said of a value that is read from text. -/
structure Codec where
  Value : Type
  toValue : BudgetLedgerEvent → Value
  fromValue : Value → Option BudgetLedgerEvent
  encodedLength : JournalRecord Value → ℕ
  fromValue_toValue : ∀ event, costInvalid event.costUsd = false →
    fromValue (toValue event) = some event

/-- What the file system does with one append. -/
inductive AppendIo where
  /-- The record and the head are published. -/
  | completes
  /-- An error before the record is published. -/
  | refused
  /-- The record is published, but an error is reported before the journal takes it. -/
  | unacknowledged
  /-- The record is published and taken, but writing the head fails. -/
  | headFailed
deriving DecidableEq, Repr

variable (codec : Codec)

/-- `WorkspaceBudgetLedger`: the record files published in the journal directory, the records the
process holds, and the events it has decoded. -/
structure WorkspaceBudgetLedger where
  published : List (JournalRecord codec.Value)
  records : List (JournalRecord codec.Value)
  events : List BudgetLedgerEvent

/-- The ledger of a new journal. -/
def WorkspaceBudgetLedger.empty : WorkspaceBudgetLedger codec := ⟨[], [], []⟩

/-- The bytes the records take, each with its newline, as the journal counts them. -/
def usedBytes (records : List (JournalRecord codec.Value)) : ℕ :=
  (records.map fun record => codec.encodedLength record + 1).sum

/-- The byte count as the ledger measures it, which refuses a count past 64 bits. -/
def measureBytes (records : List (JournalRecord codec.Value))
    (lengthRefusal countRefusal : String) : Except String ℕ :=
  records.foldlM (fun total record => do
    let encoded ← require (checkedAddU64 (codec.encodedLength record) 1) lengthRefusal
    require (checkedAddU64 total encoded) countRefusal) 0

variable {codec}

namespace WorkspaceBudgetLedger

variable (ledger : WorkspaceBudgetLedger codec)

/-- The reservation an event records. -/
def reservationOf (event : BudgetLedgerEvent) : Option DurableBudgetReservation :=
  match event with
  | .reservation _ _ entry => some entry
  | _ => none

section

variable (reservationId : String)

def reservation : Option DurableBudgetReservation :=
  ledger.events.findSome? fun event =>
    (reservationOf event).filter fun entry => entry.reservationId == reservationId

/-- The pricing an event records for an id it reserves. -/
def pricingOf (event : BudgetLedgerEvent) : Option ChargePricing :=
  match event with
  | .reservation _ pricing entry => if entry.reservationId = reservationId then pricing else none
  | _ => none

/-- `reservation_pricing`: the search goes on when a reservation carries no pricing. -/
def reservationPricing : Option ChargePricing :=
  ledger.events.findSome? (pricingOf reservationId)

/-- The reservation an event settles. -/
def settles (event : BudgetLedgerEvent) : Bool :=
  match event with
  | .reservationReconciled _ _ entry _ => entry.reservationId == reservationId
  | _ => false

/-- `reservation_terminal`. -/
def reservationTerminal : Option BudgetLedgerEvent :=
  ledger.events.find? (settles reservationId)

/-- `reservation_is_terminal`. -/
def reservationIsTerminal : Bool :=
  (ledger.reservationTerminal reservationId).isSome

end

/-- One step of `unsettled_reservations`. -/
def trackPending (pending : BTreeMap String DurableBudgetReservation) (event : BudgetLedgerEvent) :
    BTreeMap String DurableBudgetReservation :=
  match event with
  | .reservation _ _ entry => pending.insert entry.reservationId entry
  | .reservationReconciled _ _ entry _ => pending.erase entry.reservationId
  | .consume .. | .poolConsume .. | .rateLimited .. => pending

/-- `unsettled_reservations`. -/
def unsettledReservations : BTreeMap String DurableBudgetReservation :=
  ledger.events.foldl trackPending ∅

/-- `ensure_append_capacity`: room for the next record and for the terminal events of the
reservations pending after it. -/
def ensureAppendCapacity (pendingAfter : ℕ) : Except String Unit := do
  let recordsAfter ← require (checkedAddU64 ledger.records.length 1)
    "workspace budget journal record count overflowed"
  let recordsWithTerminals ← require (checkedAddU64 recordsAfter pendingAfter)
    "workspace budget journal terminal reservation count overflowed"
  refuseIf (maxRecords < recordsWithTerminals)
    ("workspace rolling budget journal has insufficient record capacity for durable reservation " ++
      "reconciliation")
  let used ← measureBytes codec ledger.records
    "workspace budget encoded record length overflowed"
    "workspace budget journal byte count overflowed"
  let boundedFutureRecords ← require (checkedAddU64 pendingAfter 1)
    "workspace budget journal capacity count overflowed"
  let reservedBytes ← require (checkedMulU64 boundedFutureRecords maxRecordBytes)
    "workspace budget journal reserved byte count overflowed"
  refuseIf ((checkedAddU64 used reservedBytes).all (fun total => maxTotalBytes < total) = true)
    ("workspace rolling budget journal has insufficient byte capacity for durable reservation " ++
      "reconciliation")

/-- What `record_reservation_with_pricing` appends; nothing when the same reservation is pending
already. -/
def prepareReservation (reservation : DurableBudgetReservation) (pricing : Option ChargePricing) :
    Except String (Option BudgetLedgerEvent) := do
  validateDurableReservation reservation
  match ledger.reservation reservation.reservationId with
  | some existing =>
    if existing == reservation ∧ ledger.reservationPricing reservation.reservationId = pricing ∧
        ledger.reservationIsTerminal reservation.reservationId = false then
      pure none
    else .error ("workspace budget reservation id '" ++ reservation.reservationId ++
      "' was already recorded with different or terminal data")
  | none =>
    let pendingAfter ← require (checkedAddU64 ledger.unsettledReservations.size 1)
      "workspace budget pending reservation count overflowed"
    ledger.ensureAppendCapacity pendingAfter
    pure (some (.reservation ledgerFormatVersion pricing reservation))

/-- The charge of a terminal event is the one a reconciliation asks for. -/
def sameCharge (terminal : BudgetLedgerEvent) (reconciliation : DurableBudgetReconciliation)
    (pricing : Option ChargePricing) : Bool :=
  match terminal with
  | .reservationReconciled _ heldPricing entry _ =>
    decide (heldPricing = pricing) && decide (entry.tokens = reconciliation.tokens) &&
      decide (entry.requests = reconciliation.requests) &&
      entry.costUsd == reconciliation.costUsd && decide (entry.pool = reconciliation.pool)
  | _ => false

/-- What `reconcile_reservation_inner` appends; nothing when the reservation was settled with the
same charge before. -/
def prepareReconciliation (reconciliation : DurableBudgetReconciliation)
    (recoveredAfterProcessDeath : Bool) (pricing : Option ChargePricing) :
    Except String (Option BudgetLedgerEvent) := do
  validateDurableReconciliation reconciliation
  let reservation ← require (ledger.reservation reconciliation.reservationId)
    ("workspace budget reconciliation references unknown reservation '" ++
      reconciliation.reservationId ++ "'")
  refuseIf ((ledger.reservationPricing reconciliation.reservationId).bind ChargePricing.contract ≠
      pricing.bind ChargePricing.contract)
    "workspace budget reconciliation changed its frozen pricing contract"
  match ledger.reservationTerminal reconciliation.reservationId with
  | some terminal =>
    if sameCharge terminal reconciliation pricing then pure none
    else .error ("workspace budget reservation '" ++ reservation.reservationId ++
      "' already has a conflicting terminal event")
  | none =>
    let pendingAfter ← require (checkedSubU64 ledger.unsettledReservations.size 1)
      "workspace budget reconciliation lost its pending reservation"
    ledger.ensureAppendCapacity pendingAfter
    pure (some (.reservationReconciled ledgerFormatVersion pricing
      { reconciliation with unixSeconds := max reconciliation.unixSeconds reservation.unixSeconds }
      recoveredAfterProcessDeath))

/-- What `record_consumption` appends; nothing when there is nothing to count. -/
def prepareConsumption (runId : String) (tokens : ℕ) (costUsd : Option Float)
    (nowUnixSeconds : ℕ) : Except String (Option BudgetLedgerEvent) :=
  if tokens = 0 ∧ costUsd = none then pure none
  else do
    refuseIf (costInvalid costUsd = true)
      "rolling budget consumption cost must be finite and non-negative"
    ledger.ensureAppendCapacity ledger.unsettledReservations.size
    pure (some (.consume ledgerFormatVersion runId tokens costUsd nowUnixSeconds))

/-- The completion an event records under an id. -/
def completes (completionId : String) (event : BudgetLedgerEvent) : Bool :=
  match event with
  | .poolConsume _ _ entry => entry.completionId == completionId
  | _ => false

/-- The completion an event records is the one asked for. -/
def sameCompletion (event : BudgetLedgerEvent) (completion : CompletedPoolConsumption)
    (pricing : Option ChargePricing) : Bool :=
  match event with
  | .poolConsume _ heldPricing entry =>
    decide (entry.pool = completion.pool) && decide (heldPricing = pricing) &&
      decide (entry.tokens = completion.tokens) && decide (entry.requests = completion.requests) &&
      entry.costUsd == completion.costUsd
  | _ => false

/-- What `record_completed_pool_consumption_with_pricing` appends; nothing when the same completion
was recorded before. -/
def preparePoolConsumption (completion : CompletedPoolConsumption)
    (pricing : Option ChargePricing) : Except String (Option BudgetLedgerEvent) := do
  validateCompletedPoolConsumption completion
  match ledger.events.find? (completes completion.completionId) with
  | some event =>
    if sameCompletion event completion pricing then pure none
    else .error ("workspace quota completion id '" ++ completion.completionId ++
      "' was already recorded with different data")
  | none =>
    ledger.ensureAppendCapacity ledger.unsettledReservations.size
    pure (some (.poolConsume ledgerFormatVersion pricing completion))

/-- What `record_rate_limited` appends. -/
def prepareRateLimit (pool detail : String) (windowSeconds nowUnixSeconds : ℕ) :
    Except String (Option BudgetLedgerEvent) := do
  refuseIf (windowSeconds = 0) "rate-limit latch window must be greater than zero seconds"
  refuseIf (pool = "") "rate-limit pool cannot be empty"
  let untilUnixSeconds ← require (checkedAddU64 nowUnixSeconds windowSeconds)
    "rate-limit latch window overflowed"
  ledger.ensureAppendCapacity ledger.unsettledReservations.size
  pure (some (.rateLimited ledgerFormatVersion pool detail nowUnixSeconds untilUnixSeconds))

/-- `validate_record_size`. -/
def validateRecordSize (encoded currentTotal : ℕ) : Except String Unit := do
  refuseIf (encoded = 0 ∨ maxRecordBytes < encoded) "checkpoint record exceeds its byte bound"
  let total ← require (checkedAddU64 currentTotal encoded)
    "checkpoint journal byte total overflowed"
  refuseIf (maxTotalBytes < total) "checkpoint journal exceeds its aggregate byte bound"

section

variable (event : BudgetLedgerEvent)

/-- The record an append writes. -/
def nextRecord : JournalRecord codec.Value where
  sequence := ledger.records.length + 1
  phase := event.phase
  subject := event.subject
  payload := codec.toValue event

/-- The bounds of the journal's `append` on the number and the size of its records. -/
def appendCapacity : Except String Unit := do
  refuseIf (maxRecords ≤ ledger.records.length)
    "workspace_rolling_budget journal reached its bounded record count"
  validateRecordSize (codec.encodedLength (ledger.nextRecord event) + 1)
    (usedBytes codec ledger.records)

/-- The checks of the journal's `append` before it writes a file. A record file that this process
published without taking it stands in the way of the next one. -/
def appendChecks : Except String Unit := do
  StateJournal.validatePhase maxPhaseBytes event.phase
  whenSome event.subject (StateJournal.validateSubject maxSubjectBytes)
  ledger.appendCapacity event
  refuseIf (ledger.records.length < ledger.published.length)
    "checkpoint record file is already present"

end

variable (io : AppendIo)

/-- `publish`: append one record and, if the journal reports success, remember its event. -/
def publish (event : BudgetLedgerEvent) : Except String Unit × WorkspaceBudgetLedger codec :=
  let failed : Except String Unit := .error "failed to persist a rolling budget journal record"
  let record := ledger.nextRecord event
  match ledger.appendChecks event, io with
  | .error _, _ => (failed, ledger)
  | .ok (), .refused => (failed, ledger)
  | .ok (), .unacknowledged =>
    (failed, { ledger with published := ledger.published ++ [record] })
  | .ok (), .headFailed =>
    (failed, { ledger with
      published := ledger.published ++ [record]
      records := ledger.records ++ [record] })
  | .ok (), .completes =>
    (.ok (), { ledger with
      published := ledger.published ++ [record]
      records := ledger.records ++ [record]
      events := ledger.events ++ [event] })

/-- `DurableReservationRecordOutcome` and `PoolConsumptionRecordOutcome`. -/
inductive RecordOutcome where
  | recorded
  | alreadyRecorded
deriving DecidableEq, Repr

/-- Carry out what a call decided to append. -/
def execute (prepared : Except String (Option BudgetLedgerEvent)) :
    Except String RecordOutcome × WorkspaceBudgetLedger codec :=
  match prepared with
  | .error refusal => (.error refusal, ledger)
  | .ok none => (.ok .alreadyRecorded, ledger)
  | .ok (some event) =>
    let (result, ledger) := ledger.publish io event
    (result.map fun () => .recorded, ledger)

/-- `record_reservation_with_pricing`. -/
def recordReservation (reservation : DurableBudgetReservation) (pricing : Option ChargePricing) :
    Except String RecordOutcome × WorkspaceBudgetLedger codec :=
  ledger.execute io (ledger.prepareReservation reservation pricing)

/-- `reconcile_reservation_inner`. -/
def reconcileReservation (reconciliation : DurableBudgetReconciliation)
    (recoveredAfterProcessDeath : Bool) (pricing : Option ChargePricing) :
    Except String RecordOutcome × WorkspaceBudgetLedger codec :=
  ledger.execute io (ledger.prepareReconciliation reconciliation recoveredAfterProcessDeath pricing)

/-- `record_consumption`; the source returns no outcome. -/
def recordConsumption (runId : String) (tokens : ℕ) (costUsd : Option Float) (nowUnixSeconds : ℕ) :
    Except String RecordOutcome × WorkspaceBudgetLedger codec :=
  ledger.execute io (ledger.prepareConsumption runId tokens costUsd nowUnixSeconds)

/-- `record_completed_pool_consumption_with_pricing`. -/
def recordCompletedPoolConsumption (completion : CompletedPoolConsumption)
    (pricing : Option ChargePricing) : Except String RecordOutcome × WorkspaceBudgetLedger codec :=
  ledger.execute io (ledger.preparePoolConsumption completion pricing)

/-- `record_rate_limited`; the source returns no outcome. -/
def recordRateLimited (pool detail : String) (windowSeconds nowUnixSeconds : ℕ) :
    Except String RecordOutcome × WorkspaceBudgetLedger codec :=
  ledger.execute io (ledger.prepareRateLimit pool detail windowSeconds nowUnixSeconds)

/-- The calls of the ledger that append. -/
inductive Request where
  | recordReservation (reservation : DurableBudgetReservation) (pricing : Option ChargePricing)
  | reconcileReservation (reconciliation : DurableBudgetReconciliation)
      (pricing : Option ChargePricing)
  | recordConsumption (runId : String) (tokens : ℕ) (costUsd : Option Float) (nowUnixSeconds : ℕ)
  | recordCompletedPoolConsumption (completion : CompletedPoolConsumption)
      (pricing : Option ChargePricing)
  | recordRateLimited (pool detail : String) (windowSeconds nowUnixSeconds : ℕ)

/-- One call. -/
def call (request : Request) : Except String RecordOutcome × WorkspaceBudgetLedger codec :=
  match request with
  | .recordReservation reservation pricing => ledger.recordReservation io reservation pricing
  | .reconcileReservation reconciliation pricing =>
    ledger.reconcileReservation io reconciliation false pricing
  | .recordConsumption runId tokens costUsd nowUnixSeconds =>
    ledger.recordConsumption io runId tokens costUsd nowUnixSeconds
  | .recordCompletedPoolConsumption completion pricing =>
    ledger.recordCompletedPoolConsumption io completion pricing
  | .recordRateLimited pool detail windowSeconds nowUnixSeconds =>
    ledger.recordRateLimited io pool detail windowSeconds nowUnixSeconds

/-- What a call appends. -/
def prepare (request : Request) : Except String (Option BudgetLedgerEvent) :=
  match request with
  | .recordReservation reservation pricing => ledger.prepareReservation reservation pricing
  | .reconcileReservation reconciliation pricing =>
    ledger.prepareReconciliation reconciliation false pricing
  | .recordConsumption runId tokens costUsd nowUnixSeconds =>
    ledger.prepareConsumption runId tokens costUsd nowUnixSeconds
  | .recordCompletedPoolConsumption completion pricing =>
    ledger.preparePoolConsumption completion pricing
  | .recordRateLimited pool detail windowSeconds nowUnixSeconds =>
    ledger.prepareRateLimit pool detail windowSeconds nowUnixSeconds

/-- Every call prepares and then publishes. -/
theorem call_eq (io : AppendIo) (request : Request) :
    ledger.call io request = ledger.execute io (ledger.prepare request) := by
  cases request <;> rfl

/-- The charge crash recovery writes for a pending reservation. -/
def recoveryCharge (reservation : DurableBudgetReservation) (recoveredAt : ℕ) :
    DurableBudgetReconciliation where
  reservationId := reservation.reservationId
  tokens := reservation.tokens
  requests := reservation.requests
  costUsd := reservation.costUsd
  pool := reservation.pool
  unixSeconds := max recoveredAt reservation.unixSeconds

/-- What crash recovery appends for one pending reservation. -/
def prepareRecovery (recoveredAt : ℕ) (reservation : DurableBudgetReservation) :
    Except String (Option BudgetLedgerEvent) :=
  ledger.prepareReconciliation (recoveryCharge reservation recoveredAt) true
    (ledger.reservationPricing reservation.reservationId)

end WorkspaceBudgetLedger

open WorkspaceBudgetLedger in
/-- The loop of `recover_unsettled_reservations`, which stops at the first failure. -/
def recoverAll (io : DurableBudgetReservation → AppendIo) (recoveredAt : ℕ) :
    List DurableBudgetReservation → WorkspaceBudgetLedger codec →
      Except String Unit × WorkspaceBudgetLedger codec
  | [], ledger => (.ok (), ledger)
  | reservation :: rest, ledger =>
    match ledger.execute (io reservation) (ledger.prepareRecovery recoveredAt reservation) with
    | (.error refusal, ledger) => (.error refusal, ledger)
    | (.ok _, ledger) => recoverAll io recoveredAt rest ledger

/-- `recover_unsettled_reservations`, with the clock it reads. -/
def WorkspaceBudgetLedger.recoverUnsettledReservations (ledger : WorkspaceBudgetLedger codec)
    (io : DurableBudgetReservation → AppendIo) (unixNow : Except String ℕ) :
    Except String Unit × WorkspaceBudgetLedger codec :=
  let pending := BTreeMap.values ledger.unsettledReservations
  if pending = [] then (.ok (), ledger)
  else
    match unixNow with
    | .error _ =>
      (.error "failed to timestamp conservative workspace budget crash recovery", ledger)
    | .ok recoveredAt => recoverAll io recoveredAt pending ledger

namespace WorkspaceBudgetLedger

variable {ledger : WorkspaceBudgetLedger codec}

/-- The ledger after an append that published its record but reported a failure before the journal
took it. -/
def unacknowledge (ledger : WorkspaceBudgetLedger codec) (event : BudgetLedgerEvent) :
    WorkspaceBudgetLedger codec :=
  { ledger with published := ledger.published ++ [ledger.nextRecord event] }

/-- The ledger after an append that failed to write the head. -/
def headFail (ledger : WorkspaceBudgetLedger codec) (event : BudgetLedgerEvent) :
    WorkspaceBudgetLedger codec :=
  { ledger with
    published := ledger.published ++ [ledger.nextRecord event]
    records := ledger.records ++ [ledger.nextRecord event] }

/-- The ledger after a complete append. -/
def append (ledger : WorkspaceBudgetLedger codec) (event : BudgetLedgerEvent) :
    WorkspaceBudgetLedger codec :=
  { ledger with
    published := ledger.published ++ [ledger.nextRecord event]
    records := ledger.records ++ [ledger.nextRecord event]
    events := ledger.events ++ [event] }

section

variable (ledger : WorkspaceBudgetLedger codec) (io : AppendIo)
  (prepared : Except String (Option BudgetLedgerEvent))

/-- What carrying out a prepared append can do, by what the file system did. -/
inductive Executed : Except String RecordOutcome → WorkspaceBudgetLedger codec → Prop where
  | refused (refusal : String) : Executed (.error refusal) ledger
  | alreadyRecorded (nothing : prepared = .ok none) :
      Executed (.ok .alreadyRecorded) ledger
  | unacknowledged (refusal : String) {event} (chosen : prepared = .ok (some event))
      (checked : ledger.appendChecks event = .ok ()) :
      Executed (.error refusal) (ledger.unacknowledge event)
  | headFailed (refusal : String) {event} (chosen : prepared = .ok (some event))
      (checked : ledger.appendChecks event = .ok ()) (failed : io = .headFailed) :
      Executed (.error refusal) (ledger.headFail event)
  | completed {event} (chosen : prepared = .ok (some event))
      (checked : ledger.appendChecks event = .ok ()) :
      Executed (.ok .recorded) (ledger.append event)

end

/-- Carrying out a prepared append does nothing else, and loses the head only when the file system
does. -/
theorem execute_executed (io : AppendIo) (prepared : Except String (Option BudgetLedgerEvent)) :
    ledger.Executed io prepared (ledger.execute io prepared).1 (ledger.execute io prepared).2 := by
  cases prepared with
  | error refusal => exact .refused refusal
  | ok chosen =>
    cases chosen with
    | none => exact .alreadyRecorded rfl
    | some event =>
      have published : ledger.execute io (.ok (some event)) =
          ((ledger.publish io event).1.map fun () => .recorded, (ledger.publish io event).2) := rfl
      rw [published]
      unfold publish
      cases checked : ledger.appendChecks event with
      | error refusal => exact .refused _
      | ok done =>
        cases io with
        | completes => exact .completed rfl checked
        | refused => exact .refused _
        | unacknowledged => exact .unacknowledged _ rfl checked
        | headFailed => exact .headFailed _ rfl checked rfl

theorem call_executed (io : AppendIo) (request : Request) :
    ledger.Executed io (ledger.prepare request) (ledger.call io request).1
      (ledger.call io request).2 := by
  rw [call_eq]
  exact ledger.execute_executed io _

end WorkspaceBudgetLedger

/-- A byte count is measured exactly when it fits 64 bits. -/
theorem measureBytes_ok :
    measureBytes codec records lengthRefusal countRefusal = .ok total ↔
      usedBytes codec records < 2 ^ 64 ∧ total = usedBytes codec records := by
  suffices general : ∀ start, start < 2 ^ 64 → (records.foldlM (fun total record => do
      let encoded ← require (checkedAddU64 (codec.encodedLength record) 1) lengthRefusal
      require (checkedAddU64 total encoded) countRefusal) start = .ok total ↔
        start + usedBytes codec records < 2 ^ 64 ∧ total = start + usedBytes codec records) by
    have fromZero := general 0 (by decide)
    rw [Nat.zero_add] at fromZero
    exact fromZero
  induction records with
  | nil =>
    intro start fits
    have none_ : usedBytes codec [] = 0 := rfl
    rw [List.foldlM_nil, pure_ok, none_]
    omega
  | cons record records ih =>
    intro start fits
    have counted : usedBytes codec (record :: records) =
        codec.encodedLength record + 1 + usedBytes codec records := rfl
    simp only [List.foldlM_cons, ok_iff, checkedAddU64_eq_some, counted]
    constructor
    · rintro ⟨next, ⟨encoded, ⟨-, rfl⟩, short, rfl⟩, rest⟩
      rw [ih _ short] at rest
      omega
    · rintro ⟨short, rfl⟩
      refine ⟨start + (codec.encodedLength record + 1), ⟨_, ⟨by omega, rfl⟩, by omega, rfl⟩, ?_⟩
      rw [ih _ (by omega)]
      omega

/-- A byte total passes its bound exactly when it stays within it. -/
theorem total_within :
    ¬ (checkedAddU64 used reserved).all (fun total => maxTotalBytes < total) = true ↔
      used + reserved ≤ maxTotalBytes := by
  have bound : maxTotalBytes < 2 ^ 64 := by decide
  unfold checkedAddU64
  split
  · simp
  · simp only [Option.all_none, not_true_eq_false, false_iff]
    omega

/-- The journal has room for the terminal events of the pending reservations. -/
def HasRoom (records : List (JournalRecord codec.Value)) (pending : ℕ) : Prop :=
  records.length + pending ≤ maxRecords ∧
    usedBytes codec records + pending * maxRecordBytes ≤ maxTotalBytes

/-- A record within its own bound takes the place reserved for it. -/
theorem HasRoom.append (room : HasRoom records (pending + 1))
    (short : codec.encodedLength record + 1 ≤ maxRecordBytes) :
    HasRoom (records ++ [record]) pending := by
  have counted : usedBytes codec (records ++ [record]) =
      usedBytes codec records + (codec.encodedLength record + 1) := by
    simp [usedBytes]
  obtain ⟨count, bytes⟩ := room
  constructor
  · rw [List.length_append, List.length_singleton]
    omega
  · rw [counted]
    rw [Nat.add_mul, Nat.one_mul] at bytes
    omega

/-- A record that is written is within its own bound. -/
theorem WorkspaceBudgetLedger.encodedLength_le {ledger : WorkspaceBudgetLedger codec}
    {event : BudgetLedgerEvent} (checked : ledger.appendChecks event = .ok ()) :
    codec.encodedLength (ledger.nextRecord event) + 1 ≤ maxRecordBytes := by
  simp only [appendChecks, appendCapacity, validateRecordSize, ok_iff] at checked
  obtain ⟨-, -, -, -, ⟨-, size, -⟩, -⟩ := checked
  omega

/-- `ensure_append_capacity` asks for room for one record more than the terminal events. -/
theorem WorkspaceBudgetLedger.ensureAppendCapacity_ok {ledger : WorkspaceBudgetLedger codec}
    : ledger.ensureAppendCapacity pendingAfter = .ok done ↔
      HasRoom ledger.records (pendingAfter + 1) := by
  have records : maxRecords = 4096 := rfl
  have bytes : maxRecordBytes = 65536 := rfl
  have total : maxTotalBytes = 16777216 := rfl
  simp only [ensureAppendCapacity, ok_iff, checkedAddU64_eq_some, measureBytes_ok, total_within,
    HasRoom, checkedMulU64, Option.ite_none_right_eq_some, Option.some.injEq]
  constructor
  · rintro ⟨_, ⟨-, rfl⟩, _, ⟨-, rfl⟩, fits, _, ⟨-, rfl⟩, _, ⟨-, rfl⟩, _, ⟨-, rfl⟩, within⟩
    exact ⟨by omega, within⟩
  · rintro ⟨fits, within⟩
    refine ⟨_, ⟨by omega, rfl⟩, _, ⟨by omega, rfl⟩, by omega, _, ⟨by omega, rfl⟩, _,
      ⟨by omega, rfl⟩, _, ⟨by omega, rfl⟩, within⟩

end Maco.RollingBudget
