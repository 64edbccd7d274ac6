import Maco.RollingBudget.History

/-!
# Replaying the rolling budget journal

`replay_events` reads every record of the journal back and checks it against the records before
it. What a record has to satisfy is stated once as `Admissible`, about the events alone; the
bookkeeping of the replay is shown to decide exactly that.
-/

namespace Maco.RollingBudget

open Maco.Base List

/-- The bookkeeping of `replay_events`. -/
structure ReplayState where
  events : List BudgetLedgerEvent
  poolCompletionIds : BTreeSet String
  reservations : BTreeMap String DurableBudgetReservation
  reservationContracts : BTreeMap String (Option PricingContractProvenance)
  reservationTerminals : BTreeSet String

/-- The bookkeeping before the first record. -/
def ReplayState.empty : ReplayState := ⟨[], ∅, ∅, ∅, ∅⟩

/-- The check of one event in `replay_events`, with the bookkeeping it leaves. -/
def ReplayState.check (state : ReplayState) (event : BudgetLedgerEvent) :
    Except String ReplayState :=
  match event with
  | .reservation version pricing entry => do
    refuseIf (version ≠ ledgerFormatVersion)
      ("unsupported workspace budget reservation version " ++ toString version)
    validateDurableReservation entry
    refuseIf (state.reservations.contains entry.reservationId = true)
      ("workspace budget ledger contains duplicate reservation id '" ++ entry.reservationId ++ "'")
    pure { state with
      reservations := state.reservations.insert entry.reservationId entry
      reservationContracts := state.reservationContracts.insert entry.reservationId
        (pricing.bind ChargePricing.contract) }
  | .reservationReconciled version pricing entry recoveredAfterProcessDeath => do
    refuseIf (version ≠ ledgerFormatVersion)
      ("unsupported workspace budget reconciliation version " ++ toString version)
    validateDurableReconciliation entry
    let reservation ← require (state.reservations[entry.reservationId]?)
      ("workspace budget reconciliation references unknown reservation '" ++
        entry.reservationId ++ "'")
    refuseIf (state.reservationContracts[entry.reservationId]?.join ≠
        pricing.bind ChargePricing.contract)
      "workspace budget reconciliation changed its frozen pricing contract"
    refuseIf (entry.unixSeconds < reservation.unixSeconds)
      ("workspace budget reconciliation predates reservation '" ++ entry.reservationId ++ "'")
    refuseIf (recoveredAfterProcessDeath = true ∧ (entry.pool ≠ reservation.pool ∨
        entry.requests ≠ reservation.requests ∨ entry.tokens ≠ reservation.tokens ∨
        (entry.costUsd == reservation.costUsd) = false))
      ("workspace budget recovered reconciliation '" ++ entry.reservationId ++
        "' is not the conservative reservation charge")
    refuseIf (state.reservationTerminals.contains entry.reservationId = true)
      ("workspace budget reservation '" ++ entry.reservationId ++
        "' has duplicate or conflicting terminal events")
    pure { state with
      reservationTerminals := state.reservationTerminals.insert entry.reservationId }
  | .consume version runId _ costUsd _ => do
    refuseIf (version ≠ ledgerFormatVersion)
      ("unsupported rolling budget consume version " ++ toString version)
    refuseIf (runId = "") "rolling budget consume event is missing a run id"
    refuseIf (costInvalid costUsd = true) "rolling budget consume event has an invalid cost"
    pure state
  | .poolConsume version _ entry => do
    refuseIf (version ≠ ledgerFormatVersion)
      ("unsupported workspace quota pool consumption version " ++ toString version)
    validateCompletedPoolConsumption entry
    refuseIf (state.poolCompletionIds.contains entry.completionId = true)
      ("workspace quota pool ledger contains duplicate completion id '" ++ entry.completionId ++
        "'")
    pure { state with poolCompletionIds := state.poolCompletionIds.insert entry.completionId }
  | .rateLimited version pool _ unixSeconds untilUnixSeconds => do
    refuseIf (version ≠ ledgerFormatVersion)
      ("unsupported rolling budget rate-limit version " ++ toString version)
    refuseIf (pool = "") "rolling budget rate-limit event is missing a pool"
    refuseIf (untilUnixSeconds < unixSeconds)
      "rolling budget rate-limit latch ends before it starts"
    pure state

/-- The bookkeeping with one more event read. -/
def ReplayState.push (state : ReplayState) (event : BudgetLedgerEvent) : ReplayState :=
  { state with events := state.events ++ [event] }

variable (codec : Codec)

/-- One record of `replay_events`. -/
def replayRecord (state : ReplayState) (record : JournalRecord codec.Value) :
    Except String ReplayState := do
  let event ← require (codec.fromValue record.payload)
    "workspace rolling budget journal contains an unknown or corrupt event"
  refuseIf (record.phase ≠ event.phase)
    "workspace rolling budget journal phase does not match its payload"
  let checked ← state.check event
  pure (checked.push event)

/-- The capacity check at the end of `replay_events`. -/
def replayCapacity (records : List (JournalRecord codec.Value)) (state : ReplayState) :
    Except String Unit := do
  let pending ← require
    (checkedSubU64 state.reservations.size state.reservationTerminals.size)
    "workspace budget replay has more terminals than reservations"
  let recordsWithTerminals ← require (checkedAddU64 records.length pending)
    "workspace budget replay terminal count overflowed"
  refuseIf (maxRecords < recordsWithTerminals)
    ("workspace rolling budget journal cannot reconcile every durable reservation within its " ++
      "record bound")
  let used ← measureBytes codec records "workspace budget replay encoded length overflowed"
    "workspace budget replay byte count overflowed"
  let terminalBytes ← require (checkedMulU64 pending maxRecordBytes)
    "workspace budget replay terminal byte reservation overflowed"
  refuseIf ((checkedAddU64 used terminalBytes).all (fun total => maxTotalBytes < total) = true)
    ("workspace rolling budget journal cannot reconcile every durable reservation within its " ++
      "byte bound")

/-- `replay_events`. -/
def replayEvents (records : List (JournalRecord codec.Value)) :
    Except String (List BudgetLedgerEvent) := do
  let state ← records.foldlM (replayRecord codec) ReplayState.empty
  replayCapacity codec records state
  pure state.events

variable {codec}

open WorkspaceBudgetLedger (settles completes)

/-- The bookkeeping is that of a list of events. -/
structure ReplayState.Tracks (state : ReplayState) (events : List BudgetLedgerEvent) : Prop where
  events_eq : state.events = events
  completion : ∀ id, state.poolCompletionIds.contains id = true ↔
    ∃ event ∈ events, completes id event = true
  reservation : ∀ id entry, state.reservations[id]? = some entry ↔
    ∃ version pricing, .reservation version pricing entry ∈ events ∧ entry.reservationId = id
  contract : ∀ version pricing entry, .reservation version pricing entry ∈ events →
    state.reservationContracts[entry.reservationId]? = some (pricing.bind ChargePricing.contract)
  terminal : ∀ id, state.reservationTerminals.contains id = true ↔
    ∃ event ∈ events, settles id event = true
  count : state.reservations.size = state.reservationTerminals.size + (unsettledOf events).size

theorem ReplayState.Tracks.empty : ReplayState.empty.Tracks [] := by
  refine ⟨rfl, fun id => ?_, fun id entry => ?_, fun version pricing entry listed => ?_,
    fun id => ?_, rfl⟩
  · simp [ReplayState.empty]
  · simp [ReplayState.empty]
  · cases listed
  · simp [ReplayState.empty]

variable {state : ReplayState} {events : List BudgetLedgerEvent} {event : BudgetLedgerEvent}

section

variable (tracks : state.Tracks events) {id : String}

include tracks

/-- An id is free in the bookkeeping when no event reserved it. -/
theorem ReplayState.Tracks.unreserved_iff : state.reservations[id]? = none ↔
    ∀ earlier ∈ events, ¬ reserves id earlier := by
  rw [Option.eq_none_iff_forall_ne_some]
  constructor
  · rintro absent earlier listed ⟨version, pricing, entry, rfl, sameId⟩
    exact absent entry ((tracks.reservation _ _).mpr ⟨version, pricing, listed, sameId⟩)
  · intro fresh entry found
    obtain ⟨version, pricing, listed, sameId⟩ := (tracks.reservation _ _).mp found
    exact fresh _ listed ⟨version, pricing, entry, rfl, sameId⟩

/-- An event passes the check exactly when it may follow the events before it and is not a
consumption for no run. -/
theorem ReplayState.Tracks.check_succeeds_iff :
    (∃ next, state.check event = .ok next) ↔ Admissible events event ∧ ¬ anonymous event := by
  have unsettled (id : String) : state.reservationTerminals.contains id = false ↔
      ∀ earlier ∈ events, settles id earlier = false := by
    simp [← Bool.not_eq_true, tracks.terminal]
  have uncompleted (id : String) : state.poolCompletionIds.contains id = false ↔
      ∀ earlier ∈ events, completes id earlier = false := by
    simp [← Bool.not_eq_true, tracks.completion]
  cases event
  all_goals
    simp only [check, ok_iff, Unique.exists_iff, PUnit.default_eq_unit, exists_and_left, exists_eq',
      and_true, not_not, not_lt, not_and, not_or, ne_eq, Bool.not_eq_true, Bool.not_eq_false,
      Admissible, anonymous, reduceCtorEq, exists_const, not_false_eq_true,
      BTreeMap.not_contains_iff, tracks.unreserved_iff, unsettled, uncompleted]
  case reservationReconciled version pricing entry recovered =>
    refine and_congr_right fun _ => and_congr_right fun _ => ?_
    constructor
    · rintro ⟨_, reservation, found, frozen, later, conservative, pending, -⟩
      obtain ⟨v, p, reserved, sameId⟩ := (tracks.reservation _ _).mp found
      rw [← sameId, tracks.contract v p reservation reserved] at frozen
      exact ⟨⟨v, p, reservation, reserved, sameId, frozen, later, conservative⟩, pending⟩
    · rintro ⟨⟨v, p, reservation, reserved, charges⟩, pending⟩
      have frozen := tracks.contract v p reservation reserved
      rw [charges.id, charges.contract] at frozen
      exact ⟨_, reservation, (tracks.reservation _ _).mpr ⟨v, p, reserved, charges.id⟩,
        frozen ▸ rfl, charges.later, charges.recovered, pending, rfl⟩
  case consume version runId tokens costUsd unixSeconds =>
    simp [and_left_comm, and_comm]

end

variable {holds : BudgetLedgerEvent → Prop}

theorem exists_mem_append
    : (∃ earlier ∈ events ++ [event], holds earlier) ↔
      (∃ earlier ∈ events, holds earlier) ∨ holds event := by
  simp only [mem_append, mem_singleton, or_and_right, exists_or, exists_eq_left]

theorem exists_mem_append_of_not (not : ¬ holds event) :
    (∃ earlier ∈ events ++ [event], holds earlier) ↔ ∃ earlier ∈ events, holds earlier := by
  rw [exists_mem_append, or_iff_left not]

/-- The bookkeeping after an event that is neither a reservation nor a reconciliation keeps what it
knows about reservations. -/
theorem ReplayState.Tracks.other (tracks : state.Tracks events)
    (other : ∀ version pricing entry, event ≠ .reservation version pricing entry)
    (settlesNone : ∀ id, settles id event = false)
    (samePending : unsettledOf (events ++ [event]) = unsettledOf events)
    (completion : ∀ id, completed.contains id = true ↔
      ∃ earlier ∈ events ++ [event], completes id earlier = true) :
    ({ state with poolCompletionIds := completed }.push event).Tracks (events ++ [event]) := by
  refine ⟨by rw [push, tracks.events_eq], completion, fun id entry => ?_,
    fun version pricing entry listed => ?_, fun id => ?_, ?_⟩
  · have unchanged : ∀ version pricing, .reservation version pricing entry ∈ events ++ [event] ↔
        .reservation version pricing entry ∈ events := by
      intro version pricing
      simp [(other version pricing entry).symm]
    simp only [unchanged]
    exact tracks.reservation id entry
  · rcases mem_append.mp listed with earlier | last
    · exact tracks.contract version pricing entry earlier
    · exact absurd (mem_singleton.mp last).symm (other version pricing entry)
  · rw [exists_mem_append_of_not (by simp [settlesNone id])]
    exact tracks.terminal id
  · rw [samePending]
    exact tracks.count

variable {next : ReplayState}

/-- An event that passes the check is tracked after it. -/
theorem ReplayState.Tracks.check_tracks (tracks : state.Tracks events) (history : WellFormed events)
    (admissible : Admissible events event) (checked : state.check event = .ok next) :
    (next.push event).Tracks (events ++ [event]) := by
  have size := history.unsettledOf_size admissible
  -- Three kinds of events complete nothing.
  have sameCompletions (other : ∀ id, completes id event = false) (id : String) :
      state.poolCompletionIds.contains id = true ↔
        ∃ earlier ∈ events ++ [event], completes id earlier = true := by
    rw [exists_mem_append_of_not (by simp [other])]
    exact tracks.completion id
  cases event with
  | reservation version pricing entry =>
    simp only [check, ok_iff, Bool.not_eq_true, BTreeMap.not_contains_iff] at checked
    obtain ⟨-, -, -, absent, rfl⟩ := checked
    have fresh := admissible.2.2
    refine ⟨by rw [push, tracks.events_eq], sameCompletions fun _ => rfl, fun id held => ?_,
      fun v p held listed => ?_, fun id => ?_, ?_⟩
    · rw [push, BTreeMap.get_insert_fresh absent, tracks.reservation, Prod.mk.injEq]
      simp only [mem_append, mem_singleton, BudgetLedgerEvent.reservation.injEq]
      constructor
      · rintro (⟨v, p, listed, sameId⟩ | ⟨rfl, rfl⟩)
        · exact ⟨v, p, .inl listed, sameId⟩
        · exact ⟨_, _, .inr ⟨rfl, rfl, rfl⟩, rfl⟩
      · rintro ⟨v, p, listed | ⟨-, -, rfl⟩, sameId⟩
        · exact .inl ⟨v, p, listed, sameId⟩
        · exact .inr ⟨sameId.symm, rfl⟩
    · rw [push, BTreeMap.get_insert]
      rcases mem_append.mp listed with earlier | last
      · have other : entry.reservationId ≠ held.reservationId :=
          fun same => fresh _ earlier ⟨v, p, held, rfl, same.symm⟩
        rw [if_neg other]
        exact tracks.contract v p held earlier
      · injection mem_singleton.mp last with _ samePricing same
        rw [same, samePricing, if_pos rfl]
    · rw [exists_mem_append_of_not (by simp [settles])]
      exact tracks.terminal id
    · rw [size, push, BTreeMap.size_insert absent, tracks.count]
      rfl
  | reservationReconciled version pricing entry recovered =>
    simp only [check, ok_iff] at checked
    obtain ⟨-, -, -, reservation, found, -, -, -, pending, rfl⟩ := checked
    have isPending : (unsettledOf events)[entry.reservationId]? = some reservation :=
      (history.unsettledOf_get _ _).mpr ⟨(tracks.reservation _ _).mp found, admissible.2.2.2⟩
    have positive : 0 < (unsettledOf events).size := BTreeMap.size_pos isPending
    refine ⟨by rw [push, tracks.events_eq], sameCompletions fun _ => rfl, fun id held => ?_,
      fun v p held listed => ?_, fun id => ?_, ?_⟩
    · simpa [push] using tracks.reservation id held
    · exact tracks.contract v p held (by simpa using listed)
    · rw [exists_mem_append, push, BTreeSet.contains_insert, tracks.terminal, or_comm]
      simp [settles]
    · rw [size, push, BTreeSet.size_insert pending, tracks.count, pendingAfter]
      omega
  | consume version runId tokens costUsd unixSeconds =>
    simp only [check, ok_iff] at checked
    obtain ⟨-, -, -, -, -, -, rfl⟩ := checked
    exact tracks.other (by simp) (fun _ => rfl) (unsettledOf_append _ _)
      (sameCompletions fun _ => rfl)
  | poolConsume version pricing entry =>
    simp only [check, ok_iff] at checked
    obtain ⟨-, -, -, -, -, -, rfl⟩ := checked
    exact tracks.other (by simp) (fun _ => rfl) (unsettledOf_append _ _) fun id => by
      rw [exists_mem_append, BTreeSet.contains_insert, tracks.completion, or_comm]
      simp [completes]
  | rateLimited version pool detail unixSeconds untilUnixSeconds =>
    simp only [check, ok_iff] at checked
    obtain ⟨-, -, -, -, -, rfl⟩ := checked
    exact tracks.other (by simp) (fun _ => rfl) (unsettledOf_append _ _)
      (sameCompletions fun _ => rfl)

/-- A record is the one the ledger writes for an event. -/
def Writes (record : JournalRecord codec.Value) (event : BudgetLedgerEvent) : Prop :=
  record.phase = event.phase ∧ record.payload = codec.toValue event ∧
    costInvalid event.costUsd = false

/-- Reading a written record is checking its event. -/
theorem replayRecord_writes (written : Writes record event) :
    replayRecord codec state record = .ok next ↔
      ∃ checked, state.check event = .ok checked ∧ checked.push event = next := by
  obtain ⟨phase, payload, cost⟩ := written
  have read : codec.fromValue record.payload = some event := by
    rw [payload, codec.fromValue_toValue event cost]
  simp only [replayRecord, ok_iff, read, Option.some.injEq, not_not, exists_eq_left', phase,
    true_and]

variable {records : List (JournalRecord codec.Value)}

variable {later : List BudgetLedgerEvent} {start : ReplayState}

/-- Reading the records of a history tracks it. -/
theorem foldlM_replayRecord_tracks (written : List.Forall₂ Writes records later)
    (tracks : start.Tracks events)
    (history : WellFormed events) (named : ∀ event ∈ events, ¬ anonymous event)
    (read : records.foldlM (replayRecord codec) start = .ok state) :
    WellFormed (events ++ later) ∧ (∀ event ∈ events ++ later, ¬ anonymous event) ∧
      state.Tracks (events ++ later) := by
  induction written generalizing events start with
  | nil =>
    rw [foldlM_nil, pure_ok] at read
    rw [append_nil, ← read]
    exact ⟨history, named, tracks⟩
  | @cons record event records later first _ ih =>
    rw [foldlM_cons, bind_ok] at read
    obtain ⟨next, stepped, rest⟩ := read
    obtain ⟨checked, passed, rfl⟩ := (replayRecord_writes first).mp stepped
    obtain ⟨admissible, isNamed⟩ := tracks.check_succeeds_iff.mp ⟨checked, passed⟩
    have tracked := tracks.check_tracks history admissible passed
    have stillNamed : ∀ earlier ∈ events ++ [event], ¬ anonymous earlier := by
      simpa only [mem_append, mem_singleton, or_imp, forall_and, forall_eq] using
        And.intro named isNamed
    have result := ih tracked (history.snoc admissible) stillNamed rest
    rwa [append_assoc, singleton_append] at result

/-- The records of a history without a consumption for no run can be read. -/
theorem foldlM_replayRecord_succeeds (written : List.Forall₂ Writes records later)
    (tracks : start.Tracks events)
    (history : WellFormed (events ++ later)) (before : WellFormed events)
    (named : ∀ event ∈ later, ¬ anonymous event) :
    ∃ state, records.foldlM (replayRecord codec) start = .ok state := by
  induction written generalizing events start with
  | nil => exact ⟨start, rfl⟩
  | @cons record event records later first _ ih =>
    have admissible := history.split rfl
    obtain ⟨checked, passed⟩ :=
      tracks.check_succeeds_iff.mpr ⟨admissible, named event mem_cons_self⟩
    have tracked := tracks.check_tracks before admissible passed
    have grouped : WellFormed ((events ++ [event]) ++ later) := by
      rwa [append_assoc, singleton_append]
    obtain ⟨state, read⟩ := ih tracked grouped (before.snoc admissible)
      fun other member => named other (mem_cons_of_mem _ member)
    refine ⟨state, ?_⟩
    rw [foldlM_cons, (replayRecord_writes first).mpr ⟨checked, passed, rfl⟩, ok_bind, read]

/-- The capacity check at the end of the replay asks for room for the pending terminal events. -/
theorem replayCapacity_ok (tracks : state.Tracks events) :
    replayCapacity codec records state = .ok done ↔
      HasRoom records (unsettledOf events).size := by
  have count : state.reservations.size - state.reservationTerminals.size =
      (unsettledOf events).size := by
    have counted := tracks.count
    omega
  have enough : state.reservationTerminals.size ≤ state.reservations.size := by
    have counted := tracks.count
    omega
  have recordBound : maxRecords = 4096 := rfl
  have recordBytes : maxRecordBytes = 65536 := rfl
  have totalBytes : maxTotalBytes = 16777216 := rfl
  simp only [replayCapacity, ok_iff, checkedAddU64_eq_some, checkedSubU64_eq_some, measureBytes_ok,
    total_within, HasRoom, checkedMulU64, Option.ite_none_right_eq_some, Option.some.injEq, count,
    enough, true_and, exists_eq_left]
  constructor
  · rintro ⟨_, ⟨-, rfl⟩, fits, _, ⟨-, rfl⟩, _, ⟨-, rfl⟩, within⟩
    exact ⟨Nat.not_lt.mp fits, within⟩
  · rintro ⟨fits, within⟩
    exact ⟨_, ⟨by omega, rfl⟩, Nat.not_lt.mpr fits, _, ⟨by omega, rfl⟩, _, ⟨by omega, rfl⟩, within⟩

/-- `replay_events` accepts the records of a list of events exactly when the list is a history,
every consumption names its run, and the journal has room for the pending terminal events; it then
returns the events. -/
theorem replayEvents_ok (written : List.Forall₂ Writes records events) :
    replayEvents codec records = .ok result ↔ WellFormed events ∧
      (∀ event ∈ events, ¬ anonymous event) ∧ HasRoom records (unsettledOf events).size ∧
      result = events := by
  rw [replayEvents, bind_ok]
  constructor
  · rintro ⟨state, read, capacity⟩
    obtain ⟨history, named, tracks⟩ := foldlM_replayRecord_tracks written ReplayState.Tracks.empty
      .nil (by simp) read
    rw [nil_append] at history named tracks
    rw [bind_ok] at capacity
    obtain ⟨done, room, same⟩ := capacity
    rw [pure_ok, tracks.events_eq] at same
    exact ⟨history, named, (replayCapacity_ok tracks).mp room, same.symm⟩
  · rintro ⟨history, named, room, rfl⟩
    obtain ⟨state, read⟩ := foldlM_replayRecord_succeeds written ReplayState.Tracks.empty
      (by rwa [nil_append]) .nil named
    obtain ⟨-, -, tracks⟩ := foldlM_replayRecord_tracks written ReplayState.Tracks.empty .nil
      (by simp) read
    rw [nil_append] at tracks
    refine ⟨state, read, ?_⟩
    rw [bind_ok]
    exact ⟨(), (replayCapacity_ok tracks).mpr room, by rw [pure_ok, tracks.events_eq]⟩

end Maco.RollingBudget
