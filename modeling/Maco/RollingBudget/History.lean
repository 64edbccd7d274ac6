import Maco.Base.Sequence
import Maco.RollingBudget.Ledger

/-!
# Well-formed budget histories

What the events of the rolling ledger have to satisfy, stated about the event list alone: an event
is admissible after the events before it when it is valid in itself, a reservation or completion
takes a fresh id, and a reconciliation settles a reservation that is still pending. In a
well-formed history the lookups of the ledger mean what their names say.
-/

namespace Maco.RollingBudget

open Maco.Base List
open WorkspaceBudgetLedger (reservationOf settles completes trackPending)

/-- An event reserves an id. -/
def reserves (reservationId : String) (event : BudgetLedgerEvent) : Prop :=
  ∃ version pricing entry, event = .reservation version pricing entry ∧
    entry.reservationId = reservationId

/-- A terminal event charges the reservation of its id as it was admitted: under the contract
frozen then, not before it, and for exactly its amounts when it was written by crash recovery. -/
structure Charges (pricing : Option ChargePricing) (entry : DurableBudgetReconciliation)
    (recoveredAfterProcessDeath : Bool) (reservedPricing : Option ChargePricing)
    (reservation : DurableBudgetReservation) : Prop where
  id : reservation.reservationId = entry.reservationId
  contract : reservedPricing.bind ChargePricing.contract = pricing.bind ChargePricing.contract
  later : reservation.unixSeconds ≤ entry.unixSeconds
  recovered : recoveredAfterProcessDeath = true → entry.pool = reservation.pool ∧
    entry.requests = reservation.requests ∧ entry.tokens = reservation.tokens ∧
    (entry.costUsd == reservation.costUsd) = true

/-- An event may follow the events before it. -/
def Admissible (events : List BudgetLedgerEvent) (event : BudgetLedgerEvent) : Prop :=
  match event with
  | .reservation version _ entry =>
    version = ledgerFormatVersion ∧ validateDurableReservation entry = .ok () ∧
      ∀ earlier ∈ events, ¬ reserves entry.reservationId earlier
  | .reservationReconciled version pricing entry recovered =>
    version = ledgerFormatVersion ∧ validateDurableReconciliation entry = .ok () ∧
      (∃ reservedVersion reservedPricing reservation,
        .reservation reservedVersion reservedPricing reservation ∈ events ∧
          Charges pricing entry recovered reservedPricing reservation) ∧
      ∀ earlier ∈ events, settles entry.reservationId earlier = false
  | .consume version _ _ costUsd _ =>
    version = ledgerFormatVersion ∧ costInvalid costUsd = false
  | .poolConsume version _ entry =>
    version = ledgerFormatVersion ∧ validateCompletedPoolConsumption entry = .ok () ∧
      ∀ earlier ∈ events, completes entry.completionId earlier = false
  | .rateLimited version pool _ unixSeconds untilUnixSeconds =>
    version = ledgerFormatVersion ∧ pool ≠ "" ∧ unixSeconds ≤ untilUnixSeconds

/-- A history each event of which is admissible after those before it. -/
inductive WellFormed : List BudgetLedgerEvent → Prop where
  | nil : WellFormed []
  | snoc {events event} (before : WellFormed events) (admissible : Admissible events event) :
      WellFormed (events ++ [event])

/-- A consumption recorded for no run: the ledger writes it, but does not read it back. -/
def anonymous (event : BudgetLedgerEvent) : Prop :=
  ∃ version tokens costUsd unixSeconds, event = .consume version "" tokens costUsd unixSeconds

/-- `anonymous`, decided. -/
instance (event : BudgetLedgerEvent) : Decidable (anonymous event) :=
  match event with
  | .consume version runId tokens costUsd unixSeconds =>
    if empty : runId = "" then isTrue ⟨version, tokens, costUsd, unixSeconds, by rw [empty]⟩
    else isFalse fun ⟨_, _, _, _, same⟩ => empty (by injection same)
  | .reservation .. => isFalse fun ⟨_, _, _, _, same⟩ => nomatch same
  | .reservationReconciled .. => isFalse fun ⟨_, _, _, _, same⟩ => nomatch same
  | .poolConsume .. => isFalse fun ⟨_, _, _, _, same⟩ => nomatch same
  | .rateLimited .. => isFalse fun ⟨_, _, _, _, same⟩ => nomatch same

variable {event : BudgetLedgerEvent} {id : String}

/-- An id settled by no event of a list and by no further one is settled by none of both. -/
theorem not_settles_append {events : List BudgetLedgerEvent}
    : (∀ earlier ∈ events ++ [event], settles id earlier = false) ↔
      (∀ earlier ∈ events, settles id earlier = false) ∧ settles id event = false := by
  simp only [mem_append, mem_singleton, or_imp, forall_and, forall_eq]

/-- The reservations pending after a list of events. -/
def unsettledOf (events : List BudgetLedgerEvent) : BTreeMap String DurableBudgetReservation :=
  events.foldl trackPending ∅

/-- How many reservations are pending after one more event. -/
def pendingAfter (pending : ℕ) : BudgetLedgerEvent → ℕ
  | .reservation .. => pending + 1
  | .reservationReconciled .. => pending - 1
  | .consume .. | .poolConsume .. | .rateLimited .. => pending

theorem unsettledOf_append (events : List BudgetLedgerEvent) (event : BudgetLedgerEvent) :
    unsettledOf (events ++ [event]) = trackPending (unsettledOf events) event := by
  rw [unsettledOf, foldl_append]
  rfl

namespace WellFormed

variable {events : List BudgetLedgerEvent}

section

variable (history : WellFormed events)

include history

/-- Wherever a history is split, the next event is admissible. -/
theorem split {before after : List BudgetLedgerEvent} (parts : events = before ++ event :: after) :
    Admissible before event := by
  induction history generalizing after with
  | nil => simp at parts
  | @snoc events last history admissible ih =>
    rcases append_singleton_split parts with ⟨-, same, here⟩ | ⟨rest, -, earlier⟩
    · rw [here, same]
      exact admissible
    · exact ih earlier

variable {version : ℕ} {pricing : Option ChargePricing} {entry : DurableBudgetReservation}

/-- No two reservations of a history have the same id. -/
theorem reservation_unique (first : .reservation version pricing entry ∈ events)
    (second : .reservation version' pricing' entry' ∈ events)
    (same : entry.reservationId = entry'.reservationId) : pricing = pricing' ∧ entry = entry' := by
  induction history with
  | nil => cases first
  | @snoc events last before admissible ih =>
    have fresh : ∀ {v p r}, last = .reservation v p r → ∀ {v' p' r'},
        .reservation v' p' r' ∈ events → r'.reservationId ≠ r.reservationId := by
      intro v p r isLast v' p' r' earlier sameId
      rw [isLast] at admissible
      exact admissible.2.2 _ earlier ⟨v', p', r', rfl, sameId⟩
    rcases mem_append.mp first with earlier | here
    · rcases mem_append.mp second with earlier' | here'
      · exact ih earlier earlier'
      · exact absurd same (fresh (mem_singleton.mp here').symm earlier)
    · rcases mem_append.mp second with earlier' | here'
      · exact absurd same.symm (fresh (mem_singleton.mp here).symm earlier')
      · have equal := (mem_singleton.mp here).trans (mem_singleton.mp here').symm
        injection equal with _ p r
        exact ⟨p, r⟩

/-- A settled id was reserved before. -/
theorem reserved_of_settled (listed : event ∈ events) (settled : settles id event = true) :
    ∃ version pricing entry, .reservation version pricing entry ∈ events ∧
      entry.reservationId = id := by
  obtain ⟨before, after, parts⟩ := append_of_mem listed
  have admissible := history.split parts
  cases event with
  | reservationReconciled version pricing entry recovered =>
    have same : entry.reservationId = id := by simpa [settles] using settled
    obtain ⟨-, -, ⟨reservedVersion, reservedPricing, reservation, reserved, charges⟩, -⟩ :=
      admissible
    refine ⟨reservedVersion, reservedPricing, reservation, ?_, charges.id.trans same⟩
    rw [parts]
    exact mem_append_left _ reserved
  | _ => cases settled

theorem reservation_valid (listed : .reservation version pricing entry ∈ events) :
    validateDurableReservation entry = .ok () := by
  obtain ⟨before, after, parts⟩ := append_of_mem listed
  exact (history.split parts).2.1

/-- The pending reservations are those reserved and not settled. -/
theorem unsettledOf_get (id : String) (entry : DurableBudgetReservation) :
    (unsettledOf events)[id]? = some entry ↔
      (∃ version pricing, .reservation version pricing entry ∈ events ∧
        entry.reservationId = id) ∧ ∀ event ∈ events, settles id event = false := by
  induction history with
  | nil => simp [unsettledOf]
  | @snoc events last before admissible ih =>
    rw [unsettledOf_append, not_settles_append]
    cases last with
    | reservation version pricing added =>
      have open_ : ∀ event ∈ events, settles added.reservationId event = false := by
        intro event listed
        by_contra settled
        obtain ⟨v, p, r, reserved, sameId⟩ :=
          before.reserved_of_settled listed (Bool.not_eq_false _ ▸ settled)
        exact admissible.2.2 _ reserved ⟨v, p, r, rfl, sameId⟩
      rw [trackPending, BTreeMap.get_insert]
      by_cases here : added.reservationId = id
      · subst here
        rw [if_pos rfl, Option.some.injEq]
        constructor
        · rintro rfl
          exact ⟨⟨version, pricing, by simp, rfl⟩, open_, rfl⟩
        · rintro ⟨⟨v, p, listed, sameId⟩, -⟩
          rcases mem_append.mp listed with earlier | last
          · exact absurd ⟨v, p, entry, rfl, sameId⟩ (admissible.2.2 _ earlier)
          · have equal := mem_singleton.mp last
            injection equal with _ _ same
            exact same.symm
      · rw [if_neg here, ih]
        simp only [mem_append, mem_singleton, BudgetLedgerEvent.reservation.injEq, settles,
          and_true]
        constructor
        · rintro ⟨⟨v, p, listed, sameId⟩, clear⟩
          exact ⟨⟨v, p, .inl listed, sameId⟩, clear⟩
        · rintro ⟨⟨v, p, listed | ⟨-, -, same⟩, sameId⟩, clear⟩
          · exact ⟨⟨v, p, listed, sameId⟩, clear⟩
          · exact absurd (same ▸ sameId) here
    | reservationReconciled version pricing charge recovered =>
      rw [trackPending, BTreeMap.get_erase]
      by_cases here : charge.reservationId = id
      · subst here
        simp [settles]
      · rw [if_neg here, ih]
        simp [settles, here]
    | consume | poolConsume | rateLimited => simpa [trackPending, settles] using ih

/-- A pending reservation counts once: it goes when it is settled. -/
theorem unsettledOf_size (admissible : Admissible events event) :
    (unsettledOf (events ++ [event])).size = pendingAfter (unsettledOf events).size event := by
  rw [unsettledOf_append]
  cases event with
  | reservation version pricing entry =>
    have fresh : (unsettledOf events)[entry.reservationId]? = none := by
      by_contra pending
      obtain ⟨held, found⟩ := Option.ne_none_iff_exists'.mp pending
      obtain ⟨⟨v, p, listed, sameId⟩, -⟩ := (history.unsettledOf_get _ _).mp found
      exact admissible.2.2 _ listed ⟨v, p, held, rfl, sameId⟩
    exact BTreeMap.size_insert fresh entry
  | reservationReconciled version pricing entry recovered =>
    obtain ⟨-, -, ⟨v, p, reservation, reserved, charges⟩, unsettled⟩ := admissible
    have pending : (unsettledOf events)[entry.reservationId]? = some reservation :=
      (history.unsettledOf_get _ _).mpr ⟨⟨v, p, reserved, charges.id⟩, unsettled⟩
    exact BTreeMap.size_erase pending
  | consume | poolConsume | rateLimited => rfl

end

end WellFormed

variable {codec : Codec}

namespace WorkspaceBudgetLedger

variable {ledger : WorkspaceBudgetLedger codec}

/-- A reservation found by id is one of the recorded ones. -/
theorem reservation_eq_some {entry : DurableBudgetReservation}
    (found : ledger.reservation id = some entry) :
    ∃ version pricing, .reservation version pricing entry ∈ ledger.events ∧
      entry.reservationId = id := by
  obtain ⟨event, listed, read⟩ := exists_of_findSome?_eq_some found
  cases event with
  | reservation version pricing held =>
    simp only [reservationOf, Option.filter_some, beq_iff_eq, Option.ite_none_right_eq_some,
      Option.some.injEq] at read
    rw [← read.2]
    exact ⟨version, pricing, listed, read.1⟩
  | _ => cases read

/-- No reservation is found by an id exactly when none was recorded under it. -/
theorem reservation_eq_none : ledger.reservation id = none ↔
    ∀ event ∈ ledger.events, ¬ reserves id event := by
  rw [reservation, findSome?_eq_none_iff]
  refine forall₂_congr fun event _ => ?_
  cases event with
  | reservation version pricing held => simp [reservationOf, reserves, Option.filter_some]
  | _ => simp [reservationOf, reserves]

/-- A settled reservation is one with a terminal event. -/
theorem reservationTerminal_eq_none : ledger.reservationTerminal id = none ↔
    ∀ event ∈ ledger.events, settles id event = false := by
  simp [reservationTerminal]

variable {pricing : Option ChargePricing}

/-- The pricing found for a reservation is the one it was recorded with. -/
theorem reservationPricing_eq (history : WellFormed ledger.events) {version : ℕ}
    {entry : DurableBudgetReservation}
    (listed : .reservation version pricing entry ∈ ledger.events) :
    ledger.reservationPricing entry.reservationId = pricing := by
  have only : ∀ event ∈ ledger.events, ∀ found,
      pricingOf entry.reservationId event = some found → pricing = some found := by
    intro event member found read
    cases event with
    | reservation version' pricing' held =>
      simp only [pricingOf, Option.ite_none_right_eq_some] at read
      rw [(history.reservation_unique listed member read.1.symm).1]
      exact read.2
    | _ => cases read
  cases pricing with
  | none =>
    rw [reservationPricing, findSome?_eq_none_iff]
    intro event member
    by_contra some_
    obtain ⟨found, read⟩ := Option.ne_none_iff_exists'.mp some_
    cases only event member found read
  | some charge =>
    have present : (ledger.reservationPricing entry.reservationId).isSome = true := by
      rw [reservationPricing, findSome?_isSome_iff]
      exact ⟨_, listed, by simp [pricingOf]⟩
    obtain ⟨found, read⟩ := Option.isSome_iff_exists.mp present
    obtain ⟨event, member, here⟩ := exists_of_findSome?_eq_some read
    rw [read, only event member found here]

variable {reservation : DurableBudgetReservation}

/-- A reservation is appended when it is valid and its id is new, with room for its terminal. -/
theorem prepareReservation_some
    (prepared : ledger.prepareReservation reservation pricing = .ok (some event)) :
    validateDurableReservation reservation = .ok () ∧
      ledger.reservation reservation.reservationId = none ∧
      HasRoom ledger.records ((unsettledOf ledger.events).size + 1 + 1) ∧
      event = .reservation ledgerFormatVersion pricing reservation := by
  rw [prepareReservation, bind_ok] at prepared
  obtain ⟨⟨⟩, valid, chosen⟩ := prepared
  cases found : ledger.reservation reservation.reservationId with
  | some existing =>
    simp only [found] at chosen
    split at chosen <;> cases chosen
  | none =>
    simp only [found, ok_iff, checkedAddU64_eq_some, ensureAppendCapacity_ok,
      Option.some.injEq] at chosen
    obtain ⟨_, ⟨-, rfl⟩, room, rfl⟩ := chosen
    exact ⟨valid, rfl, room, rfl⟩

variable {reconciliation : DurableBudgetReconciliation} {recovered : Bool}

/-- A reconciliation is appended exactly when it is valid, settles a pending reservation under its
frozen contract, and has room. -/
theorem prepareReconciliation_some :
    ledger.prepareReconciliation reconciliation recovered pricing = .ok (some event) ↔
      validateDurableReconciliation reconciliation = .ok () ∧
      ∃ reservation, ledger.reservation reconciliation.reservationId = some reservation ∧
        (ledger.reservationPricing reconciliation.reservationId).bind ChargePricing.contract =
          pricing.bind ChargePricing.contract ∧
        ledger.reservationTerminal reconciliation.reservationId = none ∧
        1 ≤ (unsettledOf ledger.events).size ∧
        HasRoom ledger.records ((unsettledOf ledger.events).size - 1 + 1) ∧
        event = .reservationReconciled ledgerFormatVersion pricing
          { reconciliation with
            unixSeconds := max reconciliation.unixSeconds reservation.unixSeconds } recovered := by
  simp only [prepareReconciliation, ok_iff, not_not]
  constructor
  · rintro ⟨⟨⟩, valid, reservation, found, contract, chosen⟩
    refine ⟨valid, reservation, found, contract, ?_⟩
    cases terminal : ledger.reservationTerminal reconciliation.reservationId with
    | some settled =>
      simp only [terminal] at chosen
      split at chosen <;> cases chosen
    | none =>
      simp only [terminal, ok_iff, checkedSubU64_eq_some, ensureAppendCapacity_ok,
        Option.some.injEq] at chosen
      obtain ⟨_, ⟨enough, rfl⟩, room, rfl⟩ := chosen
      exact ⟨rfl, enough, room, rfl⟩
  · rintro ⟨valid, reservation, found, contract, terminal, enough, room, rfl⟩
    refine ⟨(), valid, reservation, found, contract, ?_⟩
    simp only [terminal, ok_iff, checkedSubU64_eq_some, ensureAppendCapacity_ok]
    exact ⟨_, ⟨enough, rfl⟩, room, trivial⟩

variable {nowUnixSeconds : ℕ}

/-- A consumption is appended when it counts something and its cost is valid, with room. -/
theorem prepareConsumption_some
    (prepared : ledger.prepareConsumption runId tokens costUsd nowUnixSeconds =
      .ok (some event)) :
    ¬ (tokens = 0 ∧ costUsd = none) ∧ costInvalid costUsd = false ∧
      HasRoom ledger.records ((unsettledOf ledger.events).size + 1) ∧
      event = .consume ledgerFormatVersion runId tokens costUsd nowUnixSeconds := by
  rw [prepareConsumption] at prepared
  split at prepared
  · cases prepared
  · rename_i counted
    simp only [ok_iff, Bool.not_eq_true, ensureAppendCapacity_ok, Option.some.injEq] at prepared
    obtain ⟨cost, room, rfl⟩ := prepared
    exact ⟨counted, cost, room, rfl⟩

/-- A completion is appended when it is valid and its id is new, with room. -/
theorem preparePoolConsumption_some
    (prepared : ledger.preparePoolConsumption completion pricing = .ok (some event)) :
    validateCompletedPoolConsumption completion = .ok () ∧
      (∀ earlier ∈ ledger.events, completes completion.completionId earlier = false) ∧
      HasRoom ledger.records ((unsettledOf ledger.events).size + 1) ∧
      event = .poolConsume ledgerFormatVersion pricing completion := by
  rw [preparePoolConsumption, bind_ok] at prepared
  obtain ⟨⟨⟩, valid, chosen⟩ := prepared
  cases found : ledger.events.find? (completes completion.completionId) with
  | some held =>
    simp only [found] at chosen
    split at chosen <;> cases chosen
  | none =>
    simp only [found, ok_iff, ensureAppendCapacity_ok, Option.some.injEq] at chosen
    obtain ⟨room, rfl⟩ := chosen
    exact ⟨valid, by simpa using found, room, rfl⟩

/-- A rate-limit latch is appended when it names a pool and ends in range, with room. -/
theorem prepareRateLimit_some
    (prepared : ledger.prepareRateLimit pool detail windowSeconds nowUnixSeconds =
      .ok (some event)) :
    pool ≠ "" ∧ HasRoom ledger.records ((unsettledOf ledger.events).size + 1) ∧
      event = .rateLimited ledgerFormatVersion pool detail nowUnixSeconds
        (nowUnixSeconds + windowSeconds) := by
  simp only [prepareRateLimit, ok_iff, checkedAddU64_eq_some, ensureAppendCapacity_ok,
    Option.some.injEq] at prepared
  obtain ⟨-, named, _, ⟨-, rfl⟩, room, rfl⟩ := prepared
  exact ⟨named, room, rfl⟩

/-- What a call decides to append may follow the events before it, has a cost that can be written,
and leaves room for the terminal events of the reservations pending after it. -/
structure Prepared (ledger : WorkspaceBudgetLedger codec) (event : BudgetLedgerEvent) : Prop where
  admissible : Admissible ledger.events event
  cost : costInvalid event.costUsd = false
  room : HasRoom ledger.records (pendingAfter (unsettledOf ledger.events).size event + 1)

section

variable (history : WellFormed ledger.events)

include history

/-- A reconciliation that is appended is prepared; one that crash recovery appends has to charge
exactly what was reserved. -/
theorem prepareReconciliation_prepared
    (conservative : ∀ reservation, ledger.reservation reconciliation.reservationId =
      some reservation → recovered = true → reconciliation.pool = reservation.pool ∧
        reconciliation.requests = reservation.requests ∧
        reconciliation.tokens = reservation.tokens ∧
        (reconciliation.costUsd == reservation.costUsd) = true)
    (prepared : ledger.prepareReconciliation reconciliation recovered pricing =
      .ok (some event)) : ledger.Prepared event := by
  obtain ⟨valid, reservation, found, contract, terminal, -, room, rfl⟩ :=
    prepareReconciliation_some.mp prepared
  obtain ⟨version, reservedPricing, listed, sameId⟩ := reservation_eq_some found
  have frozen := reservationPricing_eq history listed
  rw [sameId] at frozen
  refine ⟨⟨rfl, valid, ⟨version, reservedPricing, reservation, listed, ?_⟩,
    reservationTerminal_eq_none.mp terminal⟩, validateDurableReconciliation_cost valid, room⟩
  exact ⟨sameId, frozen ▸ contract, le_max_right _ _, conservative reservation found⟩

/-- What crash recovery appends for a recorded reservation is prepared. -/
theorem prepareRecovery_prepared {recoveredAt version : ℕ}
    (listed : .reservation version pricing reservation ∈ ledger.events)
    (prepared : ledger.prepareRecovery recoveredAt reservation = .ok (some event)) :
    ledger.Prepared event := by
  refine prepareReconciliation_prepared history (fun found lookup _ => ?_) prepared
  obtain ⟨version', pricing', listed', sameId⟩ := reservation_eq_some lookup
  have same : found = reservation := (history.reservation_unique listed' listed sameId).2
  have cost := validateDurableReservation_cost (history.reservation_valid listed)
  rw [same]
  exact ⟨rfl, rfl, rfl, cost_beq_self cost⟩

/-- What any call appends is prepared. -/
theorem prepare_prepared
    (prepared : ledger.prepare request = .ok (some event)) : ledger.Prepared event := by
  cases request with
  | recordReservation reservation pricing =>
    obtain ⟨valid, fresh, room, rfl⟩ := prepareReservation_some prepared
    exact ⟨⟨rfl, valid, reservation_eq_none.mp fresh⟩, validateDurableReservation_cost valid, room⟩
  | reconcileReservation reconciliation pricing =>
    refine prepareReconciliation_prepared history ?_ prepared
    intro reservation found recovered
    cases recovered
  | recordConsumption runId tokens costUsd nowUnixSeconds =>
    obtain ⟨-, cost, room, rfl⟩ := prepareConsumption_some prepared
    exact ⟨⟨rfl, cost⟩, cost, room⟩
  | recordCompletedPoolConsumption completion pricing =>
    obtain ⟨valid, fresh, room, rfl⟩ := preparePoolConsumption_some prepared
    exact ⟨⟨rfl, valid, fresh⟩, validateCompletedPoolConsumption_cost valid, room⟩
  | recordRateLimited pool detail windowSeconds nowUnixSeconds =>
    obtain ⟨named, room, rfl⟩ := prepareRateLimit_some prepared
    exact ⟨⟨rfl, named, Nat.le_add_right _ _⟩, rfl, room⟩

end

end WorkspaceBudgetLedger

end Maco.RollingBudget
