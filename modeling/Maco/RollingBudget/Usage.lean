import Maco.RollingBudget.History

/-!
# Aggregate usage of the rolling budget

`usage_in_window` adds up what the events of a window consumed: a reservation counts with its
reserved tokens until a terminal event replaces them. Over a window that covers every event of a
well-formed history the sum is the direct consumption plus one charge for each reservation id.
-/

namespace Maco.RollingBudget

open Maco.Base List
open WorkspaceBudgetLedger (reservationOf settles)

/-- `checked_cost_add` of the rolling ledger. -/
def rollingCostAdd (left right : Float) : Except String Float :=
  let total := left + right
  if total.isFinite then .ok total else .error "rolling cost consumption overflowed"

/-- The totals of `usage_in_window_excluding`. -/
structure UsageTotals where
  tokens : ℕ
  costUsd : Float
  costComplete : Bool
  rateLimitedPools : List String

structure RollingBudgetUsage where
  tokens : ℕ
  costUsd : Option Float
  rateLimitedPools : List String

/-- Add the tokens and the cost of one event; tokens without a cost leave the cost unknown. -/
def UsageTotals.add (totals : UsageTotals) (tokens : ℕ) (costUsd : Option Float)
    (refusal : String) : Except String UsageTotals := do
  let sum ← require (checkedAddU64 totals.tokens tokens) refusal
  match costUsd with
  | some cost => do
    let total ← rollingCostAdd totals.costUsd cost
    pure { totals with tokens := sum, costUsd := total }
  | none => pure { totals with
      tokens := sum
      costComplete := totals.costComplete && decide (tokens = 0) }

/-- The ids with a terminal event. -/
def terminalReservations (events : List BudgetLedgerEvent) : BTreeSet String :=
  BTreeSet.ofList (events.filterMap fun event =>
    match event with
    | .reservationReconciled _ _ entry _ => some entry.reservationId
    | _ => none)

/-- One event of `usage_in_window_excluding`. -/
def UsageTotals.count (terminals excluded : BTreeSet String) (start nowUnixSeconds : ℕ)
    (totals : UsageTotals) (event : BudgetLedgerEvent) : Except String UsageTotals :=
  if event.unixSeconds < start then .ok totals
  else
    match event with
    | .reservation _ _ entry =>
      if terminals.contains entry.reservationId = false ∧
          excluded.contains entry.reservationId = false then
        totals.add entry.tokens entry.costUsd "rolling reserved token consumption overflowed"
      else .ok totals
    | .reservationReconciled _ _ entry _ =>
      totals.add entry.tokens entry.costUsd "rolling reconciled token consumption overflowed"
    | .consume _ _ tokens costUsd _ =>
      totals.add tokens costUsd "rolling token consumption overflowed"
    | .poolConsume _ _ entry =>
      totals.add entry.tokens entry.costUsd "rolling token consumption overflowed"
    | .rateLimited _ pool _ _ untilUnixSeconds =>
      if nowUnixSeconds < untilUnixSeconds ∧ pool ∉ totals.rateLimitedPools then
        .ok { totals with rateLimitedPools := totals.rateLimitedPools ++ [pool] }
      else .ok totals

variable {codec : Codec} (ledger : WorkspaceBudgetLedger codec)

/-- `usage_in_window_excluding`. -/
def WorkspaceBudgetLedger.usageInWindowExcluding (windowSeconds nowUnixSeconds : ℕ)
    (excluded : BTreeSet String) : Except String RollingBudgetUsage := do
  refuseIf (windowSeconds = 0) "rolling budget window must be greater than zero seconds"
  let totals ← ledger.events.foldlM
    (UsageTotals.count (terminalReservations ledger.events) excluded
      (nowUnixSeconds - windowSeconds) nowUnixSeconds) ⟨0, 0.0, true, []⟩
  pure { tokens := totals.tokens
         costUsd := if totals.costComplete then some totals.costUsd else none
         rateLimitedPools := totals.rateLimitedPools }

/-- `usage_in_window`. -/
def WorkspaceBudgetLedger.usageInWindow (windowSeconds nowUnixSeconds : ℕ) :
    Except String RollingBudgetUsage :=
  ledger.usageInWindowExcluding windowSeconds nowUnixSeconds ∅

structure RateLimitLatch where
  pool : String
  detail : String
  untilUnixSeconds : ℕ
deriving DecidableEq, Repr

/-- `any_active_rate_limit`: the latest latch that has not expired. -/
def WorkspaceBudgetLedger.anyActiveRateLimit (nowUnixSeconds : ℕ) : Option RateLimitLatch :=
  ledger.events.reverse.findSome? fun event =>
    match event with
    | .rateLimited _ pool detail _ untilUnixSeconds =>
      if nowUnixSeconds < untilUnixSeconds then some ⟨pool, detail, untilUnixSeconds⟩ else none
    | _ => none

/-- `rolling_cost_exceeds`. -/
def rollingCostExceeds (value limit : Float) : Bool :=
  decide (f64Epsilon * f64Max value.abs limit.abs * 8.0 < value - limit)

structure RollingBudgetQuota where
  maxTokens : Option ℕ
  maxCostUsd : Option Float
  windowSeconds : ℕ
deriving DecidableEq, Repr

/-- The tokens an event consumes apart from any reservation. -/
def directTokens : BudgetLedgerEvent → ℕ
  | .consume _ _ tokens _ _ => tokens
  | .poolConsume _ _ entry => entry.tokens
  | .reservation .. | .reservationReconciled .. | .rateLimited .. => 0

/-- The tokens a terminal event charges. -/
def terminalTokens : BudgetLedgerEvent → ℕ
  | .reservationReconciled _ _ entry _ => entry.tokens
  | .reservation .. | .consume .. | .poolConsume .. | .rateLimited .. => 0

/-- The charge of a reservation: its terminal tokens if it is settled, else its reserved tokens. -/
def chargedTokens (events : List BudgetLedgerEvent) (entry : DurableBudgetReservation) : ℕ :=
  match events.find? (settles entry.reservationId) with
  | some terminal => terminalTokens terminal
  | none => entry.tokens

/-- What a list of events consumed: directly, and one charge for every reservation. -/
def aggregateTokens (events : List BudgetLedgerEvent) : ℕ :=
  (events.map directTokens).sum + ((events.filterMap reservationOf).map (chargedTokens events)).sum

/-- The texts with which the sum of a window is refused: a total out of range. -/
def usageOverflows : List String :=
  ["rolling reserved token consumption overflowed",
    "rolling reconciled token consumption overflowed",
    "rolling token consumption overflowed", "rolling cost consumption overflowed"]

variable {events : List BudgetLedgerEvent} {id : String}

/-- The ids with a terminal event are those some event settles. -/
theorem terminalReservations_contains :
    (terminalReservations events).contains id = true ↔
      ∃ event ∈ events, settles id event = true := by
  rw [← Std.ExtTreeSet.mem_iff_contains, terminalReservations, BTreeSet.mem_ofList, mem_filterMap]
  refine exists_congr fun event => and_congr_right fun _ => ?_
  cases event <;> simp [settles]

variable {totals : UsageTotals} {refusal : String}

variable {next : UsageTotals} {tokens : ℕ} {costUsd : Option Float}

/-- Adding an event adds its tokens and lists no pool. -/
theorem UsageTotals.add_ok (added : totals.add tokens costUsd refusal = .ok next) :
    next.tokens = totals.tokens + tokens ∧ next.rateLimitedPools = totals.rateLimitedPools := by
  simp only [add, ok_iff, checkedAddU64_eq_some] at added
  obtain ⟨sum, ⟨-, rfl⟩, rest⟩ := added
  cases costUsd with
  | none =>
    rw [pure_ok] at rest
    exact ⟨by rw [← rest], by rw [← rest]⟩
  | some cost =>
    simp only [ok_iff] at rest
    obtain ⟨total, -, rfl⟩ := rest
    exact ⟨rfl, rfl⟩

/-- Adding an event is refused only when a total goes out of range. -/
theorem UsageTotals.add_refusal (listed : text ∈ usageOverflows)
    (refused : totals.add tokens costUsd text = .error refusal) : refusal ∈ usageOverflows := by
  rw [add] at refused
  cases fits : checkedAddU64 totals.tokens tokens with
  | none =>
    rw [fits] at refused
    injection refused with same
    exact same ▸ listed
  | some sum =>
    rw [fits] at refused
    cases costUsd with
    | none => cases refused
    | some cost =>
      simp only [require, ok_bind, rollingCostAdd] at refused
      split at refused
      · cases refused
      · injection refused with same
        rw [← same]
        decide

/-- The tokens an event counts with, when the ids in `terminals` are settled. -/
def countedTokens (terminals : BTreeSet String) (event : BudgetLedgerEvent) : ℕ :=
  directTokens event + terminalTokens event +
    match event with
    | .reservation _ _ entry =>
      if terminals.contains entry.reservationId = true then 0 else entry.tokens
    | _ => 0

variable {terminals : BTreeSet String} {start now : ℕ} {event : BudgetLedgerEvent}

/-- In a window that covers it, an event adds the tokens it counts with. -/
theorem UsageTotals.count_tokens (covered : start ≤ event.unixSeconds)
    (counted : totals.count terminals ∅ start now event = .ok next) :
    next.tokens = totals.tokens + countedTokens terminals event := by
  unfold count at counted
  rw [if_neg (Nat.not_lt.mpr covered)] at counted
  cases event with
  | reservation version pricing entry =>
    by_cases settled : terminals.contains entry.reservationId = true
    · simp only [settled, reduceCtorEq, false_and, ↓reduceIte, Except.ok.injEq] at counted
      simp [countedTokens, directTokens, terminalTokens, settled, ← counted]
    · simp only [Bool.not_eq_true] at settled
      have added : totals.add entry.tokens entry.costUsd
          "rolling reserved token consumption overflowed" = .ok next := by
        simpa [settled] using counted
      simpa [countedTokens, directTokens, terminalTokens, settled] using (add_ok added).1
  | reservationReconciled version pricing entry recovered =>
    simpa [countedTokens, directTokens, terminalTokens] using (add_ok counted).1
  | consume version runId tokens costUsd unixSeconds =>
    simpa [countedTokens, directTokens, terminalTokens] using (add_ok counted).1
  | poolConsume version pricing entry =>
    simpa [countedTokens, directTokens, terminalTokens] using (add_ok counted).1
  | rateLimited version pool detail unixSeconds untilUnixSeconds =>
    dsimp only at counted
    split at counted <;>
      · injection counted with same
        simp [countedTokens, directTokens, terminalTokens, ← same]

/-- Counting an event is refused only when a total goes out of range. -/
theorem UsageTotals.count_refusal
    (refused : totals.count terminals ∅ start now event = .error refusal) :
    refusal ∈ usageOverflows := by
  unfold count at refused
  split at refused
  · cases refused
  · cases event with
    | reservation version pricing entry =>
      dsimp only at refused
      split at refused
      · exact add_refusal (by decide) refused
      · cases refused
    | reservationReconciled | consume | poolConsume => exact add_refusal (by decide) refused
    | rateLimited version pool detail unixSeconds untilUnixSeconds =>
      dsimp only at refused
      split at refused <;> cases refused

/-- Over a window that covers every event, counting adds up what the events count with. -/
theorem foldlM_count_tokens (covered : ∀ event ∈ events, start ≤ event.unixSeconds)
    (counted : events.foldlM (UsageTotals.count terminals ∅ start now) totals = .ok result) :
    result.tokens = totals.tokens + (events.map (countedTokens terminals)).sum := by
  induction events generalizing totals with
  | nil =>
    rw [foldlM_nil, pure_ok] at counted
    simp [counted]
  | cons event events ih =>
    rw [foldlM_cons, bind_ok] at counted
    obtain ⟨next, first, rest⟩ := counted
    rw [ih (fun later member => covered later (mem_cons_of_mem _ member)) rest,
      UsageTotals.count_tokens (covered event mem_cons_self) first, map_cons,
      sum_cons, Nat.add_assoc]

/-- Counting a window is refused only when a total goes out of range. -/
theorem foldlM_count_refusal
    (refused : events.foldlM (UsageTotals.count terminals ∅ start now) totals = .error refusal) :
    refusal ∈ usageOverflows := by
  induction events generalizing totals with
  | nil => cases refused
  | cons event events ih =>
    rw [foldlM_cons] at refused
    cases first : totals.count terminals ∅ start now event with
    | error text =>
      rw [first, error_bind] at refused
      exact UsageTotals.count_refusal (first.trans refused)
    | ok next =>
      rw [first, ok_bind] at refused
      exact ih refused

/-- What the events count with, apart by what they are. -/
theorem sum_countedTokens (terminals : BTreeSet String) (events : List BudgetLedgerEvent) :
    (events.map (countedTokens terminals)).sum = (events.map directTokens).sum +
      ((events.map terminalTokens).sum + ((events.filterMap reservationOf).map fun entry =>
        if terminals.contains entry.reservationId = true then 0 else entry.tokens).sum) := by
  induction events with
  | nil => rfl
  | cons event events ih =>
    rw [map_cons, sum_cons, ih, map_cons, sum_cons, map_cons, sum_cons, filterMap_cons]
    cases event <;> simp only [countedTokens, reservationOf, map_cons, sum_cons] <;> omega

/-- Changing a weight at one item of a list without repetitions changes the sum by as much. -/
theorem sum_map_change {α : Type} (before after : α → ℕ) {items : List α}
    (distinct : items.Nodup) {item : α} (member : item ∈ items)
    (elsewhere : ∀ other ∈ items, other ≠ item → after other = before other) :
    (items.map after).sum + before item = (items.map before).sum + after item := by
  induction items with
  | nil => cases member
  | cons first rest ih =>
    rw [nodup_cons] at distinct
    simp only [map_cons, sum_cons]
    by_cases here : item = first
    · subst here
      have same : rest.map after = rest.map before := by
        apply map_congr_left
        intro other listed
        exact elsewhere other (mem_cons_of_mem _ listed)
          fun equal => distinct.1 (equal ▸ listed)
      rw [same]
      omega
    · have listed : item ∈ rest := (mem_cons.mp member).resolve_left here
      have tail := ih distinct.2 listed
        fun other inRest => elsewhere other (mem_cons_of_mem _ inRest)
      have head := elsewhere first mem_cons_self (Ne.symm here)
      omega

/-- The reservations of a history are listed once. -/
theorem WellFormed.nodup_reservations (history : WellFormed events) :
    ((events.filterMap reservationOf).map DurableBudgetReservation.reservationId).Nodup := by
  induction history with
  | nil => exact nodup_nil
  | @snoc events event before admissible ih =>
    rw [filterMap_append, map_append]
    cases event with
    | reservation version pricing entry =>
      have last : [BudgetLedgerEvent.reservation version pricing entry].filterMap reservationOf =
          [entry] := rfl
      rw [last, map_singleton, ← concat_eq_append, nodup_concat]
      refine ⟨?_, ih⟩
      intro listed
      obtain ⟨held, member, sameId⟩ := mem_map.mp listed
      obtain ⟨event, inEvents, read⟩ := mem_filterMap.mp member
      cases event with
      | reservation v p held' =>
        rw [reservationOf, Option.some.injEq] at read
        exact admissible.2.2 _ inEvents ⟨v, p, held', rfl, read ▸ sameId⟩
      | _ => cases read
    | _ => exact (append_nil _).symm ▸ ih

/-- Whether an id is settled does not depend on events that settle nothing. -/
theorem find?_settles_append (other : settles id event = false) :
    (events ++ [event]).find? (settles id) = events.find? (settles id) := by
  rw [find?_append]
  simp [other]

/-- An id is counted as settled exactly when a terminal event is found for it. -/
theorem terminalReservations_contains_false :
    (terminalReservations events).contains id = false ↔ events.find? (settles id) = none := by
  rw [← Bool.not_eq_true, terminalReservations_contains, find?_eq_none]
  simp

/-- The reserved tokens of a reservation that is still pending. -/
def openTokens (events : List BudgetLedgerEvent) (entry : DurableBudgetReservation) : ℕ :=
  if (terminalReservations events).contains entry.reservationId = true then 0 else entry.tokens

variable {entry : DurableBudgetReservation}

/-- A reservation no event settles is open and charged with its reserved tokens. -/
theorem tokens_of_unsettled (unsettled : events.find? (settles entry.reservationId) = none) :
    openTokens events entry = entry.tokens ∧ chargedTokens events entry = entry.tokens := by
  have absent := terminalReservations_contains_false.mpr unsettled
  exact ⟨by simp [openTokens, absent], by simp [chargedTokens, unsettled]⟩

/-- An event that does not settle a reservation does not change what it counts with. -/
theorem tokens_append (other : settles entry.reservationId event = false) :
    openTokens (events ++ [event]) entry = openTokens events entry ∧
      chargedTokens (events ++ [event]) entry = chargedTokens events entry := by
  have same : (events ++ [event]).find? (settles entry.reservationId) =
      events.find? (settles entry.reservationId) := find?_settles_append other
  refine ⟨?_, by rw [chargedTokens, same, chargedTokens]⟩
  have unchanged : (terminalReservations (events ++ [event])).contains entry.reservationId =
      (terminalReservations events).contains entry.reservationId := by
    rw [Bool.eq_iff_iff, terminalReservations_contains, terminalReservations_contains]
    simp [or_and_right, exists_or, other]
  rw [openTokens, unchanged, openTokens]

/-- Settling a reservation replaces its reserved tokens by those of the terminal event. -/
theorem sum_settling {reservations : List DurableBudgetReservation} (distinct : reservations.Nodup)
    {reservation : DurableBudgetReservation} (listed : reservation ∈ reservations)
    (unsettled : events.find? (settles reservation.reservationId) = none)
    (settled : settles reservation.reservationId event = true)
    (elsewhere : ∀ other ∈ reservations, other ≠ reservation →
      settles other.reservationId event = false) :
    (reservations.map (openTokens (events ++ [event]))).sum + reservation.tokens =
        (reservations.map (openTokens events)).sum ∧
      (reservations.map (chargedTokens (events ++ [event]))).sum + reservation.tokens =
        (reservations.map (chargedTokens events)).sum + terminalTokens event := by
  have found : (events ++ [event]).find? (settles reservation.reservationId) = some event := by
    rw [find?_append, unsettled]
    simp [settled]
  have nowOpen : openTokens (events ++ [event]) reservation = 0 := by
    have terminal := terminalReservations_contains_false.not.mpr (found ▸ Option.some_ne_none _)
    rw [Bool.not_eq_false] at terminal
    rw [openTokens, if_pos terminal]
  have nowCharged : chargedTokens (events ++ [event]) reservation = terminalTokens event := by
    rw [chargedTokens, found]
  obtain ⟨wasOpen, wasCharged⟩ := tokens_of_unsettled unsettled
  have opened := sum_map_change (openTokens events) (openTokens (events ++ [event])) distinct listed
    fun other member different => (tokens_append (elsewhere other member different)).1
  have charged := sum_map_change (chargedTokens events) (chargedTokens (events ++ [event])) distinct
    listed fun other member different => (tokens_append (elsewhere other member different)).2
  rw [nowOpen, wasOpen] at opened
  rw [nowCharged, wasCharged] at charged
  exact ⟨opened, charged⟩

/-- The charges of the reservations of a history are the tokens of its terminal events and the
reserved tokens of what is still pending. -/
theorem WellFormed.sum_chargedTokens
    (history : WellFormed events) : (events.map terminalTokens).sum +
      ((events.filterMap reservationOf).map (openTokens events)).sum =
      ((events.filterMap reservationOf).map (chargedTokens events)).sum := by
  induction history with
  | nil => rfl
  | @snoc events event before admissible ih =>
    have unchanged (quiet : ∀ id, settles id event = false) :
        (events.filterMap reservationOf).map (openTokens (events ++ [event])) =
            (events.filterMap reservationOf).map (openTokens events) ∧
          (events.filterMap reservationOf).map (chargedTokens (events ++ [event])) =
            (events.filterMap reservationOf).map (chargedTokens events) :=
      ⟨map_congr_left fun entry _ => (tokens_append (quiet entry.reservationId)).1,
        map_congr_left fun entry _ => (tokens_append (quiet entry.reservationId)).2⟩
    rw [map_append, sum_append, filterMap_append, map_append, map_append, sum_append, sum_append]
    cases event with
    | reservation version pricing entry =>
      obtain ⟨sameOpen, sameCharged⟩ := unchanged fun id => rfl
      have unsettled : (events ++ [BudgetLedgerEvent.reservation version pricing entry]).find?
          (settles entry.reservationId) = none := by
        rw [find?_settles_append rfl, find?_eq_none]
        intro event listed settled
        obtain ⟨v, p, held, reserved, sameId⟩ := before.reserved_of_settled listed settled
        exact admissible.2.2 _ reserved ⟨v, p, held, rfl, sameId⟩
      obtain ⟨asOpen, asCharged⟩ := tokens_of_unsettled unsettled
      have last : [BudgetLedgerEvent.reservation version pricing entry].filterMap reservationOf =
          [entry] := rfl
      rw [sameOpen, sameCharged, last, map_singleton, map_singleton, map_singleton,
        asOpen, asCharged]
      simp only [terminalTokens, sum_singleton]
      omega
    | reservationReconciled version pricing entry recovered =>
      obtain ⟨-, -, ⟨v, p, reservation, reserved, charges⟩, pending⟩ := admissible
      have listed : reservation ∈ events.filterMap reservationOf :=
        mem_filterMap.mpr ⟨_, reserved, rfl⟩
      have elsewhere : ∀ other ∈ events.filterMap reservationOf, other ≠ reservation →
          settles other.reservationId (.reservationReconciled version pricing entry recovered) =
            false := by
        intro other member different
        rw [settles, beq_eq_false_iff_ne, ← charges.id]
        intro same
        exact different
          (inj_on_of_nodup_map before.nodup_reservations member listed same.symm)
      have unsettled : events.find? (settles reservation.reservationId) = none := by
        rw [find?_eq_none, charges.id]
        intro earlier inEvents
        simp [pending earlier inEvents]
      have settled : settles reservation.reservationId
          (.reservationReconciled version pricing entry recovered) = true := by
        simp [settles, charges.id]
      obtain ⟨opened, charged⟩ := sum_settling before.nodup_reservations.of_map listed unsettled
        settled elsewhere
      have last : [BudgetLedgerEvent.reservationReconciled version pricing entry
          recovered].filterMap reservationOf = [] := rfl
      rw [last, map_singleton, sum_singleton]
      simp only [map_nil, sum_nil]
      omega
    | consume | poolConsume | rateLimited =>
      obtain ⟨sameOpen, sameCharged⟩ := unchanged fun id => rfl
      rw [sameOpen, sameCharged]
      exact ih

/-- Over a window that covers every event of a history, the usage is the direct consumption and one
charge for each reservation; it is refused only when a total goes out of range. -/
theorem WorkspaceBudgetLedger.usageInWindow_covering {ledger : WorkspaceBudgetLedger codec}
    (history : WellFormed ledger.events) (window : windowSeconds ≠ 0)
    (covered : ∀ event ∈ ledger.events, nowUnixSeconds - windowSeconds ≤ event.unixSeconds) :
    match ledger.usageInWindow windowSeconds nowUnixSeconds with
    | .ok usage => usage.tokens = aggregateTokens ledger.events
    | .error refusal => refusal ∈ usageOverflows := by
  have passes : refuseIf (windowSeconds = 0)
      "rolling budget window must be greater than zero seconds" = (.ok () : Except String Unit) :=
    refuseIf_ok.mpr window
  rw [usageInWindow, usageInWindowExcluding, passes, ok_bind]
  cases counted : ledger.events.foldlM (UsageTotals.count (terminalReservations ledger.events) ∅
      (nowUnixSeconds - windowSeconds) nowUnixSeconds) ⟨0, 0.0, true, []⟩ with
  | error refusal => exact foldlM_count_refusal counted
  | ok totals =>
    have tokens := foldlM_count_tokens covered counted
    rw [sum_countedTokens] at tokens
    have charges := history.sum_chargedTokens
    have same : totals.tokens = aggregateTokens ledger.events := by
      rw [tokens, aggregateTokens, ← charges, Nat.zero_add]
      rfl
    exact same

/-! ## Rate limits -/

/-- `active_rate_limit`. -/
def WorkspaceBudgetLedger.activeRateLimit (pool : String) (nowUnixSeconds : ℕ) :
    Option RateLimitLatch :=
  ledger.events.reverse.findSome? fun event =>
    match event with
    | .rateLimited _ eventPool detail _ untilUnixSeconds =>
      if eventPool = pool ∧ nowUnixSeconds < untilUnixSeconds then
        some ⟨eventPool, detail, untilUnixSeconds⟩ else none
    | _ => none

/-- An event limits a pool at a time. -/
def BudgetLedgerEvent.Limits (pool : String) (now : ℕ) : BudgetLedgerEvent → Prop
  | .rateLimited _ limited _ _ untilUnixSeconds => limited = pool ∧ now < untilUnixSeconds
  | _ => False

/-- An event of the window lists the pool it limits. -/
theorem UsageTotals.count_pools {excluded : BTreeSet String}
    (counted : totals.count terminals excluded start now event = .ok next) :
    pool ∈ next.rateLimitedPools ↔ pool ∈ totals.rateLimitedPools ∨
      start ≤ event.unixSeconds ∧ event.Limits pool now := by
  unfold count at counted
  split at counted
  case isTrue early =>
    injection counted with same
    simp [← same, Nat.not_le.mpr early]
  case isFalse covered =>
    rw [Nat.not_lt] at covered
    cases event with
    | reservation version pricing entry =>
      dsimp only at counted
      split at counted
      · simp [(add_ok counted).2, BudgetLedgerEvent.Limits]
      · injection counted with same
        simp [← same, BudgetLedgerEvent.Limits]
    | reservationReconciled | consume | poolConsume =>
      simp [(add_ok counted).2, BudgetLedgerEvent.Limits]
    | rateLimited version limited detail unixSeconds untilUnixSeconds =>
      simp only [BudgetLedgerEvent.Limits, covered, true_and]
      dsimp only at counted
      split at counted
      case isTrue fresh =>
        injection counted with same
        simp [← same, fresh.1, eq_comm]
      case isFalse listed =>
        injection counted with same
        rw [← same]
        refine (or_iff_left_of_imp ?_).symm
        rintro ⟨rfl, active⟩
        exact by_contra fun unlisted => listed ⟨active, unlisted⟩

/-- The two projections agree on a pool exactly when a limit of the pool that is in force was
recorded in the window, or none is in force. -/
theorem rateLimitedPools_agree_iff {windowSeconds : ℕ} {pool : String} {usage : RollingBudgetUsage}
    (projected : ledger.usageInWindow windowSeconds now = .ok usage) :
    (pool ∈ usage.rateLimitedPools ↔ (ledger.activeRateLimit pool now).isSome = true) ↔
      (∃ event ∈ ledger.events, now - windowSeconds ≤ event.unixSeconds ∧ event.Limits pool now) ∨
        ∀ event ∈ ledger.events, ¬ event.Limits pool now := by
  simp only [WorkspaceBudgetLedger.usageInWindow, WorkspaceBudgetLedger.usageInWindowExcluding,
    ok_iff] at projected
  obtain ⟨-, totals, counted, rfl⟩ := projected
  have listed := foldlM_invariant (fun done (totals : UsageTotals) =>
    pool ∈ totals.rateLimitedPools ↔
      ∃ event ∈ done, now - windowSeconds ≤ event.unixSeconds ∧ event.Limits pool now)
    (fun done event totals next before counted => by
      rw [UsageTotals.count_pools counted, before]
      simp [or_and_right, exists_or]) (by simp) counted
  have active : (ledger.activeRateLimit pool now).isSome = true ↔
      ∃ event ∈ ledger.events, event.Limits pool now := by
    simp only [WorkspaceBudgetLedger.activeRateLimit, findSome?_isSome_iff, mem_reverse]
    refine exists_congr fun event => and_congr_right fun _ => ?_
    cases event <;> simp [BudgetLedgerEvent.Limits]
  rw [listed, active]
  constructor
  · intro agree
    by_cases limited : ∃ event ∈ ledger.events, event.Limits pool now
    · exact .inl (agree.mpr limited)
    · exact .inr fun event member limits => limited ⟨event, member, limits⟩
  · rintro (⟨event, member, within, limits⟩ | unlimited)
    · exact iff_of_true ⟨event, member, within, limits⟩ ⟨event, member, limits⟩
    · refine iff_of_false ?_ ?_
      · rintro ⟨event, member, -, limits⟩
        exact unlimited event member limits
      · rintro ⟨event, member, limits⟩
        exact unlimited event member limits

/-- A ledger with a limit until second 60, recorded at the given one. -/
def limitedLedger (recordedAt : ℕ) :
    WorkspaceBudgetLedger ⟨_, fun event => event, some, fun _ => 0, fun _ _ => rfl⟩ :=
  ⟨[], [], [.rateLimited ledgerFormatVersion "p" "" recordedAt 60]⟩

/-- A limit that was recorded in the window. -/
theorem rateLimitedPools_agree_iff_recorded : ∃ usage,
    (limitedLedger 40).usageInWindow 20 50 = .ok usage ∧ "p" ∈ usage.rateLimitedPools := by
  have projected : (limitedLedger 40).usageInWindow 20 50 = .ok ⟨0, some 0.0, ["p"]⟩ := rfl
  refine ⟨_, projected, ((rateLimitedPools_agree_iff _ projected).mpr (.inl ?_)).mpr rfl⟩
  simp [limitedLedger, BudgetLedgerEvent.unixSeconds, BudgetLedgerEvent.Limits]

/-- A limit that was recorded before the window. -/
theorem rateLimitedPools_before_window : ∃ usage,
    (limitedLedger 10).usageInWindow 20 50 = .ok usage ∧ "p" ∉ usage.rateLimitedPools ∧
      (limitedLedger 10).activeRateLimit "p" 50 = some ⟨"p", "", 60⟩ :=
  ⟨_, rfl, not_mem_nil, rfl⟩

end Maco.RollingBudget
