import Maco.RollingBudget.Session

/-!
# Exactly-once accounting

Over every history of a workspace, a reservation is settled at most once, the usage counts it once,
and settling it again changes nothing, provided that no process goes on after an append that could
not write the head. One that does can settle the same reservation twice, and its journal cannot be
opened again.
-/

namespace Maco.RollingBudget

open Maco.Base WorkspaceBudgetLedger

variable {codec : Codec}

/-- Reservations are accounted exactly once: the journal settles each at most once, a process that
holds the whole journal remembers all of it, the usage counts every reservation once, and settling
a settled reservation again changes nothing. -/
structure ExactlyOnce (world : World codec) : Prop where
  settledOnce : ∀ id, settlements id (journalEvents codec world.system.published) ≤ 1
  remembered : ∀ ledger, world.system = .running ledger → ledger.published = ledger.records →
    ledger.events = journalEvents codec ledger.published
  usage : ∀ ledger, world.system = .running ledger → ∀ windowSeconds nowUnixSeconds,
    windowSeconds ≠ 0 →
    (∀ event ∈ ledger.events, nowUnixSeconds - windowSeconds ≤ event.unixSeconds) →
    match ledger.usageInWindow windowSeconds nowUnixSeconds with
    | .ok usage => usage.tokens = aggregateTokens ledger.events
    | .error refusal => refusal ∈ usageOverflows
  retried : ∀ ledger, world.system = .running ledger → ∀ io reconciliation pricing,
    0 < settlements reconciliation.reservationId (journalEvents codec ledger.published) →
    (ledger.call io (.reconcileReservation reconciliation pricing)).2 = ledger ∧
      ∀ outcome, (ledger.call io (.reconcileReservation reconciliation pricing)).1 = .ok outcome →
        outcome = .alreadyRecorded

/-- A current process does not settle again what the journal settles. -/
theorem Current.settled_again (current : Current ledger lost) (io : AppendIo)
    (pricing : Option ChargePricing) (settled : 0 < settlements reconciliation.reservationId
      (journalEvents codec ledger.published)) :
    (ledger.call io (.reconcileReservation reconciliation pricing)).2 = ledger ∧
      ∀ outcome, (ledger.call io (.reconcileReservation reconciliation pricing)).1 = .ok outcome →
        outcome = .alreadyRecorded := by
  have executed := ledger.call_executed io (.reconcileReservation reconciliation pricing)
  generalize ledger.call io (.reconcileReservation reconciliation pricing) = outcome at executed
  obtain ⟨result, next⟩ := outcome
  -- Were an event appended, the process would hold the whole journal and find no terminal in it.
  have never {event : BudgetLedgerEvent}
      (chosen : ledger.prepare (.reconcileReservation reconciliation pricing) = .ok (some event))
      (checked : ledger.appendChecks event = .ok ()) : False := by
    have whole := (current.appends checked).1
    have events : journalEvents codec ledger.published = ledger.events := by
      rw [whole]
      exact journalEvents_of_writes current.complete.written
    obtain ⟨-, reservation, -, -, open_, -⟩ := prepareReconciliation_some.mp chosen
    have none_ := settlements_eq_zero.mpr (reservationTerminal_eq_none.mp open_)
    rw [events, none_] at settled
    exact Nat.lt_irrefl 0 settled
  cases executed with
  | refused refusal => exact ⟨rfl, fun outcome success => nomatch success⟩
  | alreadyRecorded nothing =>
    refine ⟨rfl, fun outcome success => ?_⟩
    injection success with same
    exact same.symm
  | unacknowledged refusal chosen checked => exact (never chosen checked).elim
  | headFailed refusal chosen checked failed => exact (never chosen checked).elim
  | completed chosen checked => exact (never chosen checked).elim

/-- Exactly-once accounting survives every interleaving of calls, failed appends, deaths and
reopenings in which no process goes on after an append that could not write the head. Over all
histories, a reservation is settled twice exactly when a lost settlement is made again. -/
theorem exactlyOnce_run (actions : List Action) :
    ((∀ action ∈ actions, ¬ action.goesOnHeadless) → ExactlyOnce (World.run codec actions)) ∧
      ((∀ id, settlements id (journalEvents codec (World.run codec actions).system.published) ≤ 1) ↔
        (World.run codec actions).retriedLost = false) := by
  have sound : (World.run codec actions).Sound := World.run_sound actions
  have counts : (∀ id, settlements id
      (journalEvents codec (World.run codec actions).system.published) ≤ 1) ↔
        (World.run codec actions).retriedLost = false := by
    have kept : Kept (World.run codec actions).system.published
        (World.run codec actions).retriedLost := by
      unfold World.Sound at sound
      split at sound
      · rename_i published closed
        rw [closed]
        exact sound
      · rename_i ledger running
        rw [running]
        exact sound.kept
    constructor
    · intro once
      by_contra retried
      obtain ⟨id, twice⟩ := kept.doubled (by simpa using retried)
      have := once id
      omega
    · exact kept.single
  refine ⟨fun headed => ?_, counts⟩
  have clean : (World.run codec actions).Clean := World.run_clean headed
  obtain ⟨single, current⟩ := clean
  refine ⟨counts.mpr single, ?_, ?_, ?_⟩
  · intro ledger running whole
    rw [running] at current
    rw [whole]
    exact (journalEvents_of_writes current.complete.written).symm
  · intro ledger running windowSeconds nowUnixSeconds window covered
    rw [running] at current
    exact usageInWindow_covering current.complete.history window covered
  · intro ledger running io reconciliation pricing settled
    rw [running] at current
    exact current.settled_again io pricing settled

/-- A reservation of ten tokens. -/
def sampleReservation (reservationId : String) : DurableBudgetReservation where
  reservationId
  tokens := 10
  requests := 0
  costUsd := none
  pool := none
  unixSeconds := 1000

/-- The charge of four tokens for it. -/
def sampleReconciliation (reservationId : String) : DurableBudgetReconciliation where
  reservationId
  tokens := 4
  requests := 0
  costUsd := none
  pool := none
  unixSeconds := 1001

/-- A process reserves and dies while the charge is written without being acknowledged; the next
process finds the settlement, and settling again changes nothing. -/
def dyingActions : List Action :=
  [.reopen (fun _ => .completes) (.ok 1000),
    .call .completes (.recordReservation (sampleReservation "a") none),
    .dieDuring .headFailed (.reconcileReservation (sampleReconciliation "a") none),
    .reopen (fun _ => .completes) (.ok 2000),
    .call .completes (.reconcileReservation (sampleReconciliation "a") none)]

/-- The accounting of that workspace is exactly once, and the reservation is settled. -/
theorem exactlyOnce_run_dying : ExactlyOnce (World.run plainCodec dyingActions) ∧
    settlements "a" (journalEvents plainCodec (World.run plainCodec dyingActions).system.published)
      = 1 :=
  ⟨(exactlyOnce_run dyingActions).1 (by decide), by decide +kernel⟩

/-- A process reserves, fails to write the head while it settles, and settles again. -/
def headlessActions : List Action :=
  [.reopen (fun _ => .completes) (.ok 1000),
    .call .completes (.recordReservation (sampleReservation "a") none),
    .call .headFailed (.reconcileReservation (sampleReconciliation "a") none),
    .call .completes (.reconcileReservation (sampleReconciliation "a") none)]

/-- The retry is recorded a second time, and the journal is refused when it is opened again. -/
theorem settlements_headless_retry :
    settlements "a" (journalEvents plainCodec
      (World.run plainCodec headlessActions).system.published) = 2 ∧
    replayEvents plainCodec (World.run plainCodec headlessActions).system.published =
      .error "workspace budget reservation 'a' has duplicate or conflicting terminal events" := by
  decide +kernel

end Maco.RollingBudget
