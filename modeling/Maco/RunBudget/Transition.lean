import Maco.RunBudget.Ledger

/-!
# What an operation can do to the state

One inversion for each operation, gathered in a relation between the state before and after. The
rolling ledger decides whether an operation goes through and which reasons it latches, and nothing
else, so the relation does not mention it.
-/

namespace Maco.RunBudget

open Maco.Base Maco.RollingBudget RunBudgetLedger

variable {codec : Codec}

/-- `charge_reservation` peeled apart. -/
structure Charged (ledger : RunBudgetLedger) (state : LedgerState) (id : ℕ)
    (reservation : BudgetReservation) (charge : ReconciliationCharge) (charged : LedgerState) :
    Prop where
  found : state.active[id]? = some reservation
  applied : ∃ removed, removeReservation state id = .ok (reservation, removed) ∧
    applyCharge removed reservation.role charge ledger.limits = .ok charged

section

variable (ledger : RunBudgetLedger) (state : LedgerState)

/-- What an operation can do besides admitting or removing a reservation. -/
inductive Adjusts : LedgerState → Prop where
  /-- An operation that only reads. -/
  | stay : Adjusts state
  /-- A refusal, an exhausted grant or a rate limit. -/
  | latch (forceStop : Bool) (reasons : BTreeSet BudgetReason) :
      Adjusts { state with forceStop, persistentReasons := reasons }
  /-- A live limit for a reservation. -/
  | limit {id limit : ℕ} {reservation : BudgetReservation}
      (found : state.active[id]? = some reservation) :
      Adjusts { state with liveLimits := state.liveLimits.insert id limit }
  /-- A live grant above the estimate, out of the uncommitted balance. -/
  | grant {id extra : ℕ} {reservation : BudgetReservation} {role : RoleState}
      (found : state.active[id]? = some reservation)
      (fresh : state.liveGrants[id]? = none)
      (within : ∀ hard, ledger.limits.hardTokens = some hard →
        state.consumedTokens + state.reservedTokens + extra ≤ hard)
      (roleFound : state.roles[reservation.role]? = some role) :
      Adjusts { state with
        reservedTokens := state.reservedTokens + extra
        roles := state.roles.insert reservation.role { role with
          reservedTokens := role.reservedTokens + extra }
        liveGrants := state.liveGrants.insert id (reservation.tokens + extra) }
  /-- A dispatch bound to its grant. -/
  | bind {id : ℕ} {reservation : BudgetReservation} {binding : BudgetDispatchBinding}
      (found : state.active[id]? = some reservation)
      (granted : state.liveGrants[id]? = some binding.grantTokens)
      (named : binding.reservationId = id)
      (estimate : binding.estimateTokens = reservation.tokens) :
      Adjusts { state with dispatchBindings := state.dispatchBindings.insert id binding }
  /-- An observation of the invocation of an admitted dispatch. -/
  | observe {id : ℕ} {binding : BudgetDispatchBinding}
      (found : state.dispatchBindings[id]? = some binding)
      (invocation : Option BudgetDispatchInvocation) (threadId turnId : Option String) :
      Adjusts { state with
        dispatchBindings := state.dispatchBindings.insert id
          (observeBinding binding invocation threadId turnId) }
  /-- A confirmed dispatch. -/
  | confirm (id : ℕ) :
      Adjusts { state with durableDispatches := state.durableDispatches.insert id }
  /-- A discarded dispatch. -/
  | discard (id : ℕ) :
      Adjusts { state with dispatchBindings := state.dispatchBindings.erase id }

end

/-- What an operation does; an error leaves the state. -/
inductive Moves (ledger : RunBudgetLedger) (environment : Environment)
    (budget : SharedBudget codec) (operation : Operation) : LedgerState → Prop where
  | adjust {next} (adjusts : Adjusts ledger budget.state next) :
      Moves ledger environment budget operation next
  /-- An admission within the hard token ceiling. -/
  | admission {reservation next} (named : reservation.id = budget.state.nextReservationId)
      (within : ∀ hard, ledger.limits.hardTokens = some hard →
        budget.state.consumedTokens + budget.state.reservedTokens + reservation.tokens ≤ hard)
      (added : addReservation { budget.state with
        nextReservationId := budget.state.nextReservationId + 1 } reservation = .ok next) :
      Moves ledger environment budget operation next
  /-- A settlement. -/
  | settle {id reservation charge charged} (pricing : ChargePricing) (reasons : List BudgetReason)
      (charges : Charged ledger budget.state id reservation charge charged) :
      Moves ledger environment budget operation
        (recordSettlement charged reservation id charge pricing reasons)
  /-- A release. -/
  | release {id reservation removed} (reasons : List BudgetReason)
      (asked : operation = .release id)
      (answered : ledger.answer environment budget operation = .ok ())
      (removes : removeReservation budget.state id = .ok (reservation, removed)) :
      Moves ledger environment budget operation
        (latchRolling { removed with dispatchBindings := releaseBindings removed id } reasons)

variable {ledger : RunBudgetLedger} {environment : Environment} {state : LedgerState}

variable {decision : AdmissionDecision}

/-- A refusal latches. -/
theorem refuseAndStop_moves
    (decided : ledger.refuseAndStop environment state refusal = .ok decision) :
    ∃ report forceStop reasons, decision = .refuse refusal report { state with
      forceStop
      persistentReasons := reasons } := by
  simp only [refuseAndStop, ok_iff] at decided
  obtain ⟨report, -, rfl⟩ := decided
  cases refusal.reason with
  | none => exact ⟨report, true, state.persistentReasons, rfl⟩
  | some reason => exact ⟨report, true, state.persistentReasons.insert reason, rfl⟩

variable {request : BudgetReservationRequest}

/-- A reservation that is admitted takes the next id. -/
theorem admitReservation_admits
    (decided : ledger.admitReservation environment state request = .ok decision) :
    ∃ reservation report next, decision = .admission reservation report next ∧
      reservation.id = state.nextReservationId ∧ reservation.tokens = request.tokens ∧
      addReservation { state with
        nextReservationId := state.nextReservationId + 1 } reservation = .ok next := by
  simp only [admitReservation, ok_iff, checkedAddU64_eq_some] at decided
  obtain ⟨nextId, ⟨-, rfl⟩, next, added, report, -, rfl⟩ := decided
  exact ⟨_, report, next, rfl, rfl, rfl, added⟩

/-- A decision of `reserve_locked` latches at most, or admits a request that the hard token ceiling
leaves room for. -/
theorem decideAdmission_cases
    (decided : ledger.decideAdmission environment rolling state request = .ok decision) :
    (∃ refusal report forceStop reasons, decision = .refuse refusal report { state with
      forceStop
      persistentReasons := reasons }) ∨
    (∀ hard, ledger.limits.hardTokens = some hard →
        state.consumedTokens + state.reservedTokens + request.tokens ≤ hard) ∧
      ledger.admitReservation environment state request = .ok decision := by
  rw [decideAdmission, bind_ok] at decided
  obtain ⟨report, -, decided⟩ := decided
  split at decided
  · rw [pure_ok] at decided
    exact .inl ⟨_, report, state.forceStop, state.persistentReasons, decided.symm⟩
  split at decided
  · exact .inl ⟨_, refuseAndStop_moves decided⟩
  simp only [ok_iff, checkedAddU64_eq_some] at decided
  obtain ⟨committed, ⟨-, rfl⟩, projected, ⟨-, rfl⟩, decided⟩ := decided
  split at decided
  case h_1 limit passed => exact .inl ⟨_, refuseAndStop_moves decided⟩
  case h_2 ceiling =>
    simp only [bind_ok] at decided
    obtain ⟨cost, -, decided⟩ := decided
    cases cost with
    | some refusal => exact .inl ⟨_, refuseAndStop_moves decided⟩
    | none =>
      simp only [bind_ok] at decided
      obtain ⟨window, -, decided⟩ := decided
      cases window with
      | some refusal => exact .inl ⟨_, refuseAndStop_moves decided⟩
      | none =>
        refine .inr ⟨fun hard limited => ?_, decided⟩
        rw [limited] at ceiling
        simp only [Option.filter_eq_none_iff, Option.some.injEq, forall_eq',
          decide_eq_true_eq, Nat.not_lt] at ceiling
        exact ceiling

variable {id : ℕ}

theorem configureLiveTokenLimit_adjusts {limit : ℕ}
    (done : ledger.configureLiveTokenLimit state id limit = .ok next) :
    Adjusts ledger state next := by
  simp only [configureLiveTokenLimit, ok_iff] at done
  obtain ⟨reservation, found, -, rfl⟩ := done
  exact .limit found

theorem allowanceWithin_le (limit : Option ℕ) (allowance : ℕ) :
    allowanceWithin limit allowance ≤ allowance := by
  cases limit with
  | none => exact le_refl _
  | some limit => exact Nat.min_le_left _ _

variable {reservation : BudgetReservation} {limit : Option ℕ}

/-- A new grant adds its extra tokens to the ledger and to its role, within the uncommitted
balance. -/
theorem issueGrant_ok (issued : issueGrant state hard id reservation limit = .ok (tokens, next)) :
    ∃ extra role, state.consumedTokens + state.reservedTokens + extra ≤ hard ∧
      state.roles[reservation.role]? = some role ∧ next = { state with
        reservedTokens := state.reservedTokens + extra
        roles := state.roles.insert reservation.role { role with
          reservedTokens := role.reservedTokens + extra }
        liveGrants := state.liveGrants.insert id (reservation.tokens + extra) } := by
  simp only [issueGrant, ok_iff, checkedAddU64_eq_some, checkedSubU64_eq_some, Prod.mk.injEq,
    Nat.not_lt] at issued
  obtain ⟨committed, ⟨-, rfl⟩, available, ⟨enough, rfl⟩, pending, -, allowance, ⟨-, rfl⟩, floor,
    reserved, ⟨-, rfl⟩, role, found, roleTokens, ⟨-, rfl⟩, -, rfl⟩ := issued
  -- The extra is at most the share of the balance, and the share at most the balance.
  have share := Nat.div_le_self (hard - (state.consumedTokens + state.reservedTokens)) pending
  have capped := allowanceWithin_le limit
    (reservation.tokens + (hard - (state.consumedTokens + state.reservedTokens)) / pending)
  generalize allowanceWithin limit
    (reservation.tokens + (hard - (state.consumedTokens + state.reservedTokens)) / pending) =
      granted at floor capped
  refine ⟨granted - reservation.tokens, role, by omega, found, ?_⟩
  rw [Nat.add_sub_cancel' floor]

/-- A live grant is an adjustment. -/
theorem liveTokenGrantWithLimit_adjusts
    (done : ledger.liveTokenGrantWithLimit state id limit = .ok result) :
    Adjusts ledger state result.2 := by
  simp only [liveTokenGrantWithLimit, ok_iff] at done
  obtain ⟨reservation, found, done⟩ := done
  cases ceiling : ledger.limits.hardTokens with
  | none =>
    rw [ceiling, pure_ok] at done
    rw [← done]
    exact .stay
  | some hard =>
    rw [ceiling] at done
    cases held : state.liveGrants[id]? with
    | some tokens =>
      simp only [held, ok_iff] at done
      obtain ⟨-, -, rfl⟩ := done
      exact .stay
    | none =>
      simp only [held, ok_iff] at done
      obtain ⟨⟨tokens, next⟩, issued, rfl⟩ := done
      obtain ⟨extra, role, within, roleFound, rfl⟩ := issueGrant_ok issued
      refine .grant found held (fun limit limited => ?_) roleFound
      rw [ceiling, Option.some.injEq] at limited
      rw [← limited]
      exact within

theorem bindDispatch_adjusts (done : ledger.bindDispatch state id invocation grant = .ok result) :
    Adjusts ledger state result.2 := by
  simp only [bindDispatch, ok_iff] at done
  obtain ⟨reservation, found, -, tokens, granted, hard, -, rfl⟩ := done
  exact .bind found granted rfl rfl

/-- An observation is an adjustment. -/
theorem observeDispatchIdentity_adjusts
    (done : observeDispatchIdentity state id invocation threadId turnId = .ok result) :
    Adjusts ledger state result.2 := by
  unfold observeDispatchIdentity at done
  cases found : state.dispatchBindings[id]? with
  | none =>
    rw [found] at done
    injection done with same
    rw [← same]
    exact .stay
  | some binding =>
    simp only [found, ok_iff] at done
    obtain ⟨-, rfl⟩ := done
    exact .observe found invocation threadId turnId

theorem confirmDispatchAdmission_adjusts
    (done : confirmDispatchAdmission state id = .ok next) : Adjusts ledger state next := by
  simp only [confirmDispatchAdmission, ok_iff] at done
  obtain ⟨-, rfl⟩ := done
  exact .confirm id

theorem discardUnconfirmedDispatch_adjusts (id : ℕ) :
    Adjusts ledger state (discardUnconfirmedDispatch state id) := by
  unfold discardUnconfirmedDispatch
  split
  · exact .stay
  · exact .discard id

/-- An error leaves the state of the run. -/
theorem perform_state_of_error
    {operation : Operation} {refusal : BudgetError}
    (failed : ledger.answer environment budget operation = .error refusal) :
    (ledger.perform environment budget operation).state = budget.state := by
  cases operation with
  | reserve request =>
    unfold answer reserveLocked at failed
    unfold perform reserveLocked
    grind [Except.map]
  | reconcileWithPool id measurement pool runtime pricing =>
    unfold answer reconcileWithPool at failed
    unfold perform reconcileWithPool
    grind [Except.map]
  | release id =>
    unfold answer RunBudgetLedger.release at failed
    unfold perform RunBudgetLedger.release
    grind [Except.map]
  | recordProviderError detail =>
    unfold answer recordProviderError at failed
    unfold perform recordProviderError
    grind
  | discardUnconfirmedDispatch | exhaust => cases failed
  | _ =>
    unfold answer at failed
    unfold perform SharedBudget.apply
    grind [Except.map]

variable {measurement : UsageMeasurement} {runtime : Option String}

/-- What a charge computed for a settlement consists of. -/
theorem chargeReservation_ok
    (done : ledger.chargeReservation state id measurement runtime =
      .ok (reservation, charge, charged)) : Charged ledger state id reservation charge charged := by
  simp only [chargeReservation, ok_iff, Prod.mk.injEq] at done
  obtain ⟨-, -, held, found, cost, -, ⟨other, removed⟩, removes, next, applied, rfl, rfl, rfl⟩ :=
    done
  have same : other = held := by
    have again := removes
    simp only [removeReservation, ok_iff, found, Option.some.injEq, Prod.mk.injEq] at again
    obtain ⟨reservation, rfl, -, -, -, -, -, -, -, -, -, -, -, -, rfl, -⟩ := again
    rfl
  rw [same] at removes
  exact ⟨found, removed, removes, applied⟩

section

variable (budget : SharedBudget codec)

/-- `reserve_locked` latches or admits. -/
theorem reserve_moves (request : BudgetReservationRequest) :
    Moves ledger environment budget (.reserve request)
      (ledger.perform environment budget (.reserve request)).state := by
  unfold perform reserveLocked
  dsimp only
  cases decided : ledger.decideAdmission environment budget.rolling budget.state request with
  | error refusal => exact .adjust .stay
  | ok decision =>
    obtain ⟨_, _, _, _, rfl⟩ | ⟨within, admits⟩ := decideAdmission_cases decided
    · exact .adjust (.latch _ _)
    · obtain ⟨reservation, report, next, rfl, named, sized, added⟩ := admitReservation_admits admits
      rw [← sized] at within
      dsimp only
      rcases ledger.persistRollingReservation environment budget.rolling reservation with
        ⟨refusal | done, rolling⟩
      · exact .adjust .stay
      · exact .admission named within added

/-- `reconcile_with_pool` settles. -/
theorem reconcile_moves (id : ℕ) (measurement : UsageMeasurement) (pool : Option PoolKey)
    (runtime : Option String) (pricing : Option ChargePricing) :
    Moves ledger environment budget (.reconcileWithPool id measurement pool runtime pricing)
      (ledger.perform environment budget
        (.reconcileWithPool id measurement pool runtime pricing)).state := by
  unfold perform reconcileWithPool
  dsimp only
  cases computed : ledger.chargeReservation budget.state id measurement runtime with
  | error refusal => exact .adjust .stay
  | ok values =>
    obtain ⟨reservation, charge, charged⟩ := values
    dsimp only
    rcases ledger.persistRollingConsumption environment budget.rolling id charge pool
      (ledger.chargePricing reservation measurement charge runtime pricing) with
      ⟨refusal | reasons, rolling⟩
    · exact .adjust .stay
    · dsimp only
      split
      · exact .adjust .stay
      · exact .settle _ reasons (chargeReservation_ok computed)

/-- `release` removes. -/
theorem release_moves (id : ℕ) :
    Moves ledger environment budget (.release id)
      (ledger.perform environment budget (.release id)).state := by
  cases answered : ledger.answer environment budget (.release id) with
  | error refusal =>
    rw [perform_state_of_error answered]
    exact .adjust .stay
  | ok done =>
    have succeeds := answered
    unfold answer RunBudgetLedger.release at succeeds
    unfold perform RunBudgetLedger.release
    dsimp only at *
    cases removes : removeReservation budget.state id with
    | error refusal =>
      rw [removes] at succeeds
      cases succeeds
    | ok values =>
      rw [removes] at succeeds
      obtain ⟨reservation, removed⟩ := values
      dsimp only at *
      generalize ledger.persistConservativeRollingAbandonment environment budget.rolling
        reservation = persisted at *
      obtain ⟨refusal | reasons, rolling⟩ := persisted
      · cases succeeds
      · dsimp only at *
        split at succeeds
        · cases succeeds
        · exact .release reasons rfl answered removes

variable {budget}

/-- An operation that returns its state adjusts when its result does. -/
theorem apply_moves {α : Type} {result : Except BudgetError α} {next : α → LedgerState}
    (adjusts : ∀ value, result = .ok value → Adjusts ledger budget.state (next value)) :
    Moves ledger environment budget operation (budget.apply result next).state := by
  cases result with
  | error refusal => exact .adjust .stay
  | ok value => exact .adjust (adjusts value rfl)

/-- Every operation is a move. -/
theorem perform_moves (budget : SharedBudget codec) (operation : Operation) :
    Moves ledger environment budget operation
      (ledger.perform environment budget operation).state := by
  cases operation with
  | reserve request => exact reserve_moves budget request
  | configureLiveTokenLimit id limit =>
    exact apply_moves fun next done => configureLiveTokenLimit_adjusts done
  | liveTokenGrantWithLimit id limit =>
    exact apply_moves fun result done => liveTokenGrantWithLimit_adjusts done
  | bindDispatch id invocation grant =>
    exact apply_moves fun result done => bindDispatch_adjusts done
  | observeDispatchIdentity id invocation threadId turnId =>
    exact apply_moves fun result done => observeDispatchIdentity_adjusts done
  | confirmDispatchAdmission id =>
    exact apply_moves fun next done => confirmDispatchAdmission_adjusts done
  | discardUnconfirmedDispatch id => exact .adjust (discardUnconfirmedDispatch_adjusts id)
  | reconcileWithPool id measurement pool runtime pricing =>
    exact reconcile_moves budget id measurement pool runtime pricing
  | release id => exact release_moves budget id
  | exhaust reservation => exact .adjust (.latch true _)
  | recordProviderError detail =>
    refine .adjust ?_
    unfold perform recordProviderError
    dsimp only
    repeat' split
    any_goals exact .stay
    exact .latch true _

end

end Maco.RunBudget
