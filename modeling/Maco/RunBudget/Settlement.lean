import Maco.RunBudget.Binding

/-!
# Settling the interrupted dispatches

What it means to settle a dispatch whose usage is missing, said once: the tokens of the run move by
the grant and the estimate of its binding, the charges gain one entry, and the binding ends. The
ledger does this for one dispatch when `reconcile` is called without a measurement; it goes through
exactly when the costs do and the rolling ledger takes the settlement.
-/

namespace Maco.RunBudget

open Maco.Base BTreeMap Maco.RollingBudget RunBudgetLedger List
open BudgetDispatchBinding (reservationId)

variable {codec : Codec} {ledger : RunBudgetLedger}

/-- The tokens of one role. -/
structure RoleTokens where
  role : AgentRole
  consumed : ℕ
  reserved : ℕ
  active : ℕ
deriving DecidableEq, Repr

/-- The tokens of a run: totals, roles, and the charged reservations. -/
structure TokenView where
  consumed : ℕ
  reserved : ℕ
  active : ℕ
  roles : List RoleTokens
  charges : List (ℕ × ℕ)
deriving DecidableEq, Repr

/-- The tokens of a role's state. -/
def roleTokens (entry : AgentRole × RoleState) : RoleTokens :=
  ⟨entry.1, entry.2.consumedTokens, entry.2.reservedTokens, entry.2.activeReservations⟩

/-- The tokens of a ledger state. -/
def LedgerState.tokenView (state : LedgerState) : TokenView where
  consumed := state.consumedTokens
  reserved := state.reservedTokens
  active := state.active.size
  roles := state.roles.toList.map roleTokens
  charges := state.charges.map fun charge => (charge.reservationId, charge.tokens)

/-- The tokens of a role's report. -/
def RoleBudgetReport.tokens (report : RoleBudgetReport) : RoleTokens :=
  ⟨report.role, report.consumed.tokens, report.reserved.tokens, report.activeReservations⟩

/-- The tokens of a report. -/
def RunBudgetReport.tokenView (report : RunBudgetReport) : TokenView where
  consumed := report.consumed.tokens
  reserved := report.reserved.tokens
  active := report.activeReservations
  roles := report.roles.map RoleBudgetReport.tokens
  charges := report.charges.map fun charge => (charge.reservationId, charge.tokens)

/-- A Worker exchanges the grant of a dispatch for its estimate. -/
def RoleTokens.settle (binding : BudgetDispatchBinding) (tokens : RoleTokens) : RoleTokens :=
  if tokens.role = .worker then
    { tokens with
      consumed := tokens.consumed + binding.estimateTokens
      reserved := tokens.reserved - binding.grantTokens
      active := tokens.active - 1 }
  else tokens

/-- The run exchanges the grant of a dispatch for its estimate. -/
def TokenView.settle (view : TokenView) (binding : BudgetDispatchBinding) : TokenView where
  consumed := view.consumed + binding.estimateTokens
  reserved := view.reserved - binding.grantTokens
  active := view.active - 1
  roles := view.roles.map (RoleTokens.settle binding)
  charges := view.charges ++ [(binding.reservationId, binding.estimateTokens)]

/-- The binding of a dispatch settled at its estimate. -/
def settledAtEstimate (binding : BudgetDispatchBinding) : BudgetDispatchBinding :=
  { binding with
    state := .settled
    chargedTokens := some binding.estimateTokens
    usageComplete := some false }

/-- What settling every interrupted dispatch does to a binding. -/
def settleInterrupted (binding : BudgetDispatchBinding) : BudgetDispatchBinding :=
  if interrupted none binding then settledAtEstimate binding else binding

/-- The interrupted dispatches of a list of bindings. -/
def interruptedOf (bindings : List BudgetDispatchBinding) : List BudgetDispatchBinding :=
  bindings.filter (interrupted none)

/-- The charge of a reservation without a measurement. -/
def missingCharge (reservation : BudgetReservation) : ReconciliationCharge where
  tokens := reservation.tokens
  costUsd := reservation.costUsd.getD 0.0
  usageComplete := false
  costComplete := false
  reason := some .missingProviderUsage
  stopForUncertainty := true

/-- A reservation without a measurement is charged when its cost is a number. -/
theorem reconciliationCharge_missing {reservation : BudgetReservation} :
    reconciliationCharge reservation .missing = .ok charge ↔
      (reservation.costUsd.getD 0.0).isFinite = true ∧ charge = missingCharge reservation := by
  change (if (reservation.costUsd.getD 0.0).isFinite then
    Except.ok (missingCharge reservation) else .error BudgetError.costOverflow) = .ok charge ↔ _
  split
  · rename_i finite
    simp [finite, eq_comm]
  · rename_i infinite
    simp [infinite]

/-- The cost fields that a settlement moves. -/
structure CostTotals where
  reserved : ReservedCost
  consumed : Float

/-- What a settlement without a measurement does to cost fields. -/
def CostTotals.settle (totals : CostTotals) (costUsd : Option Float) :
    Except BudgetError CostTotals := do
  let reserved ← totals.reserved.sub costUsd
  let consumed ← checkedCostAdd totals.consumed (costUsd.getD 0.0)
  pure ⟨reserved, consumed⟩

/-- The cost fields of the ledger and of the Worker role. -/
structure RunCosts where
  totals : CostTotals
  worker : CostTotals

/-- What a settlement without a measurement does to them, up to the report it computes. -/
def RunCosts.settle (costs : RunCosts) (costUsd : Option Float) : Except BudgetError RunCosts := do
  refuseIf (¬ (costUsd.getD 0.0).isFinite = true) .costOverflow
  let totals ← costs.totals.settle costUsd
  let worker ← costs.worker.settle costUsd
  let _ ← checkedCostAdd totals.consumed totals.reserved.reservedCostUsd
  pure ⟨totals, worker⟩

/-- The cost fields of a role. -/
def RoleState.costs (role : RoleState) : CostTotals :=
  ⟨⟨role.reservedCostUsd, role.unknownReservedCosts⟩, role.consumedCostUsd⟩

/-- The cost fields of a state. -/
def LedgerState.costs (state : LedgerState) : RunCosts where
  totals := ⟨⟨state.reservedCostUsd, state.unknownReservedCosts⟩, state.consumedCostUsd⟩
  worker := (state.role .worker).costs

variable {state : LedgerState}

/-- What is known of an interrupted dispatch of a Worker. -/
structure Dispatched (state : LedgerState) (binding : BudgetDispatchBinding)
    (reservation : BudgetReservation) (role : RoleState) : Prop where
  bound : state.dispatchBindings[binding.reservationId]? = some binding
  found : state.active[binding.reservationId]? = some reservation
  worker : reservation.role = .worker
  estimate : reservation.tokens = binding.estimateTokens
  holds : state.heldTokens binding.reservationId reservation = binding.grantTokens
  covers : binding.estimateTokens ≤ binding.grantTokens
  roleFound : state.roles[AgentRole.worker]? = some role
  enough : binding.grantTokens ≤ state.reservedTokens
  roleEnough : binding.grantTokens ≤ role.reservedTokens
  roleActive : 1 ≤ role.activeReservations
  consumes : role.consumedTokens ≤ state.consumedTokens

/-- An admitted binding of a Worker is an interrupted dispatch. -/
theorem dispatched_of_bound (accounted : Accounted state) (bound : Bound state)
    {id : ℕ} {binding : BudgetDispatchBinding}
    (found : state.dispatchBindings[id]? = some binding) (admitted : binding.state = .admitted)
    (worker : ∀ reservation, state.active[id]? = some reservation → reservation.role = .worker) :
    ∃ reservation role, Dispatched state binding reservation role := by
  obtain ⟨named, fits⟩ := bound id binding found
  obtain ⟨reservation, active, estimate, granted⟩ := fits admitted
  have isWorker := worker reservation active
  have holds : state.heldTokens id reservation = binding.grantTokens := by
    rw [LedgerState.heldTokens, granted]
    rfl
  have count := sumBy_erase
    (fun _ (held : BudgetReservation) => if held.role = .worker then 1 else 0) active
  have reservedSum := sumBy_erase state.heldTokens active
  have roleSum := sumBy_erase (fun id (held : BudgetReservation) =>
    if held.role = .worker then state.heldTokens id held else 0) active
  have counted := accounted.counted .worker
  have roleHeld := accounted.roleHeld .worker
  have total := accounted.reserved
  rw [LedgerState.activeOf] at counted
  rw [LedgerState.heldOf] at roleHeld
  rw [if_pos isWorker] at count roleSum
  cases roleFound : state.roles[AgentRole.worker]? with
  | none =>
    rw [LedgerState.role, roleFound] at counted
    change 0 = _ at counted
    omega
  | some role =>
    have same : state.role .worker = role := by
      rw [LedgerState.role, roleFound]
      rfl
    rw [same] at counted roleHeld
    have consumes : role.consumedTokens ≤ state.consumedTokens := by
      have sum := sumBy_erase (fun _ (role : RoleState) => role.consumedTokens) roleFound
      have all := accounted.roleConsumed
      omega
    obtain ⟨held, active', floor⟩ := accounted.granted id _ granted
    rw [active, Option.some.injEq] at active'
    refine ⟨reservation, role, ?_, ?_, isWorker, estimate, ?_, ?_, roleFound, ?_, ?_, ?_, consumes⟩
    · rw [named]
      exact found
    · rw [named]
      exact active
    · rw [named]
      exact holds
    · rw [← estimate, active']
      exact floor
    · omega
    · omega
    · omega

/-- The Worker role after one of its dispatches is settled. -/
def settledRole (role : RoleState) (binding : BudgetDispatchBinding) (costs : CostTotals) :
    RoleState where
  consumedTokens := role.consumedTokens + binding.estimateTokens
  consumedCostUsd := costs.consumed
  reservedTokens := role.reservedTokens - binding.grantTokens
  reservedCostUsd := costs.reserved.reservedCostUsd
  unknownReservedCosts := costs.reserved.unknownReservedCosts
  activeReservations := role.activeReservations - 1
  usageComplete := false
  costComplete := false

/-- The state without the reservation of an interrupted dispatch. -/
def removedState (state : LedgerState) (binding : BudgetDispatchBinding) (role : RoleState)
    (reserved roleReserved : ReservedCost) : LedgerState :=
  { state with
    active := state.active.erase binding.reservationId
    liveLimits := state.liveLimits.erase binding.reservationId
    liveGrants := state.liveGrants.erase binding.reservationId
    reservedTokens := state.reservedTokens - binding.grantTokens
    reservedCostUsd := reserved.reservedCostUsd
    unknownReservedCosts := reserved.unknownReservedCosts
    roles := state.roles.insert .worker { role with
      reservedTokens := role.reservedTokens - binding.grantTokens
      reservedCostUsd := roleReserved.reservedCostUsd
      unknownReservedCosts := roleReserved.unknownReservedCosts
      activeReservations := role.activeReservations - 1 } }

/-- The state charged with a dispatch whose usage is missing. -/
def chargedState (state : LedgerState) (binding : BudgetDispatchBinding) (role : RoleState)
    (costs : RunCosts) : LedgerState :=
  { state with
    active := state.active.erase binding.reservationId
    liveLimits := state.liveLimits.erase binding.reservationId
    liveGrants := state.liveGrants.erase binding.reservationId
    consumedTokens := state.consumedTokens + binding.estimateTokens
    consumedCostUsd := costs.totals.consumed
    reservedTokens := state.reservedTokens - binding.grantTokens
    reservedCostUsd := costs.totals.reserved.reservedCostUsd
    unknownReservedCosts := costs.totals.reserved.unknownReservedCosts
    usageComplete := false
    costComplete := false
    forceStop := true
    persistentReasons := state.persistentReasons.insert .missingProviderUsage
    roles := state.roles.insert .worker (settledRole role binding costs.worker) }

theorem roles_insert_insert (roles : BTreeMap AgentRole RoleState) (role : AgentRole)
    (first second : RoleState) :
    (roles.insert role first).insert role second = roles.insert role second := by
  apply BTreeMap.ext_get
  intro other
  simp only [get_insert]
  split
  · rfl
  · rfl

section Dispatch

variable {binding : BudgetDispatchBinding} {reservation : BudgetReservation} {role : RoleState}

section

variable (dispatched : Dispatched state binding reservation role)

include dispatched

/-- `remove_reservation` for an interrupted dispatch fails only on costs. -/
theorem removeReservation_dispatched {values : BudgetReservation × LedgerState} :
    removeReservation state binding.reservationId = .ok values ↔ ∃ reserved,
      state.costs.totals.reserved.sub reservation.costUsd = .ok reserved ∧ ∃ roleReserved,
      role.costs.reserved.sub reservation.costUsd = .ok roleReserved ∧
      (reservation, removedState state binding role reserved roleReserved) = values := by
  simp only [removeReservation, ok_iff, dispatched.found, dispatched.worker, dispatched.holds,
    dispatched.roleFound, exists_eq_left', exists_eq_left, and_assoc, checkedSubU64_eq_some,
    Option.some.injEq, dispatched.enough, dispatched.roleEnough, dispatched.roleActive, true_and]
  rfl

/-- `apply_charge` for an interrupted dispatch fails only on costs. -/
theorem applyCharge_dispatched (within : state.consumedTokens + state.reservedTokens < 2 ^ 64)
    (hard : ledger.limits.hardTokens.isSome = true) (reserved roleReserved : ReservedCost) :
    applyCharge (removedState state binding role reserved roleReserved) .worker
        (missingCharge reservation) ledger.limits = .ok charged ↔ ∃ consumed,
      checkedCostAdd state.consumedCostUsd (reservation.costUsd.getD 0.0) = .ok consumed ∧
      ∃ roleConsumed,
      checkedCostAdd role.consumedCostUsd (reservation.costUsd.getD 0.0) = .ok roleConsumed ∧
      chargedState state binding role ⟨⟨reserved, consumed⟩, ⟨roleReserved, roleConsumed⟩⟩ =
        charged := by
  have enough := dispatched.enough
  have covers := dispatched.covers
  have consumes := dispatched.consumes
  have enforced :
      uncertaintyAffectsEnforcement ledger.limits (some .missingProviderUsage) = true := by
    simp [uncertaintyAffectsEnforcement, RunBudgetLimits.hasAnyCeiling, hard]
  have inWord : state.consumedTokens + binding.estimateTokens < 2 ^ 64 := by omega
  have roleInWord : role.consumedTokens + binding.estimateTokens < 2 ^ 64 := by omega
  simp only [applyCharge, ok_iff, removedState, missingCharge, dispatched.estimate,
    get_insert, if_true, Option.getD_some, checkedAddU64_eq_some, inWord, roleInWord,
    true_and, exists_eq_left, enforced, Bool.and_false, Bool.and_true, Bool.or_true,
    roles_insert_insert]
  rfl

/-- Without usage, a dispatch is charged when its costs settle. -/
theorem chargeReservation_missing (within : state.consumedTokens + state.reservedTokens < 2 ^ 64)
    (hard : ledger.limits.hardTokens.isSome = true)
    {values : BudgetReservation × ReconciliationCharge × LedgerState} :
    ledger.chargeReservation state binding.reservationId .missing none = .ok values ↔
      (reservation.costUsd.getD 0.0).isFinite = true ∧ ∃ totals worker,
        state.costs.totals.settle reservation.costUsd = .ok totals ∧
        state.costs.worker.settle reservation.costUsd = .ok worker ∧
        values = (reservation, missingCharge reservation,
          chargedState state binding role ⟨totals, worker⟩) := by
  have sameRole : state.costs.worker = role.costs := by
    rw [LedgerState.costs, LedgerState.role, dispatched.roleFound]
    rfl
  have charges : ∀ charge, reconciliationChargeForRuntime reservation .missing none = .ok charge ↔
      (reservation.costUsd.getD 0.0).isFinite = true ∧ charge = missingCharge reservation :=
    fun charge => reconciliationCharge_missing
  have validated : validateMeasurement .missing = .ok () := rfl
  rw [sameRole]
  simp only [chargeReservation, ok_iff, charges, validated, removeReservation_dispatched dispatched,
    dispatched.found, dispatched.worker, Option.some.injEq, exists_eq_left', true_and, and_assoc,
    CostTotals.settle]
  constructor
  · rintro ⟨_, finite, rfl, _, ⟨reserved, subtracts, roleReserved, roleSubtracts, rfl⟩, charged,
      applied, rfl⟩
    obtain ⟨consumed, adds, roleConsumed, roleAdds, rfl⟩ :=
      (applyCharge_dispatched dispatched within hard reserved roleReserved).mp applied
    exact ⟨finite, ⟨reserved, consumed⟩, ⟨roleReserved, roleConsumed⟩,
      ⟨reserved, subtracts, consumed, adds, rfl⟩,
      ⟨roleReserved, roleSubtracts, roleConsumed, roleAdds, rfl⟩, rfl⟩
  · rintro ⟨finite, _, _, ⟨reserved, subtracts, consumed, adds, rfl⟩,
      ⟨roleReserved, roleSubtracts, roleConsumed, roleAdds, rfl⟩, rfl⟩
    exact ⟨_, finite, rfl, _, ⟨reserved, subtracts, roleReserved, roleSubtracts, rfl⟩, _,
      (applyCharge_dispatched dispatched within hard reserved roleReserved).mpr
        ⟨consumed, adds, roleConsumed, roleAdds, rfl⟩, rfl⟩

end

/-- The pricing of a charge without a measurement. -/
def RunBudgetLedger.missingPricing (ledger : RunBudgetLedger) (reservation : BudgetReservation) :
    ChargePricing :=
  ledger.chargePricing reservation .missing (missingCharge reservation) none none

/-- The state after an interrupted dispatch is settled. -/
def RunBudgetLedger.settledState (ledger : RunBudgetLedger) (state : LedgerState)
    (binding : BudgetDispatchBinding) (reservation : BudgetReservation) (role : RoleState)
    (costs : RunCosts) (reasons : List BudgetReason) : LedgerState :=
  recordSettlement (chargedState state binding role costs) reservation binding.reservationId
    (missingCharge reservation) (ledger.missingPricing reservation) reasons

/-- Latching moves no token, cost or binding. -/
theorem latchRolling_eq (state : LedgerState) (reasons : List BudgetReason) :
    ∃ latched forceStop, latchRolling state reasons = { state with
        persistentReasons := latched
        forceStop } ∧
      (∀ reason, reason ∈ latched ↔ reason ∈ state.persistentReasons ∨ reason ∈ reasons) ∧
      (state.forceStop = true → forceStop = true) := by
  unfold latchRolling
  split
  · rename_i none
    refine ⟨state.persistentReasons, state.forceStop, rfl, ?_, fun stopped => stopped⟩
    simp [none]
  · refine ⟨_, _, rfl, ?_, fun _ => rfl⟩
    intro reason
    exact BTreeSet.mem_foldl_insert reasons state.persistentReasons reason

/-- What is moved by the settlement of one interrupted dispatch. -/
structure SettlesOne (state next : LedgerState) (binding : BudgetDispatchBinding)
    (reasons : List BudgetReason) : Prop where
  view : next.tokenView = state.tokenView.settle binding
  bindings : ∀ id : ℕ, next.dispatchBindings[id]? =
    if binding.reservationId = id then state.dispatchBindings[id]?.map settledAtEstimate
    else state.dispatchBindings[id]?
  active : next.active = state.active.erase binding.reservationId
  latched : ∀ reason, reason ∈ next.persistentReasons ↔
    reason ∈ state.persistentReasons ∨ reason = .missingProviderUsage ∨ reason ∈ reasons
  stopped : next.forceStop = true
  incomplete : next.costComplete = false

/-- The role list of a state after the Worker is settled. -/
theorem roles_settled (roleFound : state.roles[AgentRole.worker]? = some role)
    (costs : CostTotals) :
    (state.roles.insert AgentRole.worker (settledRole role binding costs)).toList.map roleTokens =
      (state.roles.toList.map roleTokens).map (RoleTokens.settle binding) := by
  rw [toList_insert_present roleFound, map_map, map_map]
  apply map_congr_left
  rintro ⟨other, held⟩ listed
  by_cases here : other = .worker
  · rw [here, mem_toList, roleFound, Option.some.injEq] at listed
    simp [roleTokens, RoleTokens.settle, settledRole, here, listed]
  · simp [roleTokens, RoleTokens.settle, here]

/-- The settled state moves what one settlement moves. -/
theorem settledState_settles (ledger : RunBudgetLedger)
    (dispatched : Dispatched state binding reservation role) (costs : RunCosts)
    (reasons : List BudgetReason) :
    SettlesOne state (ledger.settledState state binding reservation role costs reasons) binding
        reasons ∧
      (ledger.settledState state binding reservation role costs reasons).costs = costs := by
  obtain ⟨latched, forceStop, same, members, stops⟩ := latchRolling_eq
    { chargedState state binding role costs with
      dispatchBindings := markBinding state.dispatchBindings binding.reservationId
        (settleBinding (missingCharge reservation))
      charges := state.charges ++ [chargeReport reservation binding.reservationId
        (missingCharge reservation) (ledger.missingPricing reservation)] } reasons
  have settled : ledger.settledState state binding reservation role costs reasons = _ := same
  have marks : settleBinding (missingCharge reservation) binding = settledAtEstimate binding := by
    rw [settleBinding, missingCharge, dispatched.estimate]
    rfl
  rw [settled]
  refine ⟨⟨?_, ?_, rfl, ?_, stops rfl, rfl⟩, ?_⟩
  · have count := size_erase dispatched.found
    simp only [LedgerState.tokenView, TokenView.settle, TokenView.mk.injEq]
    refine ⟨rfl, rfl, ?_, roles_settled dispatched.roleFound costs.worker, ?_⟩
    · change (state.active.erase binding.reservationId).size = state.active.size - 1
      omega
    · rw [map_append, ← dispatched.estimate]
      rfl
  · intro id
    rw [markBinding_get]
    split
    · rename_i here
      rw [← here, dispatched.bound, Option.map_some, Option.map_some, marks]
    · rfl
  · intro reason
    rw [members]
    change reason ∈ state.persistentReasons.insert .missingProviderUsage ∨ _ ↔ _
    rw [BTreeSet.mem_insert, eq_comm]
    tauto
  · simp [LedgerState.costs, LedgerState.role, chargedState, RoleState.costs, settledRole]

end Dispatch

/-- What a report says of the state it was made from. -/
structure Reports (ledger : RunBudgetLedger) (environment : Environment) (state : LedgerState)
    (report : RunBudgetReport) (costUsd : Float) : Prop where
  within : state.consumedTokens + state.reservedTokens < 2 ^ 64
  cost : checkedCostAdd state.consumedCostUsd state.reservedCostUsd = .ok costUsd
  limits : report.limits = ledger.limits
  view : report.tokenView = state.tokenView
  bindings : report.dispatchBindings = BTreeMap.values state.dispatchBindings
  committed : report.committed.tokens = state.consumedTokens + state.reservedTokens
  softTokens : report.remaining.softTokens =
    ledger.limits.softTokens.map (· - (state.consumedTokens + state.reservedTokens))
  hardTokens : report.remaining.hardTokens =
    ledger.limits.hardTokens.map (· - (state.consumedTokens + state.reservedTokens))
  allowed : report.newDispatchAllowed =
    dispatchAllowed ledger.limits ledger.maxDurationSeconds state
    (state.consumedTokens + state.reservedTokens) costUsd environment.elapsed
  action : report.action = if report.newDispatchAllowed = false then .ownerEscalation
    else if report.reasons = [] then .continue_ else .degrade
  reasons : report.reasons = (reportReasons ledger.limits ledger.maxDurationSeconds state
    (state.consumedTokens + state.reservedTokens) costUsd environment.elapsed).toList

/-- A report that is made says this of its state. -/
theorem reportForState_ok {environment : Environment}
    (made : ledger.reportForState environment state = .ok report) :
    ∃ costUsd, Reports ledger environment state report costUsd := by
  simp only [reportForState, reportFor, ok_iff, checkedAddU64_eq_some] at made
  obtain ⟨_, ⟨_, ⟨within, rfl⟩, costUsd, cost, _, -, _, -, rfl⟩, rfl⟩ := made
  refine ⟨costUsd, within, cost, rfl, ?_, rfl, rfl, rfl, rfl, rfl, rfl, rfl⟩
  simp only [RunBudgetReport.tokenView, LedgerState.tokenView, map_map, TokenView.mk.injEq,
    true_and, and_true]
  rfl

/-- A report of a state with unknown costs is made when its totals are numbers. -/
theorem reportForState_of_incomplete {environment : Environment}
    (incomplete : state.costComplete = false)
    (within : state.consumedTokens + state.reservedTokens < 2 ^ 64)
    (cost : checkedCostAdd state.consumedCostUsd state.reservedCostUsd = .ok costUsd) :
    ∃ report, ledger.reportForState environment state = .ok report := by
  have unknown : state.committedCostComplete = false := by
    rw [LedgerState.committedCostComplete, incomplete, Bool.false_and]
  have none : ∀ limit, remainingCost state.committedCostComplete limit costUsd = .ok none := by
    intro limit
    rw [unknown]
    rfl
  simp only [reportForState, reportFor, ok_iff, checkedAddU64_eq_some]
  exact ⟨_, _, ⟨_, ⟨within, rfl⟩, costUsd, cost, _, none _, _, none _, rfl⟩, rfl⟩

section Live

variable {binding : BudgetDispatchBinding} {reservation : BudgetReservation} {role : RoleState}
  {environment : Environment}

/-- What the rolling ledger answers to a settlement without a measurement. -/
def RunBudgetLedger.persistMissing (ledger : RunBudgetLedger) (environment : Environment)
    (rolling : Option (AttachedRollingBudget codec)) (reservation : BudgetReservation) :
    Except BudgetError (List BudgetReason) × Option (AttachedRollingBudget codec) :=
  ledger.persistRollingConsumption environment rolling reservation.id (missingCharge reservation)
    none (ledger.missingPricing reservation)

/-- The costs of a run settle when those of its totals and of the Worker do. -/
theorem runCosts_settle_ok {costs settled : RunCosts} {costUsd : Option Float} :
    costs.settle costUsd = .ok settled ↔ (costUsd.getD 0.0).isFinite = true ∧
      costs.totals.settle costUsd = .ok settled.totals ∧
      costs.worker.settle costUsd = .ok settled.worker ∧
      ∃ committed, checkedCostAdd settled.totals.consumed settled.totals.reserved.reservedCostUsd =
        .ok committed := by
  simp only [RunCosts.settle, ok_iff, not_not]
  constructor
  · rintro ⟨finite, totals, settles, worker, workerSettles, committed, adds, rfl⟩
    exact ⟨finite, settles, workerSettles, committed, adds⟩
  · rintro ⟨finite, settles, workerSettles, committed, adds⟩
    exact ⟨finite, _, settles, _, workerSettles, committed, adds, rfl⟩

/-- The committed tokens of a settled state stay a word. -/
theorem settledState_within (ledger : RunBudgetLedger)
    (dispatched : Dispatched state binding reservation role)
    (within : state.consumedTokens + state.reservedTokens < 2 ^ 64) (costs : RunCosts)
    (reasons : List BudgetReason) :
    (ledger.settledState state binding reservation role costs reasons).consumedTokens +
      (ledger.settledState state binding reservation role costs reasons).reservedTokens < 2 ^ 64 := by
  have settles : SettlesOne state
      (ledger.settledState state binding reservation role costs reasons) binding reasons :=
    (settledState_settles ledger dispatched costs reasons).1
  have consumed := congrArg TokenView.consumed settles.view
  have reserved := congrArg TokenView.reserved settles.view
  have enough := dispatched.enough
  have covers := dispatched.covers
  simp only [LedgerState.tokenView, TokenView.settle] at consumed reserved
  omega

/-- A settled state has a report when its committed cost is a number. -/
theorem settledState_reports (dispatched : Dispatched state binding reservation role)
    (within : state.consumedTokens + state.reservedTokens < 2 ^ 64) (costs : RunCosts)
    (reasons : List BudgetReason) :
    (∃ report, ledger.reportForState environment
        (ledger.settledState state binding reservation role costs reasons) = .ok report) ↔
      ∃ committed, checkedCostAdd costs.totals.consumed costs.totals.reserved.reservedCostUsd =
        .ok committed := by
  have inWord := settledState_within ledger dispatched within costs reasons
  have settles := settledState_settles ledger dispatched costs reasons
  generalize ledger.settledState state binding reservation role costs reasons = settled at *
  obtain ⟨settles, rfl⟩ := settles
  constructor
  · rintro ⟨report, made⟩
    obtain ⟨committed, reports⟩ := reportForState_ok made
    exact ⟨committed, reports.cost⟩
  · rintro ⟨committed, adds⟩
    exact reportForState_of_incomplete settles.incomplete inWord adds

variable {budget : SharedBudget codec}

/-- Without usage, a dispatch is settled when its costs settle and the rolling ledger takes it. -/
theorem reconcile_missing {next : SharedBudget codec}
    (dispatched : Dispatched budget.state binding reservation role)
    (named : reservation.id = binding.reservationId)
    (within : budget.state.consumedTokens + budget.state.reservedTokens < 2 ^ 64)
    (hard : ledger.limits.hardTokens.isSome = true) :
    (∃ result, ledger.reconcile environment budget binding.reservationId .missing =
        (.ok result, next)) ↔
      ∃ costs reasons, budget.state.costs.settle reservation.costUsd = .ok costs ∧
        ledger.persistMissing environment budget.rolling reservation = (.ok reasons, next.rolling) ∧
        next.state = ledger.settledState budget.state binding reservation role costs reasons := by
  obtain ⟨nextState, nextRolling⟩ := next
  have priced : ledger.chargePricing reservation .missing (missingCharge reservation) none none =
    ledger.missingPricing reservation := rfl
  unfold reconcile reconcileWithPool persistMissing
  rw [named]
  constructor
  · rintro ⟨result, done⟩
    cases computed : ledger.chargeReservation budget.state binding.reservationId .missing none with
    | error refusal =>
      rw [computed] at done
      cases done
    | ok values =>
      obtain ⟨finite, totals, worker, settles, workerSettles, rfl⟩ :=
        (chargeReservation_missing dispatched within hard).mp computed
      rw [computed] at done
      dsimp only at done
      rw [priced] at done
      cases persisted : ledger.persistRollingConsumption environment budget.rolling
          binding.reservationId (missingCharge reservation) none
          (ledger.missingPricing reservation) with
      | mk outcome rolling =>
        rw [persisted] at done
        cases outcome with
        | error refusal => cases done
        | ok reasons =>
          dsimp only at done
          split at done
          · cases done
          · rename_i report made
            injection done with _ same
            injection same with sameState sameRolling
            refine ⟨⟨totals, worker⟩, reasons, runCosts_settle_ok.mpr
              ⟨finite, settles, workerSettles, ?_⟩, ?_, sameState.symm⟩
            · exact (settledState_reports dispatched within ⟨totals, worker⟩ reasons).mp
                ⟨report, made⟩
            · rw [sameRolling]
  · rintro ⟨costs, reasons, settled, persisted, rfl⟩
    obtain ⟨finite, settles, workerSettles, committed⟩ := runCosts_settle_ok.mp settled
    obtain ⟨report, made⟩ : ∃ report, ledger.reportForState environment
        (ledger.settledState budget.state binding reservation role costs reasons) = .ok report :=
      (settledState_reports dispatched within costs reasons).mpr committed
    rw [settledState] at made
    rw [(chargeReservation_missing dispatched within hard).mpr
      ⟨finite, costs.totals, costs.worker, settles, workerSettles, rfl⟩]
    dsimp only
    rw [priced, persisted]
    dsimp only
    rw [made]
    exact ⟨_, rfl⟩

/-- `reconcile` without a measurement on one interrupted dispatch after another. -/
def RunBudgetLedger.settleEach (ledger : RunBudgetLedger) (environments : ℕ → Environment) :
    SharedBudget codec → List BudgetDispatchBinding → Except BudgetError (SharedBudget codec)
  | budget, [] => .ok budget
  | budget, binding :: rest =>
    match ledger.reconcile (environments binding.reservationId) budget binding.reservationId
        .missing with
    | (.ok _, next) => ledger.settleEach environments next rest
    | (.error refusal, _) => .error refusal

/-- The costs of the run after one interrupted reservation after another. -/
def settleCosts (costs : RunCosts) (reservations : List BudgetReservation) :
    Except BudgetError RunCosts :=
  reservations.foldlM (fun costs reservation => costs.settle reservation.costUsd) costs

/-- The answers of the rolling ledger to one interrupted reservation after another. -/
def RunBudgetLedger.settleRolling (ledger : RunBudgetLedger) (environments : ℕ → Environment) :
    Option (AttachedRollingBudget codec) → List BudgetReservation →
      Except BudgetError (List BudgetReason)
  | _, [] => .ok []
  | rolling, reservation :: rest =>
    match ledger.persistMissing (environments reservation.id) rolling reservation with
    | (.ok reasons, next) => do
      let later ← ledger.settleRolling environments next rest
      pure (reasons ++ later)
    | (.error refusal, _) => .error refusal

/-- What is moved by the settlement of several interrupted dispatches. -/
structure SettlesAll (state next : LedgerState) (pending : List BudgetDispatchBinding)
    (reasons : List BudgetReason) : Prop where
  view : next.tokenView = pending.foldl TokenView.settle state.tokenView
  bindings : ∀ id : ℕ, next.dispatchBindings[id]? =
    if id ∈ pending.map reservationId then
      state.dispatchBindings[id]?.map settledAtEstimate
    else state.dispatchBindings[id]?
  latched : ∀ reason, reason ∈ next.persistentReasons ↔ reason ∈ state.persistentReasons ∨
    (pending ≠ [] ∧ reason = .missingProviderUsage) ∨ reason ∈ reasons
  stopped : pending ≠ [] → next.forceStop = true ∧ next.costComplete = false
  unmoved : pending = [] → next = state

theorem SettlesAll.nil (state : LedgerState) : SettlesAll state state [] [] := by
  refine ⟨rfl, ?_, ?_, fun some => absurd rfl some, fun _ => rfl⟩
  · simp
  · simp

variable {next : LedgerState} {reasons : List BudgetReason}

/-- One settlement before the others. -/
theorem SettlesAll.cons {last : LedgerState} {rest : List BudgetDispatchBinding}
    {later : List BudgetReason} (one : SettlesOne state next binding reasons)
    (others : SettlesAll next last rest later)
    (apart : binding.reservationId ∉ rest.map reservationId) :
    SettlesAll state last (binding :: rest) (reasons ++ later) := by
  refine ⟨?_, ?_, ?_, ?_, fun empty => by cases empty⟩
  · rw [others.view, one.view, foldl_cons]
  · intro id
    rw [others.bindings, one.bindings, map_cons]
    by_cases here : binding.reservationId = id
    · rw [← here, if_neg apart, if_pos rfl, if_pos mem_cons_self]
    · rw [if_neg here]
      by_cases listed : id ∈ rest.map reservationId
      · rw [if_pos listed, if_pos (mem_cons_of_mem _ listed)]
      · rw [if_neg listed, if_neg]
        rw [mem_cons]
        rintro (same | later)
        · exact here same.symm
        · exact listed later
  · intro reason
    rw [others.latched, one.latched, mem_append]
    have nonempty : binding :: rest ≠ [] := cons_ne_nil binding rest
    tauto
  · intro _
    by_cases empty : rest = []
    · rw [others.unmoved empty]
      exact ⟨one.stopped, one.incomplete⟩
    · exact others.stopped empty

/-- The totals of a state fit a report. -/
structure Reportable (state : LedgerState) : Prop where
  within : state.consumedTokens + state.reservedTokens < 2 ^ 64
  cost : ∃ committed, checkedCostAdd state.consumedCostUsd state.reservedCostUsd = .ok committed

/-- The bindings are interrupted dispatches of Workers. -/
structure Interrupted (state : LedgerState) (pending : List BudgetDispatchBinding) : Prop where
  bound : ∀ binding ∈ pending, state.dispatchBindings[binding.reservationId]? = some binding
  admitted : ∀ binding ∈ pending, binding.state = .admitted
  worker : ∀ binding ∈ pending, ∀ reservation,
    state.active[binding.reservationId]? = some reservation → reservation.role = .worker
  apart : (pending.map reservationId).Nodup

/-- Each of them holds its reservation. -/
theorem Interrupted.dispatched {pending : List BudgetDispatchBinding}
    (interrupted : Interrupted state pending) (accounted : Accounted state) (bound : Bound state)
    (listed : binding ∈ pending) :
    ∃ reservation role, Dispatched state binding reservation role ∧
      interruptedReservation state.active binding = reservation ∧
      reservation.id = binding.reservationId := by
  obtain ⟨reservation, role, dispatched⟩ := dispatched_of_bound accounted bound
    (interrupted.bound binding listed) (interrupted.admitted binding listed)
    (interrupted.worker binding listed)
  refine ⟨reservation, role, dispatched, ?_, (accounted.named _ _ dispatched.found).1⟩
  rw [interruptedReservation, dispatched.found]
  rfl

section

variable {others : List BudgetDispatchBinding} (pending : Interrupted state (binding :: others))
  (settles : SettlesOne state next binding reasons)

include pending

theorem Interrupted.different : ∀ other ∈ others, binding.reservationId ≠ other.reservationId :=
  fun other listed same =>
    (nodup_cons.mp pending.apart).1 (mem_map.mpr ⟨other, listed, same.symm⟩)

include settles

/-- The others stay interrupted when one dispatch is settled. -/
theorem Interrupted.rest : Interrupted next others := by
  refine ⟨fun other listed => ?_, fun other listed =>
    pending.admitted other (mem_cons_of_mem _ listed), fun other listed held active => ?_,
    (nodup_cons.mp pending.apart).2⟩
  · rw [settles.bindings, if_neg (pending.different other listed)]
    exact pending.bound other (mem_cons_of_mem _ listed)
  · rw [settles.active, get_erase, if_neg (pending.different other listed)] at active
    exact pending.worker other (mem_cons_of_mem _ listed) held active

/-- The others keep their reservations when one dispatch is settled. -/
theorem Interrupted.reservations :
    others.map (interruptedReservation next.active) =
      others.map (interruptedReservation state.active) := by
  apply map_congr_left
  intro other listed
  rw [interruptedReservation, interruptedReservation, settles.active, get_erase,
    if_neg (pending.different other listed)]

end

/-- What one settlement leaves for the others. -/
theorem reconcile_settles {next : SharedBudget codec} {result : BudgetReconciliation}
    (accounted : Accounted budget.state) (bound : Bound budget.state)
    (reportable : Reportable budget.state) (hard : ledger.limits.hardTokens.isSome = true)
    (dispatched : Dispatched budget.state binding reservation role)
    (done : ledger.reconcile environment budget binding.reservationId .missing =
      (.ok result, next)) :
    Accounted next.state ∧ Bound next.state ∧ Reportable next.state ∧ ∃ reasons,
      budget.state.costs.settle reservation.costUsd = .ok next.state.costs ∧
      ledger.persistMissing environment budget.rolling reservation = (.ok reasons, next.rolling) ∧
      SettlesOne budget.state next.state binding reasons := by
  have moves : Moves ledger environment budget
      (.reconcileWithPool binding.reservationId .missing none none none)
      (ledger.reconcile environment budget binding.reservationId .missing).2.state :=
    perform_moves budget _
  rw [done] at moves
  have named := (accounted.named _ _ dispatched.found).1
  obtain ⟨costs, reasons, settled, persisted, same⟩ :=
    (reconcile_missing dispatched named reportable.within hard).mp ⟨result, done⟩
  have inWord := settledState_within ledger dispatched reportable.within costs reasons
  obtain ⟨settles, sameCosts⟩ := settledState_settles ledger dispatched costs reasons
  rw [← same] at inWord settles sameCosts
  obtain ⟨-, -, -, committed⟩ := runCosts_settle_ok.mp settled
  rw [← sameCosts] at committed settled
  exact ⟨accounted.moves moves, bound.moves moves, ⟨inWord, committed⟩, reasons, settled, persisted,
    settles⟩

/-- What settling the dispatches comes to. -/
structure SettlesRun (ledger : RunBudgetLedger) (environments : ℕ → Environment)
    (budget next : SharedBudget codec) (pending : List BudgetDispatchBinding)
    (reasons : List BudgetReason) : Prop where
  costs : ∃ costs, settleCosts budget.state.costs
    (pending.map (interruptedReservation budget.state.active)) = .ok costs
  rolling : ledger.settleRolling environments budget.rolling
    (pending.map (interruptedReservation budget.state.active)) = .ok reasons
  settles : SettlesAll budget.state next.state pending reasons
  reportable : Reportable next.state

variable {pending : List BudgetDispatchBinding}
  (accounted : Accounted budget.state) (bound : Bound budget.state)
  (reportable : Reportable budget.state) (hard : ledger.limits.hardTokens.isSome = true)
  (interrupted : Interrupted budget.state pending)

include accounted bound reportable hard interrupted

/-- The interrupted dispatches are settled one after another exactly when their costs settle and the
rolling ledger takes every settlement. -/
theorem settleEach_cases (environments : ℕ → Environment) :
    (∃ last reasons, ledger.settleEach environments budget pending = .ok last ∧
      SettlesRun ledger environments budget last pending reasons) ∨
    ∃ refusal, ledger.settleEach environments budget pending = .error refusal ∧
      ((∃ other, settleCosts budget.state.costs
        (pending.map (interruptedReservation budget.state.active)) = .error other) ∨
      ∃ other, ledger.settleRolling environments budget.rolling
        (pending.map (interruptedReservation budget.state.active)) = .error other) := by
  induction pending generalizing budget with
  | nil => exact .inl ⟨budget, [], rfl, ⟨_, rfl⟩, rfl, .nil _, reportable⟩
  | cons binding rest ih =>
    obtain ⟨reservation, role, dispatched, first, named⟩ :=
      interrupted.dispatched accounted bound mem_cons_self
    rw [map_cons, first, settleCosts, foldlM_cons]
    unfold settleEach settleRolling
    rw [named]
    cases step : ledger.reconcile (environments binding.reservationId) budget
        binding.reservationId .missing with
    | mk outcome next =>
      cases outcome with
      | ok result =>
        obtain ⟨accounted', bound', reportable', reasons, settled, persisted, settles⟩ :=
          reconcile_settles accounted bound reportable hard dispatched step
        rw [settled, persisted, ← interrupted.reservations settles]
        obtain ⟨last, later, done, run⟩ | ⟨refusal, failed, costs | ⟨other, rolling⟩⟩ :=
          ih accounted' bound' reportable' (interrupted.rest settles)
        · refine .inl ⟨last, reasons ++ later, done, ?_, ?_,
            .cons settles run.settles (nodup_cons.mp interrupted.apart).1, run.reportable⟩
          · rw [map_cons, first, settleCosts, foldlM_cons, settled,
              ← interrupted.reservations settles]
            exact run.costs
          · rw [map_cons, first, settleRolling, named, persisted,
              ← interrupted.reservations settles]
            dsimp only
            rw [run.rolling]
            rfl
        · exact .inr ⟨refusal, failed, .inl costs⟩
        · refine .inr ⟨refusal, failed, .inr ⟨other, ?_⟩⟩
          dsimp only
          rw [rolling]
          rfl
      | error refusal =>
        refine .inr ⟨refusal, rfl, ?_⟩
        cases settles : budget.state.costs.settle reservation.costUsd with
        | error other => exact .inl ⟨other, rfl⟩
        | ok settled =>
          cases persisted : ledger.persistMissing (environments binding.reservationId)
              budget.rolling reservation with
          | mk outcome rolling =>
            cases outcome with
            | error other => exact .inr ⟨other, rfl⟩
            | ok answers =>
              have again := (reconcile_missing dispatched named reportable.within hard).mpr
                ⟨settled, answers, settles, persisted, Eq.refl (SharedBudget.state ⟨_, rolling⟩)⟩
              rw [step] at again
              obtain ⟨_, again⟩ := again
              cases again

end Live

end Maco.RunBudget
