import Maco.RollingBudget.Usage

/-!
# The run budget: limits, reservations and the ledger state

The accounting of one supervise run. A reservation is admitted before dispatch, may be given a live
token grant above its estimate, and is settled by a charge or released. The state keeps totals and
totals per role beside the reservations themselves, and latches the reasons for which it stopped.
-/

namespace Maco.RunBudget

open Maco.Base Maco.RollingBudget

inductive AgentRole where
  | supervisor
  | childOrchestrator
  | worker
  | researcher
  | gateClassifier
  | auditor
deriving DecidableEq, Repr

/-- The position of a role in its declaration, which orders roles. -/
def AgentRole.position : AgentRole → ℕ
  | .supervisor => 0
  | .childOrchestrator => 1
  | .worker => 2
  | .researcher => 3
  | .gateClassifier => 4
  | .auditor => 5

instance : LinearOrder AgentRole :=
  LinearOrder.lift' AgentRole.position fun left right same => by
    cases left <;> cases right <;> first | rfl | cases same

inductive BudgetReason where
  | softTokenCeilingReached
  | hardTokenCeilingReached
  | liveTokenGrantExhausted
  | softCostCeilingReached
  | hardCostCeilingReached
  | maxDurationReached
  | missingPricing
  | estimatedProviderUsage
  | missingProviderUsage
  | missingActualCost
deriving DecidableEq, Repr

/-- The position of a reason in its declaration, which orders reasons. -/
def BudgetReason.position : BudgetReason → ℕ
  | .softTokenCeilingReached => 0
  | .hardTokenCeilingReached => 1
  | .liveTokenGrantExhausted => 2
  | .softCostCeilingReached => 3
  | .hardCostCeilingReached => 4
  | .maxDurationReached => 5
  | .missingPricing => 6
  | .estimatedProviderUsage => 7
  | .missingProviderUsage => 8
  | .missingActualCost => 9

instance : LinearOrder BudgetReason :=
  LinearOrder.lift' BudgetReason.position fun left right same => by
    cases left <;> cases right <;> first | rfl | cases same

/-- `BudgetError`, as far as the accounting raises it. -/
inductive BudgetError where
  | emptyReservation
  | invalidReservationCost
  | invalidUsageCost
  | reservationIdExhausted
  | unknownReservation (id : ℕ)
  | tokenOverflow
  | costOverflow
  | inconsistentState
  | rollingLedgerUnavailable (detail : String)
deriving DecidableEq, Repr

/-- `RunBudgetLimits`. Soft ceilings are advisory, hard ceilings gate admission. -/
structure RunBudgetLimits where
  softTokens : Option ℕ
  hardTokens : Option ℕ
  softCostUsd : Option Float
  hardCostUsd : Option Float
deriving DecidableEq, Repr

/-- `has_cost_ceiling`. -/
def RunBudgetLimits.hasCostCeiling (limits : RunBudgetLimits) : Bool :=
  limits.softCostUsd.isSome || limits.hardCostUsd.isSome

/-- `has_any_ceiling`. -/
def RunBudgetLimits.hasAnyCeiling (limits : RunBudgetLimits) : Bool :=
  limits.softTokens.isSome || limits.hardTokens.isSome || limits.softCostUsd.isSome ||
    limits.hardCostUsd.isSome

/-- `checked_cost_add`. -/
def checkedCostAdd (left right : Float) : Except BudgetError Float :=
  let total := left + right
  if total.isFinite then .ok total else .error .costOverflow

/-- `cost_tolerance`. -/
def costTolerance (left right : Float) : Float :=
  f64Epsilon * f64Max left.abs right.abs * 8.0

/-- `cost_exceeds`. -/
def costExceeds (value limit : Float) : Bool := decide (costTolerance value limit < value - limit)

/-- `cost_reaches`. -/
def costReaches (value limit : Float) : Bool := !costExceeds limit value

/-- `checked_cost_sub`. -/
def checkedCostSub (total amount : Float) : Except BudgetError Float :=
  let remaining := total - amount
  if remaining.isFinite = false then .error .costOverflow
  else if remaining < -costTolerance total amount then .error .inconsistentState
  else .ok (f64Max remaining 0.0)

/-- `cost_remaining`. -/
def costRemaining (limit committed : Float) : Except BudgetError Float :=
  if costReaches committed limit then .ok 0.0 else checkedCostSub limit committed

structure BudgetReservationRequest where
  role : AgentRole
  tokens : ℕ
  costUsd : Option Float
deriving DecidableEq, Repr

structure BudgetReservation where
  id : ℕ
  role : AgentRole
  tokens : ℕ
  costUsd : Option Float
deriving DecidableEq, Repr

structure BudgetAmount where
  tokens : ℕ
  costUsd : Option Float
deriving DecidableEq, Repr

inductive BudgetAccountIdentity where
  | selected (authorityId providerId accountId accountIncarnation : String)
      (selectionRevision : ℕ)
  | localAuth
  | unspecified
deriving DecidableEq, Repr

structure BudgetDispatchInvocation where
  runId : String
  assignmentId : String
  parentId : Option String
  attempt : ℕ
  runtime : String
  account : BudgetAccountIdentity
  commandSha256 : String
deriving DecidableEq, Repr

inductive BudgetDispatchState where
  | admitted
  | settled
  | notStarted
deriving DecidableEq, Repr

structure BudgetDispatchBinding where
  version : ℕ
  reservationId : ℕ
  grantId : String
  grantTokens : ℕ
  estimateTokens : ℕ
  invocation : BudgetDispatchInvocation
  consumedBefore : ℕ
  reservedAtAdmission : ℕ
  activeAtAdmission : ℕ
  hardTokens : ℕ
  state : BudgetDispatchState
  threadId : Option String
  turnId : Option String
  invocationVerified : Bool
  chargedTokens : Option ℕ
  usageComplete : Option Bool
deriving DecidableEq, Repr

structure BudgetChargeReport where
  reservationId : ℕ
  role : AgentRole
  tokens : ℕ
  costUsd : Option Float
  usageComplete : Bool
  pricing : ChargePricing
deriving DecidableEq, Repr

inductive UsageMeasurement where
  | reliable (tokens : ℕ) (costUsd : Option Float)
  | estimated (tokens : ℕ) (costUsd : Option Float)
  | missing
deriving DecidableEq, Repr

/-- The cost a measurement observed. -/
def UsageMeasurement.costUsd : UsageMeasurement → Option Float
  | .reliable _ costUsd | .estimated _ costUsd => costUsd
  | .missing => none

structure RoleState where
  consumedTokens : ℕ
  consumedCostUsd : Float
  reservedTokens : ℕ
  reservedCostUsd : Float
  unknownReservedCosts : ℕ
  activeReservations : ℕ
  usageComplete : Bool
  costComplete : Bool
deriving DecidableEq, Repr

/-- `RoleState::default`. -/
def RoleState.default : RoleState := ⟨0, 0.0, 0, 0.0, 0, 0, true, true⟩

structure LedgerState where
  charges : List BudgetChargeReport
  dispatchBindings : BTreeMap ℕ BudgetDispatchBinding
  durableDispatches : BTreeSet ℕ
  nextReservationId : ℕ
  active : BTreeMap ℕ BudgetReservation
  liveGrants : BTreeMap ℕ ℕ
  liveLimits : BTreeMap ℕ ℕ
  consumedTokens : ℕ
  consumedCostUsd : Float
  reservedTokens : ℕ
  reservedCostUsd : Float
  unknownReservedCosts : ℕ
  usageComplete : Bool
  costComplete : Bool
  forceStop : Bool
  persistentReasons : BTreeSet BudgetReason
  roles : BTreeMap AgentRole RoleState

/-- `LedgerState::default`. -/
def LedgerState.default : LedgerState where
  charges := []
  dispatchBindings := ∅
  durableDispatches := ∅
  nextReservationId := 1
  active := ∅
  liveGrants := ∅
  liveLimits := ∅
  consumedTokens := 0
  consumedCostUsd := 0.0
  reservedTokens := 0
  reservedCostUsd := 0.0
  unknownReservedCosts := 0
  usageComplete := true
  costComplete := true
  forceStop := false
  persistentReasons := ∅
  roles := ∅

variable (state : LedgerState)

/-- Latch a stop for a reason. -/
def LedgerState.stop (reason : BudgetReason) : LedgerState :=
  { state with forceStop := true, persistentReasons := state.persistentReasons.insert reason }

/-- `validate_reservation_request`. -/
def validateReservationRequest (request : BudgetReservationRequest) : Except BudgetError Unit := do
  refuseIf (request.tokens = 0) .emptyReservation
  refuseIf (costInvalid request.costUsd = true) .invalidReservationCost

/-- `validate_measurement`. -/
def validateMeasurement (measurement : UsageMeasurement) : Except BudgetError Unit :=
  refuseIf (costInvalid measurement.costUsd = true) .invalidUsageCost

/-- The cost fields of the ledger and of a role, which a reservation moves in the same way. -/
structure ReservedCost where
  reservedCostUsd : Float
  unknownReservedCosts : ℕ

/-- The cost fields after a reservation is added. -/
def ReservedCost.add (held : ReservedCost) (costUsd : Option Float) :
    Except BudgetError ReservedCost :=
  match costUsd with
  | some cost => do
    let total ← checkedCostAdd held.reservedCostUsd cost
    pure { held with reservedCostUsd := total }
  | none => do
    let unknown ← require (checkedAddU64 held.unknownReservedCosts 1) .tokenOverflow
    pure { held with unknownReservedCosts := unknown }

/-- The cost fields after a reservation is removed. -/
def ReservedCost.sub (held : ReservedCost) (costUsd : Option Float) :
    Except BudgetError ReservedCost :=
  match costUsd with
  | some cost => do
    let total ← checkedCostSub held.reservedCostUsd cost
    pure { held with reservedCostUsd := total }
  | none => do
    let unknown ← require (checkedSubU64 held.unknownReservedCosts 1) .inconsistentState
    pure { held with unknownReservedCosts := unknown }

/-- `add_reservation`. -/
def addReservation (reservation : BudgetReservation) : Except BudgetError LedgerState := do
  let reservedTokens ← require (checkedAddU64 state.reservedTokens reservation.tokens)
    .tokenOverflow
  let cost ← ReservedCost.add ⟨state.reservedCostUsd, state.unknownReservedCosts⟩
    reservation.costUsd
  let role := (state.roles[reservation.role]?).getD RoleState.default
  let roleTokens ← require (checkedAddU64 role.reservedTokens reservation.tokens) .tokenOverflow
  let roleCost ← ReservedCost.add ⟨role.reservedCostUsd, role.unknownReservedCosts⟩
    reservation.costUsd
  let roleActive ← require (checkedAddU64 role.activeReservations 1) .tokenOverflow
  refuseIf (state.active.contains reservation.id = true) .inconsistentState
  pure { state with
    reservedTokens
    reservedCostUsd := cost.reservedCostUsd
    unknownReservedCosts := cost.unknownReservedCosts
    persistentReasons :=
      if reservation.costUsd.isNone then state.persistentReasons.insert .missingPricing
      else state.persistentReasons
    roles := state.roles.insert reservation.role { role with
      reservedTokens := roleTokens
      reservedCostUsd := roleCost.reservedCostUsd
      unknownReservedCosts := roleCost.unknownReservedCosts
      activeReservations := roleActive }
    active := state.active.insert reservation.id reservation }

/-- The tokens a reservation holds: its live grant, or its estimate. -/
def LedgerState.heldTokens (id : ℕ) (reservation : BudgetReservation) : ℕ :=
  (state.liveGrants[id]?).getD reservation.tokens

/-- `remove_reservation`. -/
def removeReservation (id : ℕ) : Except BudgetError (BudgetReservation × LedgerState) := do
  let reservation ← require (state.active[id]?) (.unknownReservation id)
  let heldTokens := state.heldTokens id reservation
  let reservedTokens ← require (checkedSubU64 state.reservedTokens heldTokens) .inconsistentState
  let cost ← ReservedCost.sub ⟨state.reservedCostUsd, state.unknownReservedCosts⟩
    reservation.costUsd
  let role ← require (state.roles[reservation.role]?) .inconsistentState
  let roleTokens ← require (checkedSubU64 role.reservedTokens heldTokens) .inconsistentState
  let roleCost ← ReservedCost.sub ⟨role.reservedCostUsd, role.unknownReservedCosts⟩
    reservation.costUsd
  let roleActive ← require (checkedSubU64 role.activeReservations 1) .inconsistentState
  pure (reservation, { state with
    active := state.active.erase id
    liveLimits := state.liveLimits.erase id
    liveGrants := state.liveGrants.erase id
    reservedTokens
    reservedCostUsd := cost.reservedCostUsd
    unknownReservedCosts := cost.unknownReservedCosts
    roles := state.roles.insert reservation.role { role with
      reservedTokens := roleTokens
      reservedCostUsd := roleCost.reservedCostUsd
      unknownReservedCosts := roleCost.unknownReservedCosts
      activeReservations := roleActive } })

structure ReconciliationCharge where
  tokens : ℕ
  costUsd : Float
  usageComplete : Bool
  costComplete : Bool
  reason : Option BudgetReason
  stopForUncertainty : Bool

/-- `is_fake_backed_runtime`. -/
def isFakeBackedRuntime (runtime : Option String) : Bool := runtime.any fun name => name == "fake"

/-- `conservative_cost`. -/
def conservativeCost (observed reserved : Option Float) : Float :=
  match observed, reserved with
  | some observed, some reserved => f64Max observed reserved
  | some observed, none => observed
  | none, some reserved => reserved
  | none, none => 0.0

/-- `observed_cost_or_reserved`. -/
def observedCostOrReserved (observed reserved : Option Float) : Float :=
  match observed, reserved with
  | some observed, _ => observed
  | none, some reserved => reserved
  | none, none => 0.0

/-- `reconciliation_charge`. -/
def reconciliationCharge (reservation : BudgetReservation) (measurement : UsageMeasurement) :
    Except BudgetError ReconciliationCharge :=
  let charge : ReconciliationCharge :=
    match measurement with
    | .reliable tokens costUsd =>
      { tokens
        costUsd := observedCostOrReserved costUsd reservation.costUsd
        usageComplete := true
        costComplete := costUsd.isSome
        reason := if costUsd.isNone then some .missingActualCost else none
        stopForUncertainty := costUsd.isNone }
    | .estimated tokens costUsd =>
      { tokens := max tokens reservation.tokens
        costUsd := conservativeCost costUsd reservation.costUsd
        usageComplete := false
        costComplete := false
        reason := some .estimatedProviderUsage
        stopForUncertainty := true }
    | .missing =>
      { tokens := reservation.tokens
        costUsd := reservation.costUsd.getD 0.0
        usageComplete := false
        costComplete := false
        reason := some .missingProviderUsage
        stopForUncertainty := true }
  if charge.costUsd.isFinite then .ok charge else .error .costOverflow

/-- `reconciliation_charge_for_runtime`. -/
def reconciliationChargeForRuntime (reservation : BudgetReservation)
    (measurement : UsageMeasurement) (runtime : Option String) :
    Except BudgetError ReconciliationCharge :=
  if measurement = .missing ∧ isFakeBackedRuntime runtime = true then
    .ok
      { tokens := reservation.tokens
        costUsd := observedCostOrReserved none reservation.costUsd
        usageComplete := true
        costComplete := reservation.costUsd.isSome
        reason := none
        stopForUncertainty := false }
  else reconciliationCharge reservation measurement

/-- Uncertain usage stops the run when a ceiling depends on it. -/
def uncertaintyAffectsEnforcement (limits : RunBudgetLimits) (reason : Option BudgetReason) :
    Bool :=
  match reason with
  | some .missingActualCost => limits.hasCostCeiling
  | some .estimatedProviderUsage | some .missingProviderUsage => limits.hasAnyCeiling
  | _ => false

/-- `apply_charge`. -/
def applyCharge (role : AgentRole) (charge : ReconciliationCharge) (limits : RunBudgetLimits) :
    Except BudgetError LedgerState := do
  let consumedTokens ← require (checkedAddU64 state.consumedTokens charge.tokens) .tokenOverflow
  let consumedCostUsd ← checkedCostAdd state.consumedCostUsd charge.costUsd
  let held := (state.roles[role]?).getD RoleState.default
  let roleTokens ← require (checkedAddU64 held.consumedTokens charge.tokens) .tokenOverflow
  let roleCost ← checkedCostAdd held.consumedCostUsd charge.costUsd
  pure { state with
    consumedTokens
    consumedCostUsd
    usageComplete := state.usageComplete && charge.usageComplete
    costComplete := state.costComplete && charge.costComplete
    persistentReasons :=
      match charge.reason with
      | some reason => state.persistentReasons.insert reason
      | none => state.persistentReasons
    forceStop := state.forceStop ||
      (charge.stopForUncertainty && uncertaintyAffectsEnforcement limits charge.reason)
    roles := state.roles.insert role { held with
      consumedTokens := roleTokens
      consumedCostUsd := roleCost
      usageComplete := held.usageComplete && charge.usageComplete
      costComplete := held.costComplete && charge.costComplete } }

end Maco.RunBudget
