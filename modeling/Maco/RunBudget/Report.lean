import Maco.RunBudget.State

/-!
# The public report and its recovery

The report flattens the ledger state for the run's artifacts: totals, remaining budget, roles,
charges and dispatch bindings, with the reasons for which a ceiling is reached or was latched. After
a crash only the report is left, and the interrupted dispatches are settled on it, at the floor that
missing usage has in ordinary settlement.
-/

namespace Maco.RunBudget

open Maco.Base Maco.RollingBudget

structure BudgetRemaining where
  softTokens : Option ℕ
  hardTokens : Option ℕ
  softCostUsd : Option Float
  hardCostUsd : Option Float
  maxDurationSeconds : Option ℕ
deriving DecidableEq, Repr

inductive BudgetAction where
  | continue_
  | degrade
  | ownerEscalation
deriving DecidableEq, Repr

structure RoleBudgetReport where
  role : AgentRole
  consumed : BudgetAmount
  reserved : BudgetAmount
  activeReservations : ℕ
  usageComplete : Bool
deriving DecidableEq, Repr

structure RunBudgetSource where
  limits : RunBudgetLimits
  maxDurationSeconds : Option ℕ
deriving DecidableEq, Repr

structure RunBudgetSources where
  plan : RunBudgetSource
  cli : RunBudgetSource
deriving DecidableEq, Repr

structure RunBudgetReport where
  pricingContract : Option PricingContractProvenance
  charges : List BudgetChargeReport
  dispatchBindings : List BudgetDispatchBinding
  costComplete : Bool
  limits : RunBudgetLimits
  maxDurationSeconds : Option ℕ
  sources : Option RunBudgetSources
  consumed : BudgetAmount
  reserved : BudgetAmount
  committed : BudgetAmount
  remaining : BudgetRemaining
  elapsedSeconds : ℕ
  roles : List RoleBudgetReport
  activeReservations : ℕ
  usageComplete : Bool
  action : BudgetAction
  newDispatchAllowed : Bool
  reasons : List BudgetReason
deriving DecidableEq, Repr

/-- A reason joins a set when its condition holds. -/
def insertReasonIf (condition : Bool) (reason : BudgetReason) (reasons : BTreeSet BudgetReason) :
    BTreeSet BudgetReason :=
  if condition then reasons.insert reason else reasons

/-- The nanoseconds of a second. -/
def nanosPerSecond : ℕ := 1000000000

/-- A ceiling on tokens is reached. -/
def tokensReached (limit : Option ℕ) (committed : ℕ) : Bool :=
  limit.any fun limit => decide (limit ≤ committed)

/-- A ceiling on cost is reached. -/
def costReached (limit : Option Float) (committed : Float) : Bool :=
  limit.any fun limit => costReaches committed limit

/-- The remaining cost below a ceiling, when the committed cost is known. -/
def remainingCost (complete : Bool) (limit : Option Float) (committed : Float) :
    Except BudgetError (Option Float) :=
  match complete, limit with
  | true, some limit => (costRemaining limit committed).map some
  | _, _ => .ok none

/-- The report of one role. -/
def roleReport (role : AgentRole) (state : RoleState) : RoleBudgetReport where
  role
  consumed :=
    { tokens := state.consumedTokens
      costUsd := if state.costComplete then some state.consumedCostUsd else none }
  reserved :=
    { tokens := state.reservedTokens
      costUsd := if state.unknownReservedCosts = 0 then some state.reservedCostUsd else none }
  activeReservations := state.activeReservations
  usageComplete := state.usageComplete

/-- The committed cost of a state is known. -/
def LedgerState.committedCostComplete (state : LedgerState) : Bool :=
  state.costComplete && decide (state.unknownReservedCosts = 0)

/-- The reasons a report of the state gives. -/
def reportReasons (limits : RunBudgetLimits) (maxDurationSeconds : Option ℕ) (state : LedgerState)
    (committedTokens : ℕ) (committedCostUsd : Float) (elapsed : ℕ) : BTreeSet BudgetReason :=
  let complete := state.committedCostComplete
  insertReasonIf (maxDurationSeconds.any fun limit => decide (limit * nanosPerSecond ≤ elapsed))
    .maxDurationReached
    (insertReasonIf (complete && costReached limits.hardCostUsd committedCostUsd)
      .hardCostCeilingReached
      (insertReasonIf (complete && costReached limits.softCostUsd committedCostUsd)
        .softCostCeilingReached
        (insertReasonIf (tokensReached limits.hardTokens committedTokens) .hardTokenCeilingReached
          (insertReasonIf (tokensReached limits.softTokens committedTokens)
            .softTokenCeilingReached state.persistentReasons))))

/-- New dispatch is allowed in the state. -/
def dispatchAllowed (limits : RunBudgetLimits) (maxDurationSeconds : Option ℕ)
    (state : LedgerState) (committedTokens : ℕ) (committedCostUsd : Float) (elapsed : ℕ) : Bool :=
  let complete := state.committedCostComplete
  !state.forceStop && !tokensReached limits.hardTokens committedTokens &&
    !(complete && costReached limits.hardCostUsd committedCostUsd) &&
    !(maxDurationSeconds.any fun limit => decide (limit * nanosPerSecond ≤ elapsed)) &&
    !(limits.hasCostCeiling && !complete)

/-- `report_for`, with the elapsed time in nanoseconds. -/
def reportFor (limits : RunBudgetLimits) (maxDurationSeconds : Option ℕ)
    (sources : Option RunBudgetSources) (state : LedgerState) (elapsed : ℕ) :
    Except BudgetError RunBudgetReport := do
  let committedTokens ← require (checkedAddU64 state.consumedTokens state.reservedTokens)
    .tokenOverflow
  let complete := state.committedCostComplete
  let committedCostUsd ← checkedCostAdd state.consumedCostUsd state.reservedCostUsd
  let reasons := reportReasons limits maxDurationSeconds state committedTokens committedCostUsd
    elapsed
  let allowed := dispatchAllowed limits maxDurationSeconds state committedTokens committedCostUsd
    elapsed
  let remainingSoftCost ← remainingCost complete limits.softCostUsd committedCostUsd
  let remainingHardCost ← remainingCost complete limits.hardCostUsd committedCostUsd
  pure
    { pricingContract := none
      charges := state.charges
      dispatchBindings := BTreeMap.values state.dispatchBindings
      costComplete := state.costComplete
      limits
      maxDurationSeconds
      sources
      consumed :=
        { tokens := state.consumedTokens
          costUsd := if state.costComplete then some state.consumedCostUsd else none }
      reserved :=
        { tokens := state.reservedTokens
          costUsd := if state.unknownReservedCosts = 0 then some state.reservedCostUsd else none }
      committed :=
        { tokens := committedTokens, costUsd := if complete then some committedCostUsd else none }
      remaining :=
        { softTokens := limits.softTokens.map (· - committedTokens)
          hardTokens := limits.hardTokens.map (· - committedTokens)
          softCostUsd := remainingSoftCost
          hardCostUsd := remainingHardCost
          maxDurationSeconds := maxDurationSeconds.map (· - elapsed / nanosPerSecond) }
      elapsedSeconds := elapsed / nanosPerSecond
      roles := state.roles.toList.map fun entry => roleReport entry.1 entry.2
      activeReservations := state.active.size
      usageComplete := state.usageComplete
      action := if allowed = false then .ownerEscalation
        else if reasons.toList = [] then .continue_ else .degrade
      newDispatchAllowed := allowed
      reasons := reasons.toList }

/-- `remaining_reserved_cost`. -/
def remainingReservedCost (total released : Option Float) (active : ℕ) :
    Except BudgetError (Option Float) :=
  if active = 0 then .ok (some 0.0)
  else
    match total, released with
    | some total, some released =>
      if released ≤ total then .ok (some (total - released)) else .error .inconsistentState
    | _, _ => .ok none

/-- Replace the first role report of a role. -/
def updateRole (role : AgentRole)
    (change : RoleBudgetReport → Except BudgetError RoleBudgetReport) :
    List RoleBudgetReport → Except BudgetError (List RoleBudgetReport)
  | [] => .error .inconsistentState
  | report :: rest =>
    if report.role = role then do
      let changed ← change report
      pure (changed :: rest)
    else do
      let others ← updateRole role change rest
      pure (report :: others)

/-- What the recovery of one dispatch does to the report of the Worker role. -/
def recoverRole (grant : ℕ) (reservation : BudgetReservation) (charge : ReconciliationCharge)
    (role : RoleBudgetReport) : Except BudgetError RoleBudgetReport := do
  let reservedTokens ← require (checkedSubU64 role.reserved.tokens grant) .inconsistentState
  let activeReservations ← require (checkedSubU64 role.activeReservations 1) .inconsistentState
  let consumedTokens ← require (checkedAddU64 role.consumed.tokens charge.tokens) .tokenOverflow
  let reservedCost ← remainingReservedCost role.reserved.costUsd reservation.costUsd
    activeReservations
  pure { role with
    reserved := ⟨reservedTokens, reservedCost⟩
    activeReservations
    consumed := ⟨consumedTokens, none⟩
    usageComplete := false }

/-- The reservation of an interrupted dispatch: the one the checkpoint kept, or the estimate of the
binding without a price. -/
def interruptedReservation (reservations : BTreeMap ℕ BudgetReservation)
    (binding : BudgetDispatchBinding) : BudgetReservation :=
  (reservations[binding.reservationId]?).getD
    { id := binding.reservationId
      role := .worker
      tokens := binding.estimateTokens
      costUsd := none }

/-- The recovery of one interrupted dispatch. -/
def recoverBinding (reservations : BTreeMap ℕ BudgetReservation) (recovered : RunBudgetReport)
    (binding : BudgetDispatchBinding) :
    Except BudgetError (RunBudgetReport × BudgetDispatchBinding) := do
  refuseIf (recovered.charges.any (fun charge => charge.reservationId == binding.reservationId) =
    true) .inconsistentState
  let reservation := interruptedReservation reservations binding
  refuseIf (reservation.role ≠ .worker ∨ reservation.tokens ≠ binding.estimateTokens)
    .inconsistentState
  let charge ← reconciliationCharge reservation .missing
  let grant := binding.grantTokens
  let reservedTokens ← require (checkedSubU64 recovered.reserved.tokens grant) .inconsistentState
  let activeReservations ← require (checkedSubU64 recovered.activeReservations 1)
    .inconsistentState
  let consumedTokens ← require (checkedAddU64 recovered.consumed.tokens charge.tokens)
    .tokenOverflow
  let reservedCost ← remainingReservedCost recovered.reserved.costUsd reservation.costUsd
    activeReservations
  let roles ← updateRole .worker (recoverRole grant reservation charge) recovered.roles
  pure ({ recovered with
    reserved := ⟨reservedTokens, reservedCost⟩
    activeReservations
    consumed := ⟨consumedTokens, none⟩
    roles
    charges := recovered.charges ++
      [{ reservationId := binding.reservationId
         role := reservation.role
         tokens := charge.tokens
         costUsd := none
         usageComplete := false
         pricing :=
          { basis := if reservation.costUsd.isSome then .conservativeReservation else .unpriced
            contract := recovered.pricingContract
            runtime := some binding.invocation.runtime
            model := none } }]
    usageComplete := false
    costComplete := false
    newDispatchAllowed := false
    action := .ownerEscalation
    reasons :=
      if recovered.reasons.contains .missingProviderUsage then recovered.reasons
      else recovered.reasons ++ [.missingProviderUsage] },
    { binding with
      state := .settled
      chargedTokens := some charge.tokens
      usageComplete := some false })

/-- The dispatches a recovery settles. -/
def interrupted (only : Option ℕ) (binding : BudgetDispatchBinding) : Bool :=
  decide (binding.state = .admitted) && only.all fun id => id == binding.reservationId

/-- The loop of the recovery over the bindings, with those it has seen. -/
def recoverBindings (reservations : BTreeMap ℕ BudgetReservation) (only : Option ℕ) :
    List BudgetDispatchBinding → List BudgetDispatchBinding → RunBudgetReport →
      Except BudgetError RunBudgetReport
  | [], seen, recovered =>
    .ok { recovered with dispatchBindings := seen }
  | binding :: rest, seen, recovered =>
    if interrupted only binding then do
      let (recovered, settled) ← recoverBinding reservations recovered binding
      recoverBindings reservations only rest (seen ++ [settled]) recovered
    else recoverBindings reservations only rest (seen ++ [binding]) recovered

/-- The token reasons, which the recovery computes anew. -/
def BudgetReason.isTokenCeiling : BudgetReason → Bool
  | .softTokenCeilingReached | .hardTokenCeilingReached => true
  | _ => false

/-- What the recovery computes after its loop. -/
def closeRecovery (recovered : RunBudgetReport) : Except BudgetError RunBudgetReport := do
  let committedTokens ← require
    (checkedAddU64 recovered.consumed.tokens recovered.reserved.tokens) .tokenOverflow
  let limits := recovered.limits
  let kept := recovered.reasons.filter fun reason => !reason.isTokenCeiling
  let soft := if tokensReached limits.softTokens committedTokens then
    [BudgetReason.softTokenCeilingReached] else []
  let hard := if tokensReached limits.hardTokens committedTokens then
    [BudgetReason.hardTokenCeilingReached] else []
  pure { recovered with
    committed :=
      { tokens := committedTokens
        costUsd := if recovered.costComplete then recovered.committed.costUsd else none }
    remaining := { recovered.remaining with
      softTokens := limits.softTokens.map (· - committedTokens)
      hardTokens := limits.hardTokens.map (· - committedTokens)
      softCostUsd := if recovered.costComplete then recovered.remaining.softCostUsd else none
      hardCostUsd := if recovered.costComplete then recovered.remaining.hardCostUsd else none }
    reasons := (kept ++ soft ++ hard).insertionSort (· ≤ ·) }

/-- `reconcile_interrupted_dispatches_matching`. -/
def RunBudgetReport.reconcileInterruptedDispatchesMatching (report : RunBudgetReport)
    (reservations : BTreeMap ℕ BudgetReservation) (only : Option ℕ) :
    Except BudgetError RunBudgetReport := do
  let recovered ← recoverBindings reservations only report.dispatchBindings [] report
  closeRecovery recovered

/-- `reconcile_interrupted_dispatches`. -/
def RunBudgetReport.reconcileInterruptedDispatches (report : RunBudgetReport)
    (reservations : BTreeMap ℕ BudgetReservation) : Except BudgetError RunBudgetReport :=
  report.reconcileInterruptedDispatchesMatching reservations none

end Maco.RunBudget
