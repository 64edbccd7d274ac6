import Maco.RunBudget.Report

/-!
# The operations of the run budget

Every operation holds the lock of the ledger, so a run is a sequence of operations. An operation
works on a copy of the state and stores it at the end; an error leaves the state as it was. The
rolling ledger of the workspace, when one is attached, is written before the state is stored, so
its records may stay behind when a later step of the operation fails.
-/

namespace Maco.RunBudget

open Maco.Base Maco.RollingBudget

variable {codec : Codec}

structure AttachedRollingBudget (codec : Codec) where
  ledger : WorkspaceBudgetLedger codec
  quota : Option RollingBudgetQuota
  runId : String
  quotaPools : BTreeMap String PoolKey

/-- `RunBudgetLedger`, without what it shares: the limits of the run and the identity of its
ledger. -/
structure RunBudgetLedger where
  operatorPricing : Option PricingContractProvenance
  limits : RunBudgetLimits
  maxDurationSeconds : Option ℕ
  sources : Option RunBudgetSources
  sessionId : String
  identity : ℕ

/-- What an operation meets outside the ledger: the time since the run started, the clock, and the
file system of the rolling ledger. -/
structure Environment where
  elapsed : ℕ
  unixNow : Except String ℕ
  io : AppendIo

/-- What the clones of a ledger share. -/
structure SharedBudget (codec : Codec) where
  state : LedgerState
  rolling : Option (AttachedRollingBudget codec)

inductive BudgetAdmissionRefusal where
  | newDispatchStopped
  | missingCostEstimate
  | hardTokenCeiling (limit committed requested : ℕ)
  | hardCostCeiling (limitUsd committedUsd requestedUsd : Float)
deriving DecidableEq, Repr

/-- The reason a refusal latches. -/
def BudgetAdmissionRefusal.reason : BudgetAdmissionRefusal → Option BudgetReason
  | .newDispatchStopped => none
  | .missingCostEstimate => some .missingPricing
  | .hardTokenCeiling .. => some .hardTokenCeilingReached
  | .hardCostCeiling .. => some .hardCostCeilingReached

inductive BudgetAdmission where
  | admitted (reservation : BudgetReservation) (report : RunBudgetReport)
  | refused (refusal : BudgetAdmissionRefusal) (report : RunBudgetReport)
deriving DecidableEq, Repr

/-- `LiveTokenGrant`, with the identity of the ledger that issued it. -/
structure LiveTokenGrant where
  ledger : ℕ
  reservation : ℕ
  tokens : ℕ
deriving DecidableEq, Repr

/-- `rolling_ledger_error`. -/
def rollingLedgerError {α : Type} (result : Except String α) : Except BudgetError α :=
  result.mapError .rollingLedgerUnavailable

/-- `durable_reservation_id`, also the id of a completed pool consumption. -/
def durableReservationId (runId sessionId : String) (id : ℕ) : String :=
  runId ++ "/session/" ++ sessionId ++ "/reservation/" ++ toString id

namespace AttachedRollingBudget

/-- `admission_block_reasons`. -/
def admissionBlockReasons (attached : AttachedRollingBudget codec) (now : ℕ) :
    Except BudgetError (Option (List BudgetReason)) :=
  match attached.quota with
  | none => .ok none
  | some quota =>
    if (attached.ledger.anyActiveRateLimit now).isSome then .ok (some [.missingProviderUsage])
    else do
      let usage ← rollingLedgerError (attached.ledger.usageInWindow quota.windowSeconds now)
      let tokens := if tokensReached quota.maxTokens usage.tokens then
        [BudgetReason.hardTokenCeilingReached] else []
      let cost :=
        match quota.maxCostUsd, usage.costUsd with
        | none, _ => []
        | some limit, some cost =>
          if rollingCostExceeds cost limit = true ∨ limit ≤ cost then
            [BudgetReason.hardCostCeilingReached] else []
        | some _, none => [BudgetReason.missingPricing]
      pure (if tokens ++ cost = [] then none else some (tokens ++ cost))

/-- A call of the rolling ledger. -/
def record (attached : AttachedRollingBudget codec) (io : AppendIo)
    (request : WorkspaceBudgetLedger.Request) :
    Except BudgetError Unit × AttachedRollingBudget codec :=
  let (result, ledger) := attached.ledger.call io request
  ((rollingLedgerError result).map fun _ => (), { attached with ledger })

end AttachedRollingBudget

namespace RunBudgetLedger

variable (ledger : RunBudgetLedger) (environment : Environment)

/-- `report_for_state`. -/
def reportForState (state : LedgerState) : Except BudgetError RunBudgetReport := do
  let report ← reportFor ledger.limits ledger.maxDurationSeconds ledger.sources state
    environment.elapsed
  pure { report with pricingContract := ledger.operatorPricing }

section

variable (rolling : Option (AttachedRollingBudget codec)) (state : LedgerState)

variable (request : BudgetReservationRequest)

/-- The durable ids of the reservations that the run holds. -/
def currentReservations (attached : AttachedRollingBudget codec) : BTreeSet String :=
  BTreeSet.ofList (state.active.toList.map fun entry =>
    durableReservationId attached.runId ledger.sessionId entry.1)

/-- `rolling_admission_refusal`. -/
def rollingAdmissionRefusal : Except BudgetError (Option BudgetAdmissionRefusal) :=
  match rolling with
  | none => .ok none
  | some attached =>
    match attached.quota with
    | none => .ok none
    | some quota => do
      let now ← rollingLedgerError environment.unixNow
      if (attached.ledger.anyActiveRateLimit now).isSome then
        return some .newDispatchStopped
      if request.costUsd.isNone ∧ quota.maxCostUsd.isSome then
        return some .missingCostEstimate
      let usage ← rollingLedgerError (attached.ledger.usageInWindowExcluding quota.windowSeconds
        now (ledger.currentReservations state attached))
      let committed ← require (checkedAddU64 usage.tokens state.reservedTokens) .tokenOverflow
      let projectedTokens ← require (checkedAddU64 committed request.tokens) .tokenOverflow
      match quota.maxTokens.filter fun limit => decide (limit < projectedTokens) with
      | some limit => return some (.hardTokenCeiling limit committed request.tokens)
      | none => pure ()
      match request.costUsd, quota.maxCostUsd with
      | some requestedUsd, some limitUsd =>
        match usage.costUsd with
        | none => pure (some .missingCostEstimate)
        | some windowCost => do
          let committedUsd ← checkedCostAdd windowCost state.reservedCostUsd
          let projectedCostUsd ← checkedCostAdd committedUsd requestedUsd
          if rollingCostExceeds projectedCostUsd limitUsd then
            pure (some (.hardCostCeiling limitUsd committedUsd requestedUsd))
          else pure none
      | _, _ => pure none

/-- `reservation_pricing`. -/
def reservationPricing (reservation : BudgetReservation) : ChargePricing where
  basis := if reservation.costUsd.isSome then .conservativeReservation else .unpriced
  contract := ledger.operatorPricing
  runtime := none
  model := none

section

variable (attached : AttachedRollingBudget codec) (now : ℕ)

/-- The call of the rolling ledger that records an admitted reservation. -/
def reservationRequest (reservation : BudgetReservation) : WorkspaceBudgetLedger.Request :=
  .recordReservation
    { reservationId := durableReservationId attached.runId ledger.sessionId reservation.id
      tokens := reservation.tokens
      requests := if attached.quotaPools.size = 1 then 1 else 0
      costUsd := reservation.costUsd
      pool := if attached.quotaPools.size = 1 then
        (BTreeMap.values attached.quotaPools).head? else none
      unixSeconds := now } (some (ledger.reservationPricing reservation))

/-- The call that records a charge: the settlement of its reservation under a quota, and without one
the consumption of its pool. -/
def consumptionRequest (id : ℕ) (charge : ReconciliationCharge) (pool : Option PoolKey)
    (pricing : ChargePricing) : Option WorkspaceBudgetLedger.Request :=
  let durableId := durableReservationId attached.runId ledger.sessionId id
  let costUsd := if charge.costComplete then some charge.costUsd else none
  match attached.quota, pool with
  | some _, pool => some (.reconcileReservation
      { reservationId := durableId
        tokens := charge.tokens
        requests := if pool.isSome then 1 else 0
        costUsd
        pool
        unixSeconds := now } (some pricing))
  | none, some pool => some (.recordCompletedPoolConsumption
      { completionId := durableId
        pool
        tokens := charge.tokens
        requests := 1
        costUsd
        unixSeconds := now } (some pricing))
  | none, none => none

/-- The call that settles a released reservation for what it reserved. -/
def abandonmentRequest (reservation : BudgetReservation) : WorkspaceBudgetLedger.Request :=
  .reconcileReservation
    { reservationId := durableReservationId attached.runId ledger.sessionId reservation.id
      tokens := reservation.tokens
      requests := 0
      costUsd := reservation.costUsd
      pool := none
      unixSeconds := now } (some (ledger.reservationPricing reservation))

end

/-- `persist_rolling_reservation`. -/
def persistRollingReservation (reservation : BudgetReservation) :
    Except BudgetError Unit × Option (AttachedRollingBudget codec) :=
  match rolling with
  | none => (.ok (), none)
  | some attached =>
    match attached.quota with
    | none => (.ok (), some attached)
    | some _ =>
      match rollingLedgerError environment.unixNow with
      | .error refusal => (.error refusal, some attached)
      | .ok now =>
        let (result, attached) := attached.record environment.io
          (ledger.reservationRequest attached now reservation)
        (result, some attached)

/-- The reasons that follow a record of the rolling ledger. -/
def reasonsAfter (recorded : Except BudgetError Unit × AttachedRollingBudget codec) (now : ℕ) :
    Except BudgetError (List BudgetReason) × Option (AttachedRollingBudget codec) :=
  match recorded with
  | (.error refusal, attached) => (.error refusal, some attached)
  | (.ok (), attached) =>
    ((attached.admissionBlockReasons now).map fun reasons => reasons.getD [], some attached)

/-- `persist_rolling_consumption`. -/
def persistRollingConsumption (id : ℕ) (charge : ReconciliationCharge) (pool : Option PoolKey)
    (pricing : ChargePricing) :
    Except BudgetError (List BudgetReason) × Option (AttachedRollingBudget codec) :=
  match rolling with
  | none => (.ok [], none)
  | some attached =>
    match rollingLedgerError environment.unixNow with
    | .error refusal => (.error refusal, some attached)
    | .ok now =>
      match ledger.consumptionRequest attached now id charge pool pricing with
      | some request => reasonsAfter (attached.record environment.io request) now
      | none => reasonsAfter (.ok (), attached) now

/-- `persist_conservative_rolling_abandonment`. -/
def persistConservativeRollingAbandonment (reservation : BudgetReservation) :
    Except BudgetError (List BudgetReason) × Option (AttachedRollingBudget codec) :=
  match rolling with
  | none => (.ok [], none)
  | some attached =>
    match attached.quota with
    | none => (.ok [], some attached)
    | some _ =>
      match rollingLedgerError environment.unixNow with
      | .error refusal => (.error refusal, some attached)
      | .ok now =>
        reasonsAfter (attached.record environment.io
          (ledger.abandonmentRequest attached now reservation)) now

/-- What `reserve_locked` decides before it writes to the rolling ledger: a refusal with the state
it leaves, or a reservation with the state that holds it. -/
inductive AdmissionDecision where
  | refuse (refusal : BudgetAdmissionRefusal) (report : RunBudgetReport) (next : LedgerState)
  | admission (reservation : BudgetReservation) (report : RunBudgetReport) (next : LedgerState)

/-- A refusal that stops the run. -/
def refuseAndStop (refusal : BudgetAdmissionRefusal) : Except BudgetError AdmissionDecision := do
  let next :=
    match refusal.reason with
    | some reason => state.stop reason
    | none => { state with forceStop := true }
  let report ← ledger.reportForState environment next
  pure (.refuse refusal report next)

/-- The cost ceiling of `reserve_locked`: the refusal of a request past it. -/
def costRefusal : Except BudgetError (Option BudgetAdmissionRefusal) := do
  let committedCostUsd ← checkedCostAdd state.consumedCostUsd state.reservedCostUsd
  match request.costUsd, ledger.limits.hardCostUsd with
  | some requestedUsd, some limitUsd => do
    let projectedCostUsd ← checkedCostAdd committedCostUsd requestedUsd
    if costExceeds projectedCostUsd limitUsd then
      pure (some (.hardCostCeiling limitUsd committedCostUsd requestedUsd))
    else pure none
  | _, _ => pure none

/-- The reservation of `reserve_locked` once no ceiling is in its way. -/
def admitReservation : Except BudgetError AdmissionDecision := do
  let nextId ← require (checkedAddU64 state.nextReservationId 1) .reservationIdExhausted
  let reservation : BudgetReservation :=
    { id := state.nextReservationId
      role := request.role
      tokens := request.tokens
      costUsd := request.costUsd }
  let next ← addReservation { state with nextReservationId := nextId } reservation
  let report ← ledger.reportForState environment next
  pure (.admission reservation report next)

/-- The checks of `reserve_locked`, in their order. -/
def decideAdmission : Except BudgetError AdmissionDecision := do
  let currentReport ← ledger.reportForState environment state
  if currentReport.newDispatchAllowed = false then
    pure (.refuse .newDispatchStopped currentReport state)
  else if request.costUsd.isNone ∧ ledger.limits.hasCostCeiling = true then
    ledger.refuseAndStop environment state .missingCostEstimate
  else do
    let committedTokens ← require (checkedAddU64 state.consumedTokens state.reservedTokens)
      .tokenOverflow
    let projectedTokens ← require (checkedAddU64 committedTokens request.tokens) .tokenOverflow
    match ledger.limits.hardTokens.filter fun limit => decide (limit < projectedTokens) with
    | some limit =>
      ledger.refuseAndStop environment state
        (.hardTokenCeiling limit committedTokens request.tokens)
    | none => do
      match ← ledger.costRefusal state request with
      | some refusal => ledger.refuseAndStop environment state refusal
      | none => do
        match ← ledger.rollingAdmissionRefusal environment rolling state request with
        | some refusal => ledger.refuseAndStop environment state refusal
        | none => ledger.admitReservation environment state request

end

variable (budget : SharedBudget codec)

/-- `reserve_locked`. -/
def reserveLocked (request : BudgetReservationRequest) :
    Except BudgetError BudgetAdmission × SharedBudget codec :=
  match ledger.decideAdmission environment budget.rolling budget.state request with
  | .error refusal => (.error refusal, budget)
  | .ok (.refuse refusal report next) =>
    (.ok (.refused refusal report), { budget with state := next })
  | .ok (.admission reservation report next) =>
    match ledger.persistRollingReservation environment budget.rolling reservation with
    | (.error refusal, rolling) => (.error refusal, { budget with rolling })
    | (.ok (), rolling) => (.ok (.admitted reservation report), ⟨next, rolling⟩)

section

variable (state : LedgerState)

/-- `configure_live_token_limit`. -/
def configureLiveTokenLimit (id limit : ℕ) : Except BudgetError LedgerState := do
  let reservation ← require (state.active[id]?) (.unknownReservation id)
  refuseIf (limit < reservation.tokens ∨ state.liveGrants.contains id = true ∨
    state.liveLimits.contains id = true ∨ ledger.limits.hardTokens.isNone = true)
    .inconsistentState
  pure { state with liveLimits := state.liveLimits.insert id limit }

/-- An allowance within a limit. -/
def allowanceWithin (limit : Option ℕ) (allowance : ℕ) : ℕ :=
  match limit with
  | some limit => min allowance limit
  | none => allowance

/-- The new grant of `live_token_grant_with_limit`: the estimate and an equal share of the
uncommitted balance, within the limit. -/
def issueGrant (hard id : ℕ) (reservation : BudgetReservation) (limit : Option ℕ) :
    Except BudgetError (ℕ × LedgerState) := do
  let committed ← require (checkedAddU64 state.consumedTokens state.reservedTokens) .tokenOverflow
  let available ← require (checkedSubU64 hard committed) .inconsistentState
  let pending ← require ((checkedSubU64 state.active.size state.liveGrants.size).filter
    fun count => decide (0 < count)) .inconsistentState
  let allowance ← require (checkedAddU64 reservation.tokens (available / pending)) .tokenOverflow
  let tokens := allowanceWithin limit allowance
  refuseIf (tokens < reservation.tokens) .inconsistentState
  let extra := tokens - reservation.tokens
  let reservedTokens ← require (checkedAddU64 state.reservedTokens extra) .tokenOverflow
  let role ← require (state.roles[reservation.role]?) .inconsistentState
  let roleTokens ← require (checkedAddU64 role.reservedTokens extra) .tokenOverflow
  pure (tokens, { state with
    reservedTokens
    roles := state.roles.insert reservation.role { role with reservedTokens := roleTokens }
    liveGrants := state.liveGrants.insert id tokens })

/-- `live_token_grant_with_limit`. -/
def liveTokenGrantWithLimit (id : ℕ) (limit : Option ℕ) :
    Except BudgetError (Option LiveTokenGrant × LedgerState) := do
  let reservation ← require (state.active[id]?) (.unknownReservation id)
  match ledger.limits.hardTokens with
  | none => pure (none, state)
  | some hard =>
    match state.liveGrants[id]? with
    | some tokens => do
      refuseIf (limit.any (fun limit => decide (limit < tokens)) = true) .inconsistentState
      pure (some ⟨ledger.identity, id, tokens⟩, state)
    | none => do
      let (tokens, next) ← issueGrant state hard id reservation limit
      pure (some ⟨ledger.identity, id, tokens⟩, next)

/-- `live_token_grant`, which uses the configured limit. -/
def liveTokenGrant (id : ℕ) : Except BudgetError (Option LiveTokenGrant × LedgerState) :=
  ledger.liveTokenGrantWithLimit state id (state.liveLimits[id]?)

/-- `bind_dispatch`. -/
def bindDispatch (id : ℕ) (invocation : BudgetDispatchInvocation) (grant : LiveTokenGrant) :
    Except BudgetError (BudgetDispatchBinding × LedgerState) := do
  let reservation ← require (state.active[id]?) (.unknownReservation id)
  refuseIf (state.dispatchBindings.contains id = true ∨ state.forceStop = true ∨
    grant.reservation ≠ id ∨ grant.ledger ≠ ledger.identity ∨
    state.liveGrants[id]? ≠ some grant.tokens) .inconsistentState
  let grantTokens ← require (state.liveGrants[id]?) .inconsistentState
  let hardTokens ← require ledger.limits.hardTokens .inconsistentState
  let binding : BudgetDispatchBinding :=
    { version := 1
      reservationId := id
      grantId := ledger.sessionId ++ "/grant/" ++ toString id
      grantTokens
      estimateTokens := reservation.tokens
      invocation
      consumedBefore := state.consumedTokens
      reservedAtAdmission := state.reservedTokens
      activeAtAdmission := state.active.size
      hardTokens
      state := .admitted
      threadId := none
      turnId := none
      invocationVerified := false
      chargedTokens := none
      usageComplete := none }
  pure (binding, { state with dispatchBindings := state.dispatchBindings.insert id binding })

/-- What an observation of the invocation does to a binding. -/
def observeBinding (binding : BudgetDispatchBinding) (invocation : Option BudgetDispatchInvocation)
    (threadId turnId : Option String) : BudgetDispatchBinding :=
  if invocation = some binding.invocation then
    { binding with invocationVerified := true, threadId, turnId }
  else
    { binding with invocationVerified := false }

/-- `observe_dispatch_identity`. -/
def observeDispatchIdentity (id : ℕ) (invocation : Option BudgetDispatchInvocation)
    (threadId turnId : Option String) : Except BudgetError (Bool × LedgerState) :=
  match state.dispatchBindings[id]? with
  | none => .ok (true, state)
  | some binding => do
    refuseIf (binding.state ≠ .admitted) .inconsistentState
    let observed := observeBinding binding invocation threadId turnId
    pure (observed.invocationVerified, { state with
      dispatchBindings := state.dispatchBindings.insert id observed })

/-- `confirm_dispatch_admission`. -/
def confirmDispatchAdmission (id : ℕ) : Except BudgetError LedgerState := do
  refuseIf (state.dispatchBindings.contains id = false) .inconsistentState
  pure { state with durableDispatches := state.durableDispatches.insert id }

/-- `discard_unconfirmed_dispatch`. -/
def discardUnconfirmedDispatch (id : ℕ) : LedgerState :=
  if state.durableDispatches.contains id then state
  else
    { state with dispatchBindings := state.dispatchBindings.erase id }

/-- The pricing of a charge: the one given, with the basis the charge allows. -/
def chargePricing (reservation : BudgetReservation) (measurement : UsageMeasurement)
    (charge : ReconciliationCharge) (runtime : Option String) (pricing : Option ChargePricing) :
    ChargePricing :=
  let synthetic := charge.costComplete && isFakeBackedRuntime runtime
  let priced := pricing.getD
    { basis := if synthetic then .synthetic
        else if charge.costComplete then .unattributed else .unpriced
      contract := ledger.operatorPricing
      runtime
      model := none }
  if synthetic then
    { priced with basis := .synthetic }
  else if charge.usageComplete = false then
    { priced with
      basis := if (reservation.costUsd.or measurement.costUsd).isSome then
        .conservativeReservation else .unpriced }
  else priced

/-- Mark the binding of a dispatch, if it has one. -/
def markBinding (bindings : BTreeMap ℕ BudgetDispatchBinding) (id : ℕ)
    (mark : BudgetDispatchBinding → BudgetDispatchBinding) : BTreeMap ℕ BudgetDispatchBinding :=
  match bindings[id]? with
  | some binding => bindings.insert id (mark binding)
  | none => bindings

/-- The reasons of the rolling ledger stop the run. -/
def latchRolling (reasons : List BudgetReason) : LedgerState :=
  if reasons = [] then state
  else
    { state with
      persistentReasons := reasons.foldl (fun held reason => held.insert reason)
        state.persistentReasons
      forceStop := true }

end

/-- A settled binding. -/
def settleBinding (charge : ReconciliationCharge) (binding : BudgetDispatchBinding) :
    BudgetDispatchBinding :=
  { binding with
    state := .settled
    chargedTokens := some charge.tokens
    usageComplete := some charge.usageComplete }

/-- The charge a settlement adds. -/
def chargeReport (reservation : BudgetReservation) (id : ℕ) (charge : ReconciliationCharge)
    (pricing : ChargePricing) : BudgetChargeReport where
  reservationId := id
  role := reservation.role
  tokens := charge.tokens
  costUsd := if charge.costComplete then some charge.costUsd else none
  usageComplete := charge.usageComplete
  pricing

/-- The state after a settlement is recorded. -/
def recordSettlement (charged : LedgerState) (reservation : BudgetReservation) (id : ℕ)
    (charge : ReconciliationCharge) (pricing : ChargePricing) (reasons : List BudgetReason) :
    LedgerState :=
  latchRolling
    { charged with
      dispatchBindings := markBinding charged.dispatchBindings id (settleBinding charge)
      charges := charged.charges ++ [chargeReport reservation id charge pricing] } reasons

structure BudgetReconciliation where
  reservation : BudgetReservation
  charged : BudgetAmount
  report : RunBudgetReport
deriving DecidableEq, Repr

/-- What `reconcile_with_pool` computes before it writes to the rolling ledger: the reservation, its
charge and the state charged with it. -/
def chargeReservation (state : LedgerState) (id : ℕ) (measurement : UsageMeasurement)
    (runtime : Option String) :
    Except BudgetError (BudgetReservation × ReconciliationCharge × LedgerState) := do
  validateMeasurement measurement
  let reservation ← require (state.active[id]?) (.unknownReservation id)
  let charge ← reconciliationChargeForRuntime reservation measurement runtime
  let (_, removed) ← removeReservation state id
  let charged ← applyCharge removed reservation.role charge ledger.limits
  pure (reservation, charge, charged)

/-- `reconcile_with_pool`. -/
def reconcileWithPool (id : ℕ) (measurement : UsageMeasurement) (pool : Option PoolKey)
    (runtime : Option String) (pricing : Option ChargePricing) :
    Except BudgetError BudgetReconciliation × SharedBudget codec :=
  match ledger.chargeReservation budget.state id measurement runtime with
  | .error refusal => (.error refusal, budget)
  | .ok (reservation, charge, charged) =>
    let pricing := ledger.chargePricing reservation measurement charge runtime pricing
    match ledger.persistRollingConsumption environment budget.rolling id charge pool pricing with
    | (.error refusal, rolling) => (.error refusal, { budget with rolling })
    | (.ok reasons, rolling) =>
      let next := recordSettlement charged reservation id charge pricing reasons
      match ledger.reportForState environment next with
      | .error refusal => (.error refusal, { budget with rolling })
      | .ok report =>
        let amount : BudgetAmount :=
          { tokens := charge.tokens
            costUsd := if charge.costComplete then some charge.costUsd else none }
        (.ok ⟨reservation, amount, report⟩, ⟨next, rolling⟩)

def reconcile (id : ℕ) (measurement : UsageMeasurement) :
    Except BudgetError BudgetReconciliation × SharedBudget codec :=
  ledger.reconcileWithPool environment budget id measurement none none none

structure BudgetRelease where
  reservation : BudgetReservation
  report : RunBudgetReport
deriving DecidableEq, Repr

/-- The bindings after a release: one that may be in the journal is kept as not started. -/
def releaseBindings (state : LedgerState) (id : ℕ) : BTreeMap ℕ BudgetDispatchBinding :=
  if state.durableDispatches.contains id then
    markBinding state.dispatchBindings id fun binding => { binding with state := .notStarted }
  else state.dispatchBindings.erase id

def release (id : ℕ) : Except BudgetError BudgetRelease × SharedBudget codec :=
  match removeReservation budget.state id with
  | .error refusal => (.error refusal, budget)
  | .ok (reservation, removed) =>
    match ledger.persistConservativeRollingAbandonment environment budget.rolling reservation with
    | (.error refusal, rolling) => (.error refusal, { budget with rolling })
    | (.ok reasons, rolling) =>
      let next := latchRolling { removed with
        dispatchBindings := releaseBindings removed id } reasons
      match ledger.reportForState environment next with
      | .error refusal => (.error refusal, { budget with rolling })
      | .ok report => (.ok ⟨reservation, report⟩, ⟨next, rolling⟩)

/-- `LiveTokenGrant::exhaust`. -/
def exhaust (state : LedgerState) (reservation : ℕ) : LedgerState :=
  state.stop (if state.liveLimits.contains reservation then .liveTokenGrantExhausted
    else .hardTokenCeilingReached)

/-- `record_provider_error` for a rate limit; it ignores other errors. -/
def recordProviderError (detail : String) : Except BudgetError Unit × SharedBudget codec :=
  match budget.rolling with
  | none => (.error (.rollingLedgerUnavailable
      "provider rate limit reported without a bound rolling budget ledger"), budget)
  | some attached =>
    match rollingLedgerError environment.unixNow, attached.quota with
    | .error refusal, _ => (.error refusal, budget)
    | .ok _, none => (.error (.rollingLedgerUnavailable
        "provider rate-limit latching requires an aggregate rolling quota"), budget)
    | .ok now, some quota =>
      match attached.record environment.io
          (.recordRateLimited "workspace" detail quota.windowSeconds now) with
      | (.error refusal, attached) => (.error refusal, { budget with rolling := some attached })
      | (.ok (), attached) => (.ok (), ⟨budget.state.stop .missingProviderUsage, some attached⟩)

/-- `new_composed` and `attach_rolling_budget`: the start of a run, stopped at once when the window
of its quota is used up. -/
def start (rolling : Option (AttachedRollingBudget codec)) :
    Except BudgetError (SharedBudget codec) :=
  match rolling with
  | none => .ok ⟨.default, none⟩
  | some attached =>
    match attached.quota with
    | none => .ok ⟨.default, some attached⟩
    | some _ => do
      let now ← rollingLedgerError environment.unixNow
      let reasons ← attached.admissionBlockReasons now
      pure ⟨latchRolling .default (reasons.getD []), some attached⟩

end RunBudgetLedger

/-- The operations of a run. -/
inductive Operation where
  | reserve (request : BudgetReservationRequest)
  | configureLiveTokenLimit (id limit : ℕ)
  | liveTokenGrantWithLimit (id : ℕ) (limit : Option ℕ)
  | bindDispatch (id : ℕ) (invocation : BudgetDispatchInvocation) (grant : LiveTokenGrant)
  | observeDispatchIdentity (id : ℕ) (invocation : Option BudgetDispatchInvocation)
      (threadId turnId : Option String)
  | confirmDispatchAdmission (id : ℕ)
  | discardUnconfirmedDispatch (id : ℕ)
  | reconcileWithPool (id : ℕ) (measurement : UsageMeasurement) (pool : Option PoolKey)
      (runtime : Option String) (pricing : Option ChargePricing)
  | release (id : ℕ)
  | exhaust (reservation : ℕ)
  | recordProviderError (detail : String)

/-- The state after an operation that touches nothing else: an error leaves it as it was. -/
def SharedBudget.apply {α : Type} (budget : SharedBudget codec) (result : Except BudgetError α)
    (next : α → LedgerState) : SharedBudget codec :=
  match result with
  | .ok value => { budget with state := next value }
  | .error _ => budget

/-- One operation. -/
def RunBudgetLedger.perform (ledger : RunBudgetLedger) (environment : Environment)
    (budget : SharedBudget codec) (operation : Operation) : SharedBudget codec :=
  match operation with
  | .reserve request => (ledger.reserveLocked environment budget request).2
  | .configureLiveTokenLimit id limit =>
    budget.apply (ledger.configureLiveTokenLimit budget.state id limit) fun next => next
  | .liveTokenGrantWithLimit id limit =>
    budget.apply (ledger.liveTokenGrantWithLimit budget.state id limit) Prod.snd
  | .bindDispatch id invocation grant =>
    budget.apply (ledger.bindDispatch budget.state id invocation grant) Prod.snd
  | .observeDispatchIdentity id invocation threadId turnId =>
    budget.apply (observeDispatchIdentity budget.state id invocation threadId turnId) Prod.snd
  | .confirmDispatchAdmission id =>
    budget.apply (confirmDispatchAdmission budget.state id) fun next => next
  | .discardUnconfirmedDispatch id =>
    { budget with state := discardUnconfirmedDispatch budget.state id }
  | .reconcileWithPool id measurement pool runtime pricing =>
    (ledger.reconcileWithPool environment budget id measurement pool runtime pricing).2
  | .release id => (ledger.release environment budget id).2
  | .exhaust reservation => { budget with state := exhaust budget.state reservation }
  | .recordProviderError detail => (recordProviderError environment budget detail).2

namespace RunBudgetLedger

variable (ledger : RunBudgetLedger) (environment : Environment) (budget : SharedBudget codec)

/-- Whether an operation returns an error, and which. -/
def answer (operation : Operation) : Except BudgetError Unit :=
  match operation with
  | .reserve request => (ledger.reserveLocked environment budget request).1.map fun _ => ()
  | .configureLiveTokenLimit id limit =>
    (ledger.configureLiveTokenLimit budget.state id limit).map fun _ => ()
  | .liveTokenGrantWithLimit id limit =>
    (ledger.liveTokenGrantWithLimit budget.state id limit).map fun _ => ()
  | .bindDispatch id invocation grant =>
    (ledger.bindDispatch budget.state id invocation grant).map fun _ => ()
  | .observeDispatchIdentity id invocation threadId turnId =>
    (observeDispatchIdentity budget.state id invocation threadId turnId).map fun _ => ()
  | .confirmDispatchAdmission id => (confirmDispatchAdmission budget.state id).map fun _ => ()
  | .reconcileWithPool id measurement pool runtime pricing =>
    (ledger.reconcileWithPool environment budget id measurement pool runtime pricing).1.map
      fun _ => ()
  | .release id => (ledger.release environment budget id).1.map fun _ => ()
  | .recordProviderError detail => (recordProviderError environment budget detail).1
  | .discardUnconfirmedDispatch _ | .exhaust _ => .ok ()

end RunBudgetLedger

end Maco.RunBudget
