import Maco.RollingBudget.ReadBack
import Maco.RunBudget.Transition

/-!
# The accounting invariant

In every state of a run the totals are what the reservations and the charges add up to: the reserved
tokens are those the active reservations hold, the consumed tokens those of the charges, and both
are the sums over the roles. Grants and limits belong to active reservations, and a reservation is
charged once and only after it is no longer active.
-/

namespace Maco.RunBudget

open Maco.Base Maco.Base.BTreeMap Maco.RollingBudget RunBudgetLedger

variable {codec : Codec}

/-- How many active reservations a role has. -/
def LedgerState.activeOf (state : LedgerState) (role : AgentRole) : ℕ :=
  BTreeMap.sumBy (fun _ reservation => if reservation.role = role then 1 else 0) state.active

/-- What the active reservations of a role hold. -/
def LedgerState.heldOf (state : LedgerState) (role : AgentRole) : ℕ :=
  BTreeMap.sumBy (fun id reservation => if reservation.role = role then
    state.heldTokens id reservation else 0) state.active

/-- The state of a role, which is the default before its first reservation. -/
def LedgerState.role (state : LedgerState) (role : AgentRole) : RoleState :=
  (state.roles[role]?).getD RoleState.default

/-- The accounting invariant. -/
structure Accounted (state : LedgerState) : Prop where
  reserved : state.reservedTokens = BTreeMap.sumBy state.heldTokens state.active
  consumed : state.consumedTokens = (state.charges.map BudgetChargeReport.tokens).sum
  roleReserved : state.reservedTokens =
    BTreeMap.sumBy (fun _ role => role.reservedTokens) state.roles
  roleConsumed : state.consumedTokens =
    BTreeMap.sumBy (fun _ role => role.consumedTokens) state.roles
  roleHeld : ∀ role, (state.role role).reservedTokens = state.heldOf role
  granted : ∀ (id tokens : ℕ), state.liveGrants[id]? = some tokens →
    ∃ reservation, state.active[id]? = some reservation ∧ reservation.tokens ≤ tokens
  limited : ∀ (id limit : ℕ), state.liveLimits[id]? = some limit →
    ∃ reservation, state.active[id]? = some reservation
  counted : ∀ role, (state.role role).activeReservations = state.activeOf role
  chargedOnce : (state.charges.map BudgetChargeReport.reservationId).Nodup
  notActive : ∀ charge ∈ state.charges, state.active[charge.reservationId]? = none
  named : ∀ (id : ℕ) reservation, state.active[id]? = some reservation →
    reservation.id = id ∧ id < state.nextReservationId
  past : ∀ charge ∈ state.charges, charge.reservationId < state.nextReservationId

open LedgerState (activeOf heldOf heldTokens)

theorem Accounted.default : Accounted LedgerState.default := by
  constructor <;> simp [LedgerState.default, LedgerState.role, activeOf, heldOf, RoleState.default]

variable {ledger : RunBudgetLedger} {state next : LedgerState}

theorem Accounted.latchRolling (accounted : Accounted state) (reasons : List BudgetReason) :
    Accounted (latchRolling state reasons) := by
  unfold RunBudgetLedger.latchRolling
  split
  · exact accounted
  · exact { accounted with }

variable {reservation : BudgetReservation}

/-- `add_reservation` peeled apart, as far as tokens and counts go. -/
theorem addReservation_ok (added : addReservation state reservation = .ok next) :
    state.active[reservation.id]? = none ∧ ∃ cost unknown reasons role,
      role.reservedTokens = (state.role reservation.role).reservedTokens + reservation.tokens ∧
      role.consumedTokens = (state.role reservation.role).consumedTokens ∧
      role.activeReservations = (state.role reservation.role).activeReservations + 1 ∧
      next = { state with
        reservedTokens := state.reservedTokens + reservation.tokens
        reservedCostUsd := cost
        unknownReservedCosts := unknown
        persistentReasons := reasons
        roles := state.roles.insert reservation.role role
        active := state.active.insert reservation.id reservation } := by
  simp only [addReservation, ok_iff, checkedAddU64_eq_some, Bool.not_eq_true,
    not_contains_iff] at added
  obtain ⟨reserved, ⟨-, rfl⟩, cost, -, roleTokens, ⟨-, rfl⟩, roleCost, -, active, ⟨-, rfl⟩, fresh,
    rfl⟩ := added
  refine ⟨fresh, cost.reservedCostUsd, cost.unknownReservedCosts, _, _, ?_, ?_, ?_, rfl⟩
  · rfl
  · rfl
  · rfl

variable {id : ℕ}

variable {removed : LedgerState}

/-- `remove_reservation` peeled apart, as far as tokens and counts go. -/
theorem removeReservation_ok (removes : removeReservation state id = .ok (reservation, removed)) :
    state.active[id]? = some reservation ∧ ∃ cost unknown role,
      state.heldTokens id reservation ≤ state.reservedTokens ∧
      state.heldTokens id reservation ≤ (state.role reservation.role).reservedTokens ∧
      1 ≤ (state.role reservation.role).activeReservations ∧
      role.reservedTokens =
        (state.role reservation.role).reservedTokens - state.heldTokens id reservation ∧
      role.consumedTokens = (state.role reservation.role).consumedTokens ∧
      role.activeReservations = (state.role reservation.role).activeReservations - 1 ∧
      removed = { state with
        active := state.active.erase id
        liveLimits := state.liveLimits.erase id
        liveGrants := state.liveGrants.erase id
        reservedTokens := state.reservedTokens - state.heldTokens id reservation
        reservedCostUsd := cost
        unknownReservedCosts := unknown
        roles := state.roles.insert reservation.role role } := by
  simp only [removeReservation, ok_iff, checkedSubU64_eq_some, Prod.mk.injEq] at removes
  obtain ⟨held, found, reserved, ⟨enough, rfl⟩, cost, -, role, roleFound, roleTokens,
    ⟨roleEnough, rfl⟩, roleCost, -, active, ⟨some_, rfl⟩, rfl, rfl⟩ := removes
  have same : state.role held.role = role := by rw [LedgerState.role, roleFound]; rfl
  rw [same]
  refine ⟨found, cost.reservedCostUsd, cost.unknownReservedCosts, _, enough, roleEnough, some_, ?_,
    ?_, ?_, rfl⟩
  · rfl
  · rfl
  · rfl

/-- `apply_charge` peeled apart, as far as tokens and counts go. -/
theorem applyCharge_ok {role : AgentRole} {charge : ReconciliationCharge}
    {limits : RunBudgetLimits} (applied : applyCharge state role charge limits = .ok next) :
    ∃ cost usage complete reasons forceStop held,
      held.reservedTokens = (state.role role).reservedTokens ∧
      held.consumedTokens = (state.role role).consumedTokens + charge.tokens ∧
      held.activeReservations = (state.role role).activeReservations ∧
      next = { state with
        consumedTokens := state.consumedTokens + charge.tokens
        consumedCostUsd := cost
        usageComplete := usage
        costComplete := complete
        persistentReasons := reasons
        forceStop
        roles := state.roles.insert role held } := by
  simp only [applyCharge, ok_iff, checkedAddU64_eq_some] at applied
  obtain ⟨consumed, ⟨-, rfl⟩, cost, -, roleTokens, ⟨-, rfl⟩, roleCost, -, rfl⟩ := applied
  refine ⟨cost, _, _, _, _, _, ?_, ?_, ?_, rfl⟩
  · rfl
  · rfl
  · rfl

section Roles

variable (state) {weight : RoleState → ℕ} {role : AgentRole} {held : RoleState}

/-- A total over the roles once one of them is written, which exchanges its weight. -/
theorem roleTotal_insert (zero : weight RoleState.default = 0)
    (before : total = BTreeMap.sumBy (fun _ role => weight role) state.roles)
    (exchanged : after + weight (state.role role) = total + weight held) :
    after = BTreeMap.sumBy (fun _ role => weight role) (state.roles.insert role held) := by
  have sum := sumBy_update state.roles role (fun _ role => weight role) held
  have old : (state.roles[role]?.map fun role => weight role).getD 0 =
    weight (state.role role) := by
    unfold LedgerState.role
    cases state.roles[role]? with
    | none => exact zero.symm
    | some found => rfl
  omega

/-- The weights of the roles once one of them is written. -/
theorem roleWeights_insert {weights after : AgentRole → ℕ}
    (before : ∀ other, weight (state.role other) = weights other) (here : weight held = after role)
    (elsewhere : ∀ other, role ≠ other → after other = weights other) (other : AgentRole) :
    weight (((state.roles.insert role held)[other]?).getD RoleState.default) = after other := by
  rw [get_insert]
  by_cases same : role = other
  · rw [if_pos same, ← same]
    exact here
  · rw [if_neg same, elsewhere other same]
    exact before other

end Roles

section

variable (accounted : Accounted state)

include accounted

namespace Accounted

/-- An admission keeps the accounting. -/
theorem admission
    (named : reservation.id = state.nextReservationId) (added : addReservation { state with
      nextReservationId := state.nextReservationId + 1 } reservation = .ok next) :
    Accounted next := by
  obtain ⟨fresh, cost, unknown, reasons, role, reserved, consumed, count, rfl⟩ :=
    addReservation_ok added
  change role.reservedTokens =
    (state.role reservation.role).reservedTokens + reservation.tokens at reserved
  change role.consumedTokens = (state.role reservation.role).consumedTokens at consumed
  have free : state.active[reservation.id]? = none := fresh
  have ungranted : state.liveGrants[reservation.id]? = none := by
    cases granted : state.liveGrants[reservation.id]? with
    | none => rfl
    | some tokens =>
      obtain ⟨held, found, -⟩ := accounted.granted _ tokens granted
      rw [free] at found
      cases found
  have holds : state.heldTokens reservation.id reservation = reservation.tokens := by
    rw [heldTokens, ungranted]
    rfl
  constructor
  case reserved =>
    have sum := sumBy_insert state.heldTokens free reservation
    have total := accounted.reserved
    change state.reservedTokens + reservation.tokens =
      sumBy state.heldTokens (state.active.insert reservation.id reservation)
    omega
  case consumed => exact accounted.consumed
  case roleReserved =>
    exact roleTotal_insert state rfl accounted.roleReserved (by dsimp only; omega)
  case roleConsumed =>
    exact roleTotal_insert state rfl accounted.roleConsumed (by dsimp only; omega)
  case roleHeld =>
    have sum (other : AgentRole) := sumBy_insert (fun id (held : BudgetReservation) =>
      if held.role = other then state.heldTokens id held else 0) free reservation
    refine roleWeights_insert state accounted.roleHeld ?_ fun other different => ?_
    · refine Eq.trans ?_ (sum reservation.role).symm
      rw [if_pos rfl, holds, reserved, Nat.add_comm]
      exact congrArg _ (accounted.roleHeld _)
    · refine (sum other).trans ?_
      rw [if_neg different, Nat.zero_add, heldOf]
  case granted =>
    intro id tokens granted
    obtain ⟨held, found, floor⟩ := accounted.granted id tokens granted
    exact ⟨held, (get_insert_fresh free).mpr (.inl found), floor⟩
  case limited =>
    intro id limit limited
    obtain ⟨held, found⟩ := accounted.limited id limit limited
    exact ⟨held, (get_insert_fresh free).mpr (.inl found)⟩
  case counted =>
    have sum (other : AgentRole) := sumBy_insert
      (fun _ (held : BudgetReservation) => if held.role = other then 1 else 0) free reservation
    refine roleWeights_insert state accounted.counted ?_ fun other different => ?_
    · refine Eq.trans ?_ (sum reservation.role).symm
      rw [if_pos rfl, count, Nat.add_comm]
      exact congrArg _ (accounted.counted _)
    · refine (sum other).trans ?_
      rw [if_neg different, Nat.zero_add, activeOf]
  case chargedOnce => exact accounted.chargedOnce
  case notActive =>
    intro charge member
    have earlier := accounted.past charge member
    have other : reservation.id ≠ charge.reservationId := by omega
    exact (get_insert_of_ne _ _ other).trans (accounted.notActive charge member)
  case named =>
    intro id held found
    dsimp only at found ⊢
    rcases get_insert_cases found with ⟨rfl, rfl⟩ | ⟨-, earlier⟩
    · exact ⟨rfl, by omega⟩
    · obtain ⟨sameId, less⟩ := accounted.named id held earlier
      exact ⟨sameId, by omega⟩
  case past =>
    intro charge member
    have earlier := accounted.past charge member
    dsimp only
    omega

/-- A live limit keeps the accounting. -/
theorem limit {limit : ℕ} (found : state.active[id]? = some reservation) :
    Accounted { state with liveLimits := state.liveLimits.insert id limit } := by
  refine { accounted with limited := ?_ }
  intro other held limited
  rcases get_insert_cases limited with ⟨rfl, -⟩ | ⟨-, earlier⟩
  · exact ⟨reservation, found⟩
  · exact accounted.limited other held earlier

/-- A live grant keeps the accounting. -/
theorem grant {extra : ℕ} {role : RoleState}
    (found : state.active[id]? = some reservation) (fresh : state.liveGrants[id]? = none)
    (roleFound : state.roles[reservation.role]? = some role) :
    Accounted { state with
      reservedTokens := state.reservedTokens + extra
      roles := state.roles.insert reservation.role { role with
        reservedTokens := role.reservedTokens + extra }
      liveGrants := state.liveGrants.insert id (reservation.tokens + extra) } := by
  have held : state.role reservation.role = role := by
    rw [LedgerState.role, roleFound]
    rfl
  have before : state.heldTokens id reservation = reservation.tokens := by
    rw [heldTokens, fresh]
    rfl
  have others : ∀ (other : ℕ) (held : BudgetReservation), other ≠ id →
      ((state.liveGrants.insert id (reservation.tokens + extra))[other]?).getD held.tokens =
        state.heldTokens other held := by
    intro other held different
    rw [get_insert_of_ne _ _ (Ne.symm different), heldTokens]
  refine { accounted with
    reserved := ?_, roleReserved := ?_, roleConsumed := ?_, roleHeld := ?_, granted := ?_
    counted := ?_ }
  · -- Only the weight of the granted reservation changes, by the extra tokens.
    have shifted := sumBy_reweigh found others
    rw [get_insert, if_pos rfl, Option.getD_some, before] at shifted
    have total := accounted.reserved
    unfold heldTokens at *
    dsimp only
    omega
  · refine roleTotal_insert state rfl accounted.roleReserved ?_
    rw [held]
    dsimp only
    omega
  · exact roleTotal_insert state rfl accounted.roleConsumed (held ▸ rfl)
  · have shifted (other : AgentRole) := sumBy_reweigh found
      (fun a w different => congrArg (fun tokens => if w.role = other then tokens else 0)
        (others a w different))
    rw [get_insert, if_pos rfl, Option.getD_some, before] at shifted
    refine roleWeights_insert state accounted.roleHeld ?_ fun other different => ?_
    · have total := accounted.roleHeld reservation.role
      have here := shifted reservation.role
      rw [if_pos rfl, if_pos rfl] at here
      rw [held] at total
      unfold heldOf heldTokens at *
      dsimp only
      omega
    · have there := shifted other
      rw [if_neg different, if_neg different] at there
      exact there
  · intro other tokens granted
    rcases get_insert_cases granted with ⟨rfl, rfl⟩ | ⟨-, earlier⟩
    · exact ⟨reservation, found, Nat.le_add_right _ _⟩
    · exact accounted.granted other tokens earlier
  · refine roleWeights_insert state accounted.counted ?_ fun _ _ => rfl
    exact held ▸ accounted.counted reservation.role

/-- Removing a reservation keeps the accounting, and gives back what it held. -/
theorem remove (removes : removeReservation state id = .ok (reservation, removed)) :
    Accounted removed ∧ removed.active[id]? = none ∧ removed.charges = state.charges ∧
      removed.nextReservationId = state.nextReservationId ∧
      removed.consumedTokens = state.consumedTokens ∧
      removed.reservedTokens + state.heldTokens id reservation = state.reservedTokens := by
  obtain ⟨found, cost, unknown, role, enough, roleEnough, some_, reserved, consumed, count, rfl⟩ :=
    removeReservation_ok removes
  have erased (other : ℕ) (different : other ≠ id) :
      (state.active.erase id)[other]? = state.active[other]? := by
    rw [get_erase, if_neg (Ne.symm different)]
  have gone : (state.active.erase id)[id]? = none := by rw [get_erase, if_pos rfl]
  have survives (other : ℕ) {held : BudgetReservation} (present : state.active[other]? = some held)
      (different : other ≠ id) : (state.active.erase id)[other]? = some held :=
    (erased other different).trans present
  -- The others hold what they held.
  have sameHeld : ∀ (other : ℕ) held,
      (state.active.erase id)[other]? = some held →
        ((state.liveGrants.erase id)[other]?).getD held.tokens = state.heldTokens other held := by
    intro other held present
    rw [get_erase, if_neg (get_erase_some present).1, heldTokens]
  refine ⟨?_, gone, rfl, rfl, rfl, Nat.sub_add_cancel enough⟩
  constructor
  case reserved =>
    have sum := sumBy_erase state.heldTokens found
    have total := accounted.reserved
    have others := sumBy_congr sameHeld
    unfold heldTokens at *
    dsimp only
    omega
  case consumed => exact accounted.consumed
  case roleReserved =>
    exact roleTotal_insert state rfl accounted.roleReserved (by dsimp only; omega)
  case roleConsumed =>
    exact roleTotal_insert state rfl accounted.roleConsumed (by dsimp only; omega)
  case roleHeld =>
    have sum (other : AgentRole) := sumBy_erase (fun id (held : BudgetReservation) =>
      if held.role = other then state.heldTokens id held else 0) found
    have others (other : AgentRole) := sumBy_congr fun a w present =>
      congrArg (fun tokens => if w.role = other then tokens else 0) (sameHeld a w present)
    refine roleWeights_insert state accounted.roleHeld ?_ fun other different => ?_
    · have total := accounted.roleHeld reservation.role
      have here := sum reservation.role
      rw [if_pos rfl, ← others] at here
      unfold heldOf heldTokens at *
      dsimp only
      omega
    · have there := sum other
      rw [if_neg different, ← others] at there
      exact (there.trans (Nat.zero_add _)).symm
  case granted =>
    intro other tokens granted
    obtain ⟨different, granted⟩ := get_erase_some granted
    obtain ⟨held, present, floor⟩ := accounted.granted other tokens granted
    exact ⟨held, survives other present (Ne.symm different), floor⟩
  case limited =>
    intro other limit limited
    obtain ⟨different, limited⟩ := get_erase_some limited
    obtain ⟨held, present⟩ := accounted.limited other limit limited
    exact ⟨held, survives other present (Ne.symm different)⟩
  case counted =>
    have sum (other : AgentRole) := sumBy_erase
      (fun _ (held : BudgetReservation) => if held.role = other then 1 else 0) found
    refine roleWeights_insert state accounted.counted ?_ fun other different => ?_
    · have total := accounted.counted reservation.role
      have here := sum reservation.role
      rw [if_pos rfl] at here
      unfold activeOf at *
      dsimp only
      omega
    · have there := sum other
      rw [if_neg different] at there
      exact (there.trans (Nat.zero_add _)).symm
  case chargedOnce => exact accounted.chargedOnce
  case notActive =>
    intro charge member
    have before := accounted.notActive charge member
    rw [get_erase]
    split
    · rfl
    · exact before
  case named =>
    exact fun other held present => accounted.named other held (get_erase_some present).2
  case past => exact accounted.past

/-- Charging a reservation that was removed keeps the accounting. -/
theorem charge {charge : ReconciliationCharge} {charged : LedgerState}
    (applied : applyCharge state reservation.role charge ledger.limits = .ok charged)
    (gone : state.active[id]? = none) (uncharged : id ∉ state.charges.map
      BudgetChargeReport.reservationId) (past : id < state.nextReservationId)
    (pricing : ChargePricing) (reasons : List BudgetReason) :
    Accounted (recordSettlement charged reservation id charge pricing reasons) := by
  obtain ⟨cost, usage, complete, latched, forceStop, role, reserved, consumed, count, rfl⟩ :=
    applyCharge_ok applied
  apply latchRolling
  refine { accounted with
    consumed := ?_
    roleReserved := roleTotal_insert state rfl accounted.roleReserved (by dsimp only; omega)
    roleConsumed := roleTotal_insert state rfl accounted.roleConsumed (by dsimp only; omega)
    roleHeld := roleWeights_insert state accounted.roleHeld
      (reserved.trans (accounted.roleHeld _)) fun _ _ => rfl
    counted := roleWeights_insert state accounted.counted
      (count.trans (accounted.counted _)) fun _ _ => rfl
    chargedOnce := nodup_map_concat accounted.chargedOnce uncharged
    notActive := forall_mem_concat accounted.notActive gone
    past := forall_mem_concat accounted.past past }
  have total := accounted.consumed
  simp only [List.map_append, List.map_cons, List.map_nil, List.sum_append, List.sum_cons,
    List.sum_nil, chargeReport]
  omega

/-- Every adjustment keeps the accounting. -/
theorem adjusts (adjusts : Adjusts ledger state next) : Accounted next := by
  cases adjusts with
  | stay => exact accounted
  -- what is latched and the dispatch bindings are not accounted
  | latch forceStop reasons => exact { accounted with }
  | limit found => exact accounted.limit found
  | grant found fresh within roleFound => exact accounted.grant found fresh roleFound
  | bind found granted named estimate => exact { accounted with }
  | observe found invocation threadId turnId => exact { accounted with }
  | confirm id => exact { accounted with }
  | discard id => exact { accounted with }

end Accounted

end

variable {environment : Environment} {budget : SharedBudget codec} {operation : Operation}

/-- Every move keeps the accounting. -/
theorem Accounted.moves (accounted : Accounted budget.state)
    (moves : Moves ledger environment budget operation next) : Accounted next := by
  cases moves with
  | adjust adjusts => exact accounted.adjusts adjusts
  | admission named within added => exact accounted.admission named added
  | @settle id reservation charge charged pricing reasons charges =>
    obtain ⟨found, removed, removes, applied⟩ := charges
    obtain ⟨accounted', gone, sameCharges, sameNext, -, -⟩ := accounted.remove removes
    refine accounted'.charge applied gone ?_ ?_ pricing reasons
    · rw [sameCharges, List.mem_map]
      rintro ⟨charge, member, same⟩
      have inactive := accounted.notActive charge member
      rw [same, found] at inactive
      cases inactive
    · rw [sameNext]
      exact (accounted.named id reservation found).2
  | release reasons asked answered removes =>
    have after := (accounted.remove removes).1
    refine latchRolling ?_ reasons
    exact { after with }

/-- A run: operations, each in the environment it meets. -/
def RunBudgetLedger.run (ledger : RunBudgetLedger) (budget : SharedBudget codec)
    (operations : List (Environment × Operation)) : SharedBudget codec :=
  operations.foldl (fun budget step => ledger.perform step.1 budget step.2) budget

variable {rolling : Option (AttachedRollingBudget codec)}

/-- The start of a run is the default state, with what the rolling ledger latches. -/
theorem start_state (started : start environment rolling = .ok budget) :
    ∃ reasons, budget.state = RunBudgetLedger.latchRolling .default reasons := by
  unfold start at started
  split at started
  · injection started with same
    rw [← same]
    exact ⟨[], rfl⟩
  · split at started
    · injection started with same
      rw [← same]
      exact ⟨[], rfl⟩
    · simp only [ok_iff] at started
      obtain ⟨now, -, reasons, -, rfl⟩ := started
      exact ⟨reasons.getD [], rfl⟩

/-- The start of a run is accounted, whatever the rolling ledger says. -/
theorem start_accounted
    (started : start environment rolling = .ok budget) : Accounted budget.state := by
  obtain ⟨reasons, same⟩ := start_state started
  rw [same]
  exact Accounted.default.latchRolling reasons

/-- In every state that any interleaving of operations leads to, with or without a rolling ledger,
the accounting invariant holds. -/
theorem accounted_run {environment : Environment} {rolling : Option (AttachedRollingBudget codec)}
    {budget : SharedBudget codec} (started : start environment rolling = .ok budget)
    (operations : List (Environment × Operation)) :
    Accounted (ledger.run budget operations).state := by
  refine List.foldlRecOn (motive := fun budget : SharedBudget codec => Accounted budget.state)
    operations _ (start_accounted started) ?_
  intro budget accounted step _
  exact accounted.moves (perform_moves budget step.2)

/-- A ledger with a hard ceiling of a hundred tokens. -/
def sampleLedger : RunBudgetLedger where
  operatorPricing := none
  limits := ⟨none, some 100, none, none⟩
  maxDurationSeconds := none
  sources := none
  sessionId := "session"
  identity := 1

/-- One second into the run, with a clock and a file system that work. -/
def sampleEnvironment : Environment := ⟨1000000000, .ok 1000, .completes⟩

/-- Two reservations, a grant for the first, and a settlement of the second above its estimate. -/
def sampleOperations : List (Environment × Operation) :=
  [.reserve ⟨.worker, 60, none⟩, .reserve ⟨.auditor, 20, none⟩, .liveTokenGrantWithLimit 1 none,
    .reconcileWithPool 2 (.reliable 25 none) none none none].map fun operation =>
      (sampleEnvironment, operation)

/-- The start of a run without a rolling ledger. -/
def sampleStart : SharedBudget plainCodec := ⟨.default, none⟩

/-- The grant is reserved, the charge consumed, and the state accounted. -/
theorem accounted_run_sample :
    Accounted (sampleLedger.run sampleStart sampleOperations).state ∧
      (sampleLedger.run sampleStart sampleOperations).state.reservedTokens = 70 ∧
      (sampleLedger.run sampleStart sampleOperations).state.consumedTokens = 25 := by
  have started : start sampleEnvironment (none : Option (AttachedRollingBudget plainCodec)) =
      .ok sampleStart := rfl
  exact ⟨accounted_run started sampleOperations, by decide +kernel, by decide +kernel⟩

end Maco.RunBudget
