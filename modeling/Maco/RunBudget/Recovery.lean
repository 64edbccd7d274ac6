import Maco.RunBudget.Settlement

/-!
# Recovery of a report

The recovery of a crashed run settles the interrupted dispatches on the public report. It moves the
same tokens as the live ledger, and what it cannot know from the report is exactly where the two can
part: which reasons were latched, what the rolling ledger answers, and the rounding of costs.
-/

namespace Maco.RunBudget

open Maco.Base BTreeMap Maco.RollingBudget RunBudgetLedger List

variable {codec : Codec} {ledger : RunBudgetLedger} {state : LedgerState}

/-- The tokens of a run cover its interrupted dispatches. -/
structure Payable (view : TokenView) (pending : List BudgetDispatchBinding) : Prop where
  within : view.consumed + view.reserved < 2 ^ 64
  grants : (pending.map BudgetDispatchBinding.grantTokens).sum ≤ view.reserved
  count : pending.length ≤ view.active
  covers : ∀ binding ∈ pending, binding.estimateTokens ≤ binding.grantTokens
  apart : (pending.map BudgetDispatchBinding.reservationId).Nodup
  uncharged : ∀ binding ∈ pending, binding.reservationId ∉ view.charges.map Prod.fst
  roles : (view.roles.map RoleTokens.role).Nodup
  present : pending ≠ [] → ∃ tokens ∈ view.roles, tokens.role = .worker
  worker : ∀ tokens ∈ view.roles, tokens.role = .worker →
    (pending.map BudgetDispatchBinding.grantTokens).sum ≤ tokens.reserved ∧
      pending.length ≤ tokens.active ∧ tokens.consumed ≤ view.consumed

theorem settle_role (binding : BudgetDispatchBinding) (tokens : RoleTokens) :
    (tokens.settle binding).role = tokens.role := by
  unfold RoleTokens.settle
  split
  · rfl
  · rfl

/-- The others stay covered when one dispatch is settled. -/
theorem Payable.settle {view : TokenView} {binding : BudgetDispatchBinding}
    {rest : List BudgetDispatchBinding} (payable : Payable view (binding :: rest)) :
    Payable (view.settle binding) rest := by
  have grants := payable.grants
  have count := payable.count
  have covers := payable.covers binding mem_cons_self
  have within := payable.within
  rw [map_cons, sum_cons] at grants
  rw [length_cons] at count
  obtain ⟨first, apart⟩ := nodup_cons.mp payable.apart
  refine ⟨?_, ?_, ?_, fun other listed => payable.covers other (mem_cons_of_mem _ listed),
    apart, ?_, ?_, ?_, ?_⟩
  · change view.consumed + binding.estimateTokens + (view.reserved - binding.grantTokens) < 2 ^ 64
    omega
  · change _ ≤ view.reserved - binding.grantTokens
    omega
  · change _ ≤ view.active - 1
    omega
  · intro other listed charged
    rw [TokenView.settle, map_append, mem_append, map_singleton, mem_singleton] at charged
    rcases charged with earlier | same
    · exact payable.uncharged other (mem_cons_of_mem _ listed) earlier
    · exact first (mem_map.mpr ⟨other, listed, same⟩)
  · rw [TokenView.settle, map_map, show RoleTokens.role ∘ RoleTokens.settle binding =
      RoleTokens.role from funext (settle_role binding)]
    exact payable.roles
  · intro _
    obtain ⟨tokens, listed, worker⟩ := payable.present (cons_ne_nil binding rest)
    exact ⟨_, mem_map.mpr ⟨tokens, listed, rfl⟩, (settle_role binding tokens).trans worker⟩
  · intro tokens listed worker
    obtain ⟨before, earlier, rfl⟩ := mem_map.mp listed
    rw [settle_role] at worker
    obtain ⟨roleGrants, roleCount, consumed⟩ := payable.worker before earlier worker
    rw [map_cons, sum_cons] at roleGrants
    rw [length_cons] at roleCount
    rw [RoleTokens.settle, if_pos worker]
    change _ ≤ before.reserved - binding.grantTokens ∧ _ ≤ before.active - 1 ∧
      before.consumed + binding.estimateTokens ≤ view.consumed + binding.estimateTokens
    omega

/-- The interrupted dispatches of an accounted state are covered. -/
theorem payable_of_accounted (accounted : Accounted state) (bound : Bound state)
    (within : state.consumedTokens + state.reservedTokens < 2 ^ 64)
    (interrupted : Interrupted state pending) : Payable state.tokenView pending := by
  have holds (binding : BudgetDispatchBinding) (listed : binding ∈ pending) :
      ∃ reservation role, Dispatched state binding reservation role := by
    obtain ⟨reservation, role, dispatched, -⟩ := interrupted.dispatched accounted bound listed
    exact ⟨reservation, role, dispatched⟩
  have sums {weight : BudgetDispatchBinding → ℕ} {measure : ℕ → BudgetReservation → ℕ}
      (fits : ∀ {binding reservation role}, Dispatched state binding reservation role →
        weight binding ≤ measure binding.reservationId reservation) :
      (pending.map weight).sum ≤ sumBy measure state.active := by
    refine sum_le_sumBy interrupted.apart fun binding listed => ?_
    obtain ⟨reservation, _, dispatched⟩ := holds binding listed
    exact ⟨reservation, dispatched.found, fits dispatched⟩
  have counts : pending.length = (pending.map fun _ => 1).sum := by simp
  have workerFound : ∀ tokens ∈ state.tokenView.roles, tokens.role = .worker →
      ∃ role, state.roles[AgentRole.worker]? = some role ∧ tokens = roleTokens (.worker, role) := by
    intro tokens listed worker
    obtain ⟨⟨name, role⟩, entry, rfl⟩ := mem_map.mp listed
    change name = .worker at worker
    rw [worker, mem_toList] at entry
    exact ⟨role, entry, by rw [worker]⟩
  refine ⟨within, ?_, ?_, ?_, interrupted.apart, ?_, ?_, ?_, ?_⟩
  · change _ ≤ state.reservedTokens
    rw [accounted.reserved]
    exact sums fun dispatched => dispatched.holds.ge
  · change _ ≤ state.active.size
    rw [counts, ← sumBy_one]
    exact sums fun _ => le_refl 1
  · intro binding listed
    obtain ⟨_, _, dispatched⟩ := holds binding listed
    exact dispatched.covers
  · intro binding listed charged
    obtain ⟨_, _, dispatched⟩ := holds binding listed
    obtain ⟨_, entry, same⟩ := mem_map.mp charged
    obtain ⟨charge, earlier, rfl⟩ := mem_map.mp entry
    have ended := accounted.notActive charge earlier
    change charge.reservationId = _ at same
    rw [same, dispatched.found] at ended
    cases ended
  · change ((state.roles.toList.map roleTokens).map RoleTokens.role).Nodup
    rw [map_map]
    exact state.roles.nodup_keys
  · intro nonempty
    obtain ⟨binding, listed⟩ := exists_mem_of_ne_nil pending nonempty
    obtain ⟨_, role, dispatched⟩ := holds binding listed
    exact ⟨roleTokens (.worker, role), mem_map.mpr
      ⟨_, mem_toList.mpr dispatched.roleFound, rfl⟩, rfl⟩
  · intro tokens listed worker
    obtain ⟨role, roleFound, rfl⟩ := workerFound tokens listed worker
    have same : state.role .worker = role := by
      rw [LedgerState.role, roleFound]
      rfl
    have counted := accounted.counted .worker
    have roleHeld := accounted.roleHeld .worker
    rw [same] at counted roleHeld
    refine ⟨?_, ?_, ?_⟩
    · change _ ≤ role.reservedTokens
      rw [roleHeld, LedgerState.heldOf]
      exact sums fun dispatched => by rw [if_pos dispatched.worker, dispatched.holds]
    · change _ ≤ role.activeReservations
      rw [counted, counts, LedgerState.activeOf]
      exact sums fun dispatched => by rw [if_pos dispatched.worker]
    · change role.consumedTokens ≤ state.consumedTokens
      have sum := sumBy_erase (fun _ (role : RoleState) => role.consumedTokens) roleFound
      have all := accounted.roleConsumed
      omega

/-- What the report says of reserved costs, in total or for a role. -/
structure ReservedReport where
  costUsd : Option Float
  active : ℕ

/-- What the recovery does to it. -/
def ReservedReport.settle (held : ReservedReport) (released : Option Float) :
    Except BudgetError ReservedReport := do
  let costUsd ← remainingReservedCost held.costUsd released (held.active - 1)
  pure ⟨costUsd, held.active - 1⟩

/-- What the report says of reserved costs, in total and for the Worker role. -/
structure ReportCosts where
  totals : ReservedReport
  worker : ReservedReport

/-- What the recovery of one dispatch does to them. -/
def ReportCosts.settle (costs : ReportCosts) (released : Option Float) :
    Except BudgetError ReportCosts := do
  refuseIf (¬ (released.getD 0.0).isFinite = true) .costOverflow
  let totals ← costs.totals.settle released
  let worker ← costs.worker.settle released
  pure ⟨totals, worker⟩

/-- The reserved costs of a role's report. -/
def RoleBudgetReport.reservedReport (role : RoleBudgetReport) : ReservedReport :=
  ⟨role.reserved.costUsd, role.activeReservations⟩

/-- The reserved costs of a report. -/
def RunBudgetReport.costs (report : RunBudgetReport) : ReportCosts where
  totals := ⟨report.reserved.costUsd, report.activeReservations⟩
  worker := (report.roles.find? fun role => role.role = .worker).elim ⟨none, 0⟩
    RoleBudgetReport.reservedReport

/-- The reserved costs of a report after one interrupted reservation after another. -/
def recoverCosts (costs : ReportCosts) (reservations : List BudgetReservation) :
    Except BudgetError ReportCosts :=
  reservations.foldlM (fun costs reservation => costs.settle reservation.costUsd) costs

/-- Updating a role changes the one entry it has. -/
theorem updateRole_ok {change : RoleBudgetReport → Except BudgetError RoleBudgetReport}
    (apart : (roles.map RoleBudgetReport.role).Nodup) :
    updateRole name change roles = .ok changed ↔ ∃ held new,
      roles.find? (fun role => role.role = name) = some held ∧ change held = .ok new ∧
      changed = roles.map fun role => if role.role = name then new else role := by
  induction roles generalizing changed with
  | nil =>
    unfold updateRole
    simp
  | cons report rest ih =>
    obtain ⟨first, apart⟩ := nodup_cons.mp apart
    unfold updateRole
    by_cases here : report.role = name
    · have others : ∀ new, (rest.map fun role => if role.role = name then new else role) =
        rest := by
        intro new
        conv_rhs => rw [← map_id rest]
        apply map_congr_left
        intro other listed
        have different : other.role ≠ name := by
          intro same
          exact first (mem_map.mpr ⟨other, listed, same.trans here.symm⟩)
        rw [if_neg different, id_eq]
      simp only [here, if_true, ok_iff, find?_cons, decide_true, map_cons, others,
        Option.some.injEq]
      constructor
      · rintro ⟨new, changes, rfl⟩
        exact ⟨report, new, rfl, changes, rfl⟩
      · rintro ⟨_, new, rfl, changes, rfl⟩
        exact ⟨new, changes, rfl⟩
    · simp only [here, if_false, ok_iff, ih apart, find?_cons, decide_false, map_cons]
      constructor
      · rintro ⟨_, ⟨held, new, found, changes, rfl⟩, rfl⟩
        exact ⟨held, new, found, changes, rfl⟩
      · rintro ⟨held, new, found, changes, rfl⟩
        exact ⟨_, ⟨held, new, found, changes, rfl⟩, rfl⟩

section Recover

variable {reservations : BTreeMap ℕ BudgetReservation} {report : RunBudgetReport}
  {binding : BudgetDispatchBinding} {rest : List BudgetDispatchBinding}

/-- What is moved by the recovery of some dispatches. -/
structure RecoversAll (report next : RunBudgetReport) (pending : List BudgetDispatchBinding) :
    Prop where
  view : next.tokenView = pending.foldl TokenView.settle report.tokenView
  limits : next.limits = report.limits
  reasons : ∀ reason, reason ∈ next.reasons ↔
    reason ∈ report.reasons ∨ (pending ≠ [] ∧ reason = .missingProviderUsage)
  stopped : pending ≠ [] → next.newDispatchAllowed = false ∧ next.action = .ownerEscalation
  unmoved : pending = [] → next = report

/-- The role list of a report after the Worker is recovered. -/
theorem roles_recovered {roles : List RoleBudgetReport} {held new : RoleBudgetReport}
    (apart : (roles.map RoleBudgetReport.role).Nodup)
    (found : roles.find? (fun role => role.role = .worker) = some held)
    (changed : new.tokens = held.tokens.settle binding) :
    (roles.map fun role => if role.role = .worker then new else role).map RoleBudgetReport.tokens =
      (roles.map RoleBudgetReport.tokens).map (RoleTokens.settle binding) := by
  rw [map_map, map_map]
  apply map_congr_left
  intro role listed
  dsimp only [Function.comp]
  by_cases here : role.role = .worker
  · have isHeld : held.role = .worker := by simpa using find?_some found
    have same : role = held := inj_on_of_nodup_map apart listed
      (mem_of_find?_eq_some found) (here.trans isHeld.symm)
    rw [if_pos here, changed, same]
  · rw [if_neg here]
    exact (if_neg here).symm

/-- The Worker after one of its dispatches is recovered. -/
def recoveredRole (role : RoleBudgetReport) (binding : BudgetDispatchBinding)
    (costUsd : Option Float) : RoleBudgetReport :=
  { role with
    reserved := ⟨role.reserved.tokens - binding.grantTokens, costUsd⟩
    activeReservations := role.activeReservations - 1
    consumed := ⟨role.consumed.tokens + binding.estimateTokens, none⟩
    usageComplete := false }

/-- Recovering the Worker fails only on costs. -/
theorem recoverRole_ok (estimate : reservation.tokens = binding.estimateTokens)
    (enough : binding.grantTokens ≤ role.reserved.tokens) (active : 1 ≤ role.activeReservations)
    (within : role.consumed.tokens + binding.estimateTokens < 2 ^ 64) :
    recoverRole binding.grantTokens reservation (missingCharge reservation) role = .ok new ↔
      ∃ costUsd, remainingReservedCost role.reserved.costUsd reservation.costUsd
          (role.activeReservations - 1) = .ok costUsd ∧
        new = recoveredRole role binding costUsd := by
  simp only [recoverRole, ok_iff, checkedSubU64_eq_some, checkedAddU64_eq_some, missingCharge,
    estimate, enough, active, within, true_and, exists_eq_left]
  constructor
  · rintro ⟨costUsd, remains, rfl⟩
    exact ⟨costUsd, remains, rfl⟩
  · rintro ⟨costUsd, remains, rfl⟩
    exact ⟨costUsd, remains, rfl⟩

/-- The report after one dispatch is recovered. -/
def recoveredReport (report : RunBudgetReport) (reservation : BudgetReservation)
    (binding : BudgetDispatchBinding) (worker : RoleBudgetReport) (costs : ReportCosts) :
    RunBudgetReport :=
  { report with
    reserved := ⟨report.reserved.tokens - binding.grantTokens, costs.totals.costUsd⟩
    activeReservations := report.activeReservations - 1
    consumed := ⟨report.consumed.tokens + binding.estimateTokens, none⟩
    roles := report.roles.map fun role =>
      if role.role = .worker then recoveredRole worker binding costs.worker.costUsd else role
    charges := report.charges ++
      [{ reservationId := binding.reservationId
         role := .worker
         tokens := binding.estimateTokens
         costUsd := none
         usageComplete := false
         pricing :=
          { basis := if reservation.costUsd.isSome then .conservativeReservation else .unpriced
            contract := report.pricingContract
            runtime := some binding.invocation.runtime
            model := none } }]
    usageComplete := false
    costComplete := false
    newDispatchAllowed := false
    action := .ownerEscalation
    reasons :=
      if report.reasons.contains .missingProviderUsage then report.reasons
      else report.reasons ++ [.missingProviderUsage] }

/-- A report that covers interrupted dispatches names each role once. -/
theorem Payable.roleNames (payable : Payable report.tokenView pending) :
    (report.roles.map RoleBudgetReport.role).Nodup := by
  have roles := payable.roles
  change ((report.roles.map RoleBudgetReport.tokens).map RoleTokens.role).Nodup at roles
  rw [map_map] at roles
  exact roles

section

variable (payable : Payable report.tokenView (binding :: rest))

include payable

/-- The Worker of a report that covers interrupted dispatches. -/
theorem Payable.workerReport :
    ∃ worker, report.roles.find? (fun role => role.role = .worker) = some worker ∧
      binding.grantTokens ≤ worker.reserved.tokens ∧ 1 ≤ worker.activeReservations ∧
      worker.consumed.tokens ≤ report.consumed.tokens := by
  obtain ⟨tokens, listed, isWorker⟩ := payable.present (cons_ne_nil binding rest)
  obtain ⟨role, entry, rfl⟩ := mem_map.mp listed
  cases found : report.roles.find? fun role => role.role = .worker with
  | none =>
    rw [find?_eq_none] at found
    exact absurd (decide_eq_true isWorker) (found role entry)
  | some worker =>
    have name : worker.role = .worker := by simpa using find?_some found
    obtain ⟨grants, count, consumed⟩ := payable.worker worker.tokens
      (mem_map_of_mem (mem_of_find?_eq_some found)) name
    rw [map_cons, sum_cons] at grants
    rw [length_cons] at count
    change _ ≤ worker.reserved.tokens at grants
    change _ ≤ worker.activeReservations at count
    exact ⟨worker, rfl, by omega, by omega, consumed⟩

/-- The recovery of one dispatch that the report covers fails only on costs. -/
theorem recoverBinding_ok (isWorker : (interruptedReservation reservations binding).role = .worker)
    (estimate : (interruptedReservation reservations binding).tokens = binding.estimateTokens)
    {worker : RoleBudgetReport}
    (found : report.roles.find? (fun role => role.role = .worker) = some worker)
    {values : RunBudgetReport × BudgetDispatchBinding} :
    recoverBinding reservations report binding = .ok values ↔ ∃ costs,
      report.costs.settle (interruptedReservation reservations binding).costUsd = .ok costs ∧
      values = (recoveredReport report (interruptedReservation reservations binding) binding
        worker costs, settledAtEstimate binding) := by
  have grants := payable.grants
  have count := payable.count
  have covers := payable.covers binding mem_cons_self
  have within := payable.within
  rw [map_cons, sum_cons] at grants
  rw [length_cons] at count
  change _ ≤ report.reserved.tokens at grants
  change _ ≤ report.activeReservations at count
  change report.consumed.tokens + report.reserved.tokens < 2 ^ 64 at within
  obtain ⟨_, same, roleEnough, roleActive, consumes⟩ := payable.workerReport
  rw [found, Option.some.injEq] at same
  subst same
  have apart : (report.roles.map RoleBudgetReport.role).Nodup := payable.roleNames
  have uncharged : ¬ report.charges.any
      (fun charge => charge.reservationId == binding.reservationId) = true := by
    rw [any_eq_true]
    rintro ⟨charge, listed, same⟩
    refine payable.uncharged binding mem_cons_self ?_
    exact mem_map.mpr ⟨_, mem_map_of_mem listed, eq_of_beq same⟩
  have workerCosts : report.costs.worker = worker.reservedReport := by
    rw [RunBudgetReport.costs, found]
    rfl
  have enough : binding.grantTokens ≤ report.reserved.tokens := by omega
  have active : 1 ≤ report.activeReservations := by omega
  have inWord : report.consumed.tokens + binding.estimateTokens < 2 ^ 64 := by omega
  have roleInWord : worker.consumed.tokens + binding.estimateTokens < 2 ^ 64 := by omega
  have free : ¬ ((interruptedReservation reservations binding).role ≠ .worker ∨
      (interruptedReservation reservations binding).tokens ≠ binding.estimateTokens) := by
    rintro (other | other)
    · exact other isWorker
    · exact other estimate
  have tokens : (missingCharge (interruptedReservation reservations binding)).tokens =
    binding.estimateTokens := estimate
  simp only [recoverBinding, ReportCosts.settle, ReservedReport.settle, workerCosts, ok_iff,
    not_not, uncharged, free, true_and, reconciliationCharge_missing, and_assoc, exists_eq_left,
    checkedSubU64_eq_some, checkedAddU64_eq_some, enough, active, updateRole_ok apart, found,
    Option.some.injEq, not_false_eq_true]
  constructor
  · rintro ⟨-, _, finite, rfl, _, -, rfl, costUsd, remains, _, ⟨_, new, rfl, changes, rfl⟩, rfl⟩
    obtain ⟨roleCost, roleRemains, rfl⟩ :=
      (recoverRole_ok estimate roleEnough roleActive roleInWord).mp changes
    refine ⟨_, finite, ⟨_, ⟨costUsd, remains, rfl⟩, _, ⟨roleCost, roleRemains, rfl⟩, rfl⟩, ?_⟩
    rw [recoveredReport, settledAtEstimate, tokens, isWorker]
  · rintro ⟨_, finite, ⟨_, ⟨costUsd, remains, rfl⟩, _, ⟨roleCost, roleRemains, rfl⟩, rfl⟩, rfl⟩
    have changes := (recoverRole_ok estimate roleEnough roleActive roleInWord).mpr
      ⟨roleCost, roleRemains, rfl⟩
    refine ⟨Bool.false_ne_true, _, finite, rfl, _, ?_, rfl, costUsd, remains, _,
      ⟨worker, _, rfl, changes, rfl⟩, ?_⟩
    · rw [tokens]
      exact inWord
    · rw [recoveredReport, settledAtEstimate, tokens, isWorker]

/-- The report after one dispatch is recovered has moved what one settlement moves. -/
theorem recoveredReport_recovers {worker : RoleBudgetReport}
    (found : report.roles.find? (fun role => role.role = .worker) = some worker)
    (reservation : BudgetReservation) {costs : ReportCosts}
    (settles : report.costs.settle reservation.costUsd = .ok costs) :
    RecoversAll report (recoveredReport report reservation binding worker costs) [binding] ∧
      (recoveredReport report reservation binding worker costs).costs = costs := by
  have isWorker : worker.role = .worker := by simpa using find?_some found
  have apart : (report.roles.map RoleBudgetReport.role).Nodup := payable.roleNames
  have workerCosts : report.costs.worker = worker.reservedReport := by
    rw [RunBudgetReport.costs, found]
    rfl
  have moved : (recoveredRole worker binding costs.worker.costUsd).tokens =
      worker.tokens.settle binding := (if_pos isWorker).symm
  refine ⟨⟨?_, rfl, ?_, fun _ => ⟨rfl, rfl⟩, fun empty => by cases empty⟩, ?_⟩
  · simp only [RunBudgetReport.tokenView, foldl_cons, foldl_nil, TokenView.settle,
      TokenView.mk.injEq]
    refine ⟨rfl, rfl, rfl, roles_recovered apart found moved, ?_⟩
    rw [recoveredReport, map_append]
    rfl
  · intro reason
    change reason ∈ (if report.reasons.contains .missingProviderUsage then report.reasons
      else report.reasons ++ [.missingProviderUsage]) ↔ _
    by_cases listed : report.reasons.contains .missingProviderUsage = true
    · rw [if_pos listed]
      rw [contains_iff_mem] at listed
      constructor
      · exact .inl
      · rintro (earlier | ⟨-, rfl⟩)
        · exact earlier
        · exact listed
    · rw [if_neg listed]
      simp
  · simp only [ReportCosts.settle, ReservedReport.settle, workerCosts, ok_iff] at settles
    obtain ⟨-, _, ⟨costUsd, -, rfl⟩, _, ⟨roleCost, -, rfl⟩, rfl⟩ := settles
    have same : ((fun role : RoleBudgetReport => decide (role.role = .worker)) ∘ fun role =>
        if role.role = .worker then recoveredRole worker binding roleCost else role) =
        fun role => decide (role.role = .worker) := by
      funext role
      by_cases here : role.role = .worker
      · simp [here, recoveredRole, isWorker]
      · simp [here]
    rw [RunBudgetReport.costs, recoveredReport]
    rw [find?_map, same, found, Option.map_some, if_pos isWorker]
    rfl

end

variable {last : RunBudgetReport}

/-- One recovery before the others. -/
theorem RecoversAll.cons {next : RunBudgetReport} (one : RecoversAll report next [binding])
    (others : RecoversAll next last rest) : RecoversAll report last (binding :: rest) := by
  refine ⟨?_, others.limits.trans one.limits, ?_, ?_, fun empty => by cases empty⟩
  · rw [others.view, one.view]
    rfl
  · intro reason
    rw [others.reasons, one.reasons]
    have first : [binding] ≠ [] := cons_ne_nil binding []
    have both : binding :: rest ≠ [] := cons_ne_nil binding rest
    tauto
  · intro _
    by_cases empty : rest = []
    · rw [others.unmoved empty]
      exact one.stopped (cons_ne_nil binding [])
    · exact others.stopped empty

/-- The reservations fit the interrupted dispatches of Workers. -/
def ReservationsFit (reservations : BTreeMap ℕ BudgetReservation)
    (pending : List BudgetDispatchBinding) : Prop :=
  ∀ binding ∈ pending, (interruptedReservation reservations binding).role = .worker ∧
    (interruptedReservation reservations binding).tokens = binding.estimateTokens

variable {bindings seen : List BudgetDispatchBinding}

/-- The loop of the recovery goes through exactly when the costs do. -/
theorem recoverBindings_cases (seen : List BudgetDispatchBinding)
    (payable : Payable report.tokenView (interruptedOf bindings))
    (fit : ReservationsFit reservations (interruptedOf bindings)) :
    (∃ next, RecoversAll report next (interruptedOf bindings) ∧
      recoverCosts report.costs ((interruptedOf bindings).map
        (interruptedReservation reservations)) = .ok next.costs ∧
      recoverBindings reservations none bindings seen report = .ok { next with
        dispatchBindings := seen ++ bindings.map settleInterrupted }) ∨
    ∃ refusal other, recoverCosts report.costs ((interruptedOf bindings).map
        (interruptedReservation reservations)) = .error refusal ∧
      recoverBindings reservations none bindings seen report = .error other := by
  induction bindings generalizing seen report with
  | nil =>
    refine .inl ⟨report, ⟨rfl, rfl, ?_, fun some => absurd rfl some, fun _ => rfl⟩, rfl, ?_⟩
    · simp [interruptedOf]
    · rw [map_nil, append_nil]
      rfl
  | cons binding rest ih =>
    unfold recoverBindings
    rw [map_cons, settleInterrupted, append_cons seen _ (rest.map settleInterrupted)]
    by_cases here : interrupted none binding = true
    · have pending : interruptedOf (binding :: rest) = binding :: interruptedOf rest :=
        filter_cons_of_pos here
      rw [pending] at payable fit ⊢
      obtain ⟨isWorker, estimate⟩ := fit binding mem_cons_self
      obtain ⟨worker, found, -⟩ := payable.workerReport
      rw [if_pos here, if_pos here, map_cons, recoverCosts, foldlM_cons]
      cases settles : report.costs.settle (interruptedReservation reservations binding).costUsd with
      | error refusal =>
        obtain ⟨values, first⟩ | ⟨other, first⟩ :=
          ok_or_error (recoverBinding reservations report binding)
        · obtain ⟨costs, again, -⟩ := (recoverBinding_ok payable isWorker estimate found).mp first
          cases settles.symm.trans again
        · rw [first]
          exact .inr ⟨refusal, other, rfl, rfl⟩
      | ok costs =>
        obtain ⟨one, sameCosts⟩ := recoveredReport_recovers payable found _ settles
        have others := payable.settle
        rw [show report.tokenView.settle binding = _ from one.view.symm] at others
        rw [(recoverBinding_ok payable isWorker estimate found).mpr ⟨costs, settles, rfl⟩]
        have later := ih (seen ++ [settledAtEstimate binding]) others
          fun other listed => fit other (mem_cons_of_mem _ listed)
        rw [sameCosts] at later
        exact later.imp (fun ⟨next, recovers, rest⟩ => ⟨next, one.cons recovers, rest⟩) id
    · have pending : interruptedOf (binding :: rest) = interruptedOf rest :=
        filter_cons_of_neg here
      rw [pending] at payable fit ⊢
      rw [if_neg here, if_neg here]
      exact ih (seen ++ [binding]) payable fit

/-- A token ceiling is reached, for the reason of that ceiling. -/
def RunBudgetLimits.tokenReached (limits : RunBudgetLimits) (committed : ℕ) : BudgetReason → Bool
  | .softTokenCeilingReached => tokensReached limits.softTokens committed
  | .hardTokenCeilingReached => tokensReached limits.hardTokens committed
  | _ => false

/-- What the recovery computes after its loop. -/
structure Closes (report recovered : RunBudgetReport) : Prop where
  view : recovered.tokenView = report.tokenView
  bindings : recovered.dispatchBindings = report.dispatchBindings
  committed : recovered.committed.tokens = report.consumed.tokens + report.reserved.tokens
  softTokens : recovered.remaining.softTokens =
    report.limits.softTokens.map (· - (report.consumed.tokens + report.reserved.tokens))
  hardTokens : recovered.remaining.hardTokens =
    report.limits.hardTokens.map (· - (report.consumed.tokens + report.reserved.tokens))
  allowed : recovered.newDispatchAllowed = report.newDispatchAllowed
  action : recovered.action = report.action
  reasons : ∀ reason, reason ∈ recovered.reasons ↔
    (reason ∈ report.reasons ∧ reason.isTokenCeiling = false) ∨
      report.limits.tokenReached (report.consumed.tokens + report.reserved.tokens) reason = true

variable {recovered : RunBudgetReport}

/-- What a closed recovery has computed. -/
theorem closeRecovery_ok
    (done : closeRecovery report = .ok recovered) : Closes report recovered := by
  simp only [closeRecovery, ok_iff, checkedAddU64_eq_some] at done
  obtain ⟨_, ⟨within, rfl⟩, rfl⟩ := done
  refine ⟨rfl, rfl, rfl, rfl, rfl, rfl, rfl, fun reason => ?_⟩
  simp only [mem_insertionSort, mem_append, mem_filter, mem_ite_nil_right, mem_singleton]
  cases reason <;> simp [BudgetReason.isTokenCeiling, RunBudgetLimits.tokenReached]

/-- The recovery closes when the committed tokens are a word. -/
theorem closeRecovery_succeeds (within : report.consumed.tokens + report.reserved.tokens < 2 ^ 64) :
    ∃ recovered, closeRecovery report = .ok recovered := by
  simp only [closeRecovery, ok_iff, checkedAddU64_eq_some]
  exact ⟨_, _, ⟨within, rfl⟩, rfl⟩

/-- Computing the token reasons anew changes nothing the second time. -/
theorem sortReasons_idempotent
    (ceilings : ∀ reason ∈ added, reason.isTokenCeiling = true) (reasons : List BudgetReason) :
    (((reasons.filter (fun reason => !reason.isTokenCeiling) ++ added).insertionSort
        (· ≤ ·)).filter (fun reason => !reason.isTokenCeiling) ++ added).insertionSort (· ≤ ·) =
      (reasons.filter (fun reason => !reason.isTokenCeiling) ++ added).insertionSort (· ≤ ·) := by
  have dropped : added.filter (fun reason => !reason.isTokenCeiling) = [] := by
    rw [filter_eq_nil_iff]
    intro reason listed
    rw [ceilings reason listed]
    decide
  have kept := (perm_insertionSort (· ≤ ·)
    (reasons.filter (fun reason => !reason.isTokenCeiling) ++ added)).filter
      fun reason => !reason.isTokenCeiling
  rw [filter_append, dropped, append_nil, filter_filter] at kept
  simp only [Bool.and_self] at kept
  refine List.Perm.eq_of_pairwise' (pairwise_insertionSort _ _)
    (pairwise_insertionSort _ _) ?_
  refine (perm_insertionSort _ _).trans (.trans ?_ (perm_insertionSort _ _).symm)
  exact kept.append_right added

/-- Closing a closed recovery changes nothing. -/
theorem closeRecovery_idempotent
    (done : closeRecovery report = .ok recovered) : closeRecovery recovered = .ok recovered := by
  simp only [closeRecovery, ok_iff, checkedAddU64_eq_some] at done
  obtain ⟨_, ⟨within, rfl⟩, rfl⟩ := done
  simp only [closeRecovery, ok_iff, checkedAddU64_eq_some]
  refine ⟨_, ⟨within, rfl⟩, ?_⟩
  rw [append_assoc, append_assoc, sortReasons_idempotent]
  · cases report.costComplete
    · rfl
    · rfl
  · intro reason listed
    rw [mem_append, mem_ite_nil_right, mem_ite_nil_right, mem_singleton, mem_singleton] at listed
    rcases listed with ⟨-, rfl⟩ | ⟨-, rfl⟩
    · rfl
    · rfl

/-- The loop of the recovery leaves nothing interrupted. -/
theorem recoverBindings_settled
    (done : recoverBindings reservations none bindings seen report = .ok last)
    (ended : ∀ binding ∈ seen, interrupted none binding = false) :
    ∀ binding ∈ last.dispatchBindings, interrupted none binding = false := by
  induction bindings generalizing seen report with
  | nil =>
    cases done
    exact ended
  | cons binding rest ih =>
    unfold recoverBindings at done
    have extend : ∀ settled, interrupted none settled = false →
        ∀ other ∈ seen ++ [settled], interrupted none other = false := by
      exact fun settled => forall_mem_concat ended
    by_cases here : interrupted none binding = true
    · rw [if_pos here, bind_ok] at done
      obtain ⟨⟨next, settled⟩, first, done⟩ := done
      refine ih done (extend settled ?_)
      simp only [recoverBinding, ok_iff, Prod.mk.injEq] at first
      obtain ⟨-, -, -, -, charge, -, _, -, _, -, _, -, _, -, _, -, -, rfl⟩ := first
      rfl
    · rw [if_neg here] at done
      exact ih done (extend binding (Bool.eq_false_of_not_eq_true here))

/-- The loop of the recovery passes over what is not interrupted. -/
theorem recoverBindings_ended (ended : ∀ binding ∈ bindings, interrupted none binding = false) :
    recoverBindings reservations none bindings seen report = .ok { report with
      dispatchBindings := seen ++ bindings } := by
  induction bindings generalizing seen with
  | nil =>
    rw [append_nil]
    rfl
  | cons binding rest ih =>
    have here : ¬ interrupted none binding = true := by
      rw [ended binding mem_cons_self]
      decide
    unfold recoverBindings
    rw [if_neg here, ih fun other listed => ended other (mem_cons_of_mem _ listed), append_assoc]
    rfl

/-- Recovering a recovered report changes nothing. -/
theorem reconcileInterruptedDispatches_twice
    (done : report.reconcileInterruptedDispatches reservations = .ok recovered)
    (others : BTreeMap ℕ BudgetReservation) :
    recovered.reconcileInterruptedDispatches others = .ok recovered := by
  simp only [RunBudgetReport.reconcileInterruptedDispatches,
    RunBudgetReport.reconcileInterruptedDispatchesMatching, bind_ok] at done ⊢
  obtain ⟨last, looped, closed⟩ := done
  have ended := recoverBindings_settled looped (fun _ listed => by cases listed)
  rw [← (closeRecovery_ok closed).bindings] at ended
  exact ⟨recovered, recoverBindings_ended ended, closeRecovery_idempotent closed⟩

end Recover

end Maco.RunBudget
