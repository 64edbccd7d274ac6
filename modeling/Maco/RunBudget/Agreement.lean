import Maco.RunBudget.Recovery

/-!
# Recovery and live settlement agree

A crashed run can be closed in two ways: the recovery settles the interrupted dispatches on the
report, and the live ledger would have settled them one by one. The two give the same report exactly
when the costs go through on both sides and no reason is known to one side only. A token ceiling
that was latched by a refused reservation is such a reason: the recovery forgets it once the tokens
are below the ceiling.
-/

namespace Maco.RunBudget

open Maco.Base Maco.Base.BTreeMap Maco.RollingBudget RunBudgetLedger List

variable {codec : Codec} {ledger : RunBudgetLedger} {state : LedgerState}

/-- The interrupted dispatches of a state. -/
def LedgerState.interrupted (state : LedgerState) : List BudgetDispatchBinding :=
  interruptedOf (BTreeMap.values state.dispatchBindings)

/-- The reservations of the interrupted dispatches. -/
def LedgerState.interruptedReservations (state : LedgerState) : List BudgetReservation :=
  state.interrupted.map (interruptedReservation state.active)

/-- The committed tokens once the interrupted dispatches are settled. -/
def LedgerState.settledTokens (state : LedgerState) : ℕ :=
  (state.interrupted.foldl TokenView.settle state.tokenView).consumed +
    (state.interrupted.foldl TokenView.settle state.tokenView).reserved

/-- What the two reports are compared on. -/
structure Agrees (recovered live : RunBudgetReport) : Prop where
  view : recovered.tokenView = live.tokenView
  committed : recovered.committed.tokens = live.committed.tokens
  softTokens : recovered.remaining.softTokens = live.remaining.softTokens
  hardTokens : recovered.remaining.hardTokens = live.remaining.hardTokens
  bindings : recovered.dispatchBindings = live.dispatchBindings
  allowed : recovered.newDispatchAllowed = live.newDispatchAllowed
  action : recovered.action = live.action
  reasons : ∀ reason, reason ∈ recovered.reasons ↔ reason ∈ live.reasons

/-- The reasons of the cost ceilings. -/
def BudgetReason.isCostCeiling : BudgetReason → Bool
  | .softCostCeilingReached | .hardCostCeilingReached => true
  | _ => false

/-- No reason is known to one side only. A latched or answered token ceiling is still reached, what
the rolling ledger answers was reported before, and a reported cost ceiling was latched. -/
structure ReasonsAgree (limits : RunBudgetLimits) (state : LedgerState) (report : RunBudgetReport)
    (answers : List BudgetReason) : Prop where
  tokens : ∀ reason : BudgetReason, reason.isTokenCeiling = true →
    reason ∈ state.persistentReasons ∨ reason ∈ answers →
    limits.tokenReached state.settledTokens reason = true
  answered : ∀ reason ∈ answers, reason ∈ report.reasons ∨ reason.isTokenCeiling = true ∨
    reason = .missingProviderUsage
  costs : state.interrupted ≠ [] → ∀ reason ∈ report.reasons, reason.isCostCeiling = true →
    reason ∈ state.persistentReasons ∨ reason ∈ answers

/-- The interrupted dispatches of a bound state, when Workers made them. -/
theorem interrupted_of_bound (bound : Bound state)
    (workers : ∀ binding ∈ state.interrupted, ∀ reservation,
      state.active[binding.reservationId]? = some reservation → reservation.role = .worker) :
    Interrupted state state.interrupted := by
  have keyed : ∀ (id : ℕ) binding, state.dispatchBindings[id]? = some binding →
      binding.reservationId = id := fun id binding found => (bound id binding found).named
  refine ⟨fun binding listed => ?_, fun binding listed => ?_, workers, ?_⟩
  · obtain ⟨id, found⟩ := mem_values.mp (mem_of_mem_filter listed)
    rw [keyed id binding found]
    exact found
  · have isInterrupted : interrupted none binding = true := of_mem_filter listed
    rw [RunBudget.interrupted, Bool.and_eq_true, decide_eq_true_iff] at isInterrupted
    exact isInterrupted.1
  · exact (nodup_key_values keyed).sublist (filter_sublist.map _)

/-- The bindings of the live ledger after the settlements are those the recovery computes. -/
theorem settled_bindings {next : LedgerState} {answers : List BudgetReason} (bound : Bound state)
    (settles : SettlesAll state next state.interrupted answers) :
    BTreeMap.values next.dispatchBindings =
      (BTreeMap.values state.dispatchBindings).map settleInterrupted := by
  apply values_map
  intro id
  rw [settles.bindings]
  cases found : state.dispatchBindings[id]? with
  | none => split <;> rfl
  | some binding =>
    have named := (bound id binding found).named
    by_cases here : interrupted none binding = true
    · have listed : binding ∈ state.interrupted :=
        mem_filter.mpr ⟨mem_values.mpr ⟨id, found⟩, here⟩
      rw [if_pos (mem_map.mpr ⟨binding, listed, named⟩), Option.map_some, Option.map_some,
        settleInterrupted, if_pos here]
    · rw [if_neg, Option.map_some, settleInterrupted, if_neg here]
      intro listed
      obtain ⟨other, member, same⟩ := mem_map.mp listed
      obtain ⟨key, present⟩ := mem_values.mp (mem_of_mem_filter member)
      rw [← (bound key other present).named, same, found, Option.some.injEq] at present
      rw [present] at here
      exact here (of_mem_filter member)

variable {reason : BudgetReason}

theorem mem_insertReasonIf :
    other ∈ insertReasonIf condition reason reasons ↔
      (condition = true ∧ other = reason) ∨ other ∈ reasons := by
  unfold insertReasonIf
  split
  · rename_i holds
    rw [BTreeSet.mem_insert, eq_comm]
    simp [holds]
  · rename_i fails
    simp [fails]

/-- A cost ceiling is reached, for the reason of that ceiling. -/
def RunBudgetLimits.costReached (limits : RunBudgetLimits) (costUsd : Float) : BudgetReason → Bool
  | .softCostCeilingReached => RunBudget.costReached limits.softCostUsd costUsd
  | .hardCostCeilingReached => RunBudget.costReached limits.hardCostUsd costUsd
  | _ => false

variable {limits : RunBudgetLimits} {maxDurationSeconds : Option ℕ} {committedTokens elapsed : ℕ}
  {committedCostUsd : Float}

/-- The reasons of a report. -/
theorem mem_reportReasons :
    reason ∈
        reportReasons limits maxDurationSeconds state committedTokens committedCostUsd elapsed ↔
      reason ∈ state.persistentReasons ∨ limits.tokenReached committedTokens reason = true ∨
      (state.committedCostComplete = true ∧ limits.costReached committedCostUsd reason = true) ∨
      (reason = .maxDurationReached ∧ (maxDurationSeconds.any fun limit =>
        decide (limit * nanosPerSecond ≤ elapsed)) = true) := by
  simp only [reportReasons, mem_insertReasonIf, Bool.and_eq_true]
  cases reason <;> simp [RunBudgetLimits.tokenReached, RunBudgetLimits.costReached] <;> tauto

theorem dispatchAllowed_of_stopped (stopped : state.forceStop = true) :
    dispatchAllowed limits maxDurationSeconds state committedTokens committedCostUsd elapsed =
      false := by
  simp [dispatchAllowed, stopped]

theorem isTokenCeiling_of_reached
    (reached : limits.tokenReached committed reason = true) : reason.isTokenCeiling = true := by
  cases reason <;> first | rfl | cases reached

theorem isCostCeiling_of_reached (reached : limits.costReached costUsd reason = true) :
    reason.isCostCeiling = true ∧ reason.isTokenCeiling = false := by
  cases reason <;> first | exact ⟨rfl, rfl⟩ | cases reached

/-- A cost ceiling is no token ceiling, and neither of the other reasons a report computes. -/
theorem isCostCeiling_cases (ceiling : reason.isCostCeiling = true) :
    reason.isTokenCeiling = false ∧ reason ≠ .missingProviderUsage ∧
      reason ≠ .maxDurationReached := by
  revert ceiling
  cases reason <;> decide

section Sides

variable {now later : Environment} {report last recovered live : RunBudgetReport}
  {cost liveCost : Float} {next : LedgerState} {answers : List BudgetReason}

/-- The two sides, once both have gone through: the recovery has settled `report` to `recovered`,
and the ledger has settled `state` to `next`, which it reports as `live`. -/
structure Sides (ledger : RunBudgetLedger) (now later : Environment) (state next : LedgerState)
    (report last recovered live : RunBudgetReport) (cost liveCost : Float)
    (answers : List BudgetReason) : Prop where
  bound : Bound state
  elapsed : later.elapsed = now.elapsed
  reports : Reports ledger now state report cost
  recovers : RecoversAll report last state.interrupted
  closes : Closes { last with
    dispatchBindings := (BTreeMap.values state.dispatchBindings).map settleInterrupted } recovered
  settles : SettlesAll state next state.interrupted answers
  liveReports : Reports ledger later next live liveCost
  silent : state.interrupted = [] → answers = []

variable (sides : Sides ledger now later state next report last recovered live cost liveCost answers)

include sides

/-- Both sides have the same tokens. -/
theorem Sides.view :
    recovered.tokenView = live.tokenView ∧
      live.tokenView = state.interrupted.foldl TokenView.settle state.tokenView := by
  have liveView := sides.liveReports.view.trans sides.settles.view
  have recoveredView : recovered.tokenView = last.tokenView := sides.closes.view
  rw [recoveredView, sides.recovers.view, sides.reports.view, liveView]
  exact ⟨rfl, rfl⟩

/-- Both sides have committed the same tokens. -/
theorem Sides.committed :
    last.consumed.tokens + last.reserved.tokens = state.settledTokens ∧
      next.consumedTokens + next.reservedTokens = state.settledTokens := by
  have recoveredView := sides.recovers.view
  rw [sides.reports.view] at recoveredView
  have liveView := sides.settles.view
  unfold LedgerState.settledTokens
  rw [← recoveredView]
  refine ⟨rfl, ?_⟩
  rw [recoveredView, ← liveView]
  rfl

/-- When nothing is interrupted, the live ledger reports the state it started from. -/
theorem Sides.unmoved (none : state.interrupted = []) : next = state ∧ liveCost = cost := by
  have same := sides.settles.unmoved none
  have again := sides.liveReports.cost
  rw [same, sides.reports.cost, Except.ok.injEq] at again
  exact ⟨same, again.symm⟩

theorem Sides.sameLimits : last.limits = ledger.limits :=
  sides.recovers.limits.trans sides.reports.limits

/-- Both sides allow the same and act the same. -/
theorem Sides.action :
    recovered.newDispatchAllowed = live.newDispatchAllowed ∧ recovered.action = live.action := by
  have allowed : recovered.newDispatchAllowed = last.newDispatchAllowed := sides.closes.allowed
  have action : recovered.action = last.action := sides.closes.action
  rw [allowed, action]
  by_cases none : state.interrupted = []
  · -- nothing was settled, so the live report is the report, made again
    obtain ⟨same, sameCost⟩ := sides.unmoved none
    rw [sides.recovers.unmoved none, sides.liveReports.action, sides.liveReports.reasons,
      sides.liveReports.allowed, sides.reports.action, sides.reports.reasons,
      sides.reports.allowed, same, sameCost, sides.elapsed]
    exact ⟨rfl, rfl⟩
  · obtain ⟨refused, escalated⟩ := sides.recovers.stopped none
    have stopped : live.newDispatchAllowed = false := by
      rw [sides.liveReports.allowed]
      exact dispatchAllowed_of_stopped (sides.settles.stopped none).1
    rw [refused, escalated, sides.liveReports.action, stopped]
    exact ⟨rfl, rfl⟩

section

variable (reason : BudgetReason)

/-- The reasons of the recovery. -/
theorem Sides.mem_recovered :
    reason ∈ recovered.reasons ↔
      ((reason ∈ report.reasons ∨ (state.interrupted ≠ [] ∧ reason = .missingProviderUsage)) ∧
        reason.isTokenCeiling = false) ∨
      ledger.limits.tokenReached state.settledTokens reason = true := by
  rw [sides.closes.reasons]
  rw [sides.committed.1, sides.sameLimits, sides.recovers.reasons]

/-- The reasons of the report. -/
theorem Sides.mem_report :
    reason ∈ report.reasons ↔ reason ∈ state.persistentReasons ∨
      ledger.limits.tokenReached (state.consumedTokens + state.reservedTokens) reason = true ∨
      (state.committedCostComplete = true ∧ ledger.limits.costReached cost reason = true) ∨
      (reason = .maxDurationReached ∧ (ledger.maxDurationSeconds.any fun limit =>
        decide (limit * nanosPerSecond ≤ now.elapsed)) = true) := by
  rw [sides.reports.reasons, BTreeSet.mem_toList, mem_reportReasons]

/-- The reasons of the live ledger. -/
theorem Sides.mem_live :
    reason ∈ live.reasons ↔ (reason ∈ state.persistentReasons ∨
        (state.interrupted ≠ [] ∧ reason = .missingProviderUsage) ∨ reason ∈ answers) ∨
      ledger.limits.tokenReached state.settledTokens reason = true ∨
      (next.committedCostComplete = true ∧ ledger.limits.costReached liveCost reason = true) ∨
      (reason = .maxDurationReached ∧ (ledger.maxDurationSeconds.any fun limit =>
        decide (limit * nanosPerSecond ≤ now.elapsed)) = true) := by
  rw [sides.liveReports.reasons, BTreeSet.mem_toList, mem_reportReasons, sides.settles.latched,
    sides.committed.2, sides.elapsed]

/-- The live ledger reports a cost ceiling anew only when nothing was settled. -/
theorem Sides.cost_reached :
    (next.committedCostComplete = true ∧ ledger.limits.costReached liveCost reason = true) ↔
      state.interrupted = [] ∧ state.committedCostComplete = true ∧
        ledger.limits.costReached cost reason = true := by
  by_cases none : state.interrupted = []
  · obtain ⟨same, sameCost⟩ := sides.unmoved none
    rw [same, sameCost]
    simp [none]
  · have unknown : next.committedCostComplete = false := by
      rw [LedgerState.committedCostComplete, (sides.settles.stopped none).2, Bool.false_and]
    simp [unknown, none]

end

/-- Both sides give the same reasons exactly when no reason is known to one side only. -/
theorem Sides.reasons_iff :
    (∀ reason, reason ∈ recovered.reasons ↔ reason ∈ live.reasons) ↔
      ReasonsAgree ledger.limits state report answers := by
  have inRecovered := sides.mem_recovered
  have inReport := sides.mem_report
  have inLive := sides.mem_live
  have atCost := sides.cost_reached
  constructor
  · intro agree
    refine ⟨fun reason ceiling latched => ?_, fun reason answered => ?_,
      fun some reason reported ceiling => ?_⟩
    · have listed : reason ∈ live.reasons := by
        rw [inLive]
        tauto
      rw [← agree, inRecovered, ceiling] at listed
      simpa using listed
    · have listed : reason ∈ live.reasons := by
        rw [inLive]
        tauto
      rw [← agree, inRecovered] at listed
      rcases listed with ⟨reported | ⟨-, missing⟩, -⟩ | reached
      · exact .inl reported
      · exact .inr (.inr missing)
      · exact .inr (.inl (isTokenCeiling_of_reached reached))
    · obtain ⟨noToken, notMissing, notDuration⟩ := isCostCeiling_cases ceiling
      have listed : reason ∈ recovered.reasons := by
        rw [inRecovered]
        exact .inl ⟨.inl reported, noToken⟩
      rw [agree, inLive, atCost] at listed
      rcases listed with (latched | ⟨-, missing⟩ | answered) | reached | ⟨none, -⟩ | ⟨duration, -⟩
      · exact .inl latched
      · exact absurd missing notMissing
      · exact .inr answered
      · rw [isTokenCeiling_of_reached reached] at noToken
        cases noToken
      · exact absurd none some
      · exact absurd duration notDuration
  · rintro ⟨tokens, answered, costs⟩ reason
    rw [inRecovered, inLive, atCost]
    constructor
    · rintro (⟨reported | missing, noToken⟩ | reached)
      · have reported' := reported
        rw [inReport] at reported
        rcases reported with latched | reached | ⟨complete, reached⟩ | duration
        · exact .inl (.inl latched)
        · rw [isTokenCeiling_of_reached reached] at noToken
          cases noToken
        · by_cases none : state.interrupted = []
          · exact .inr (.inr (.inl ⟨none, complete, reached⟩))
          · have known := costs none reason reported' (isCostCeiling_of_reached reached).1
            tauto
        · exact .inr (.inr (.inr duration))
      · exact .inl (.inr (.inl missing))
      · exact .inr (.inl reached)
    · rintro ((latched | ⟨some, rfl⟩ | answer) | reached | ⟨none, complete, reached⟩ | duration)
      · cases ceiling : reason.isTokenCeiling with
        | true => exact .inr (tokens reason ceiling (.inl latched))
        | false => exact .inl ⟨.inl ((inReport reason).mpr (.inl latched)), rfl⟩
      · exact .inl ⟨.inr ⟨some, rfl⟩, rfl⟩
      · cases ceiling : reason.isTokenCeiling with
        | true => exact .inr (tokens reason ceiling (.inr answer))
        | false =>
          rcases answered reason answer with reported | token | missing
          · exact .inl ⟨.inl reported, rfl⟩
          · rw [ceiling] at token
            cases token
          · refine .inl ⟨.inr ⟨fun none => ?_, missing⟩, rfl⟩
            rw [sides.silent none] at answer
            cases answer
      · exact .inr reached
      · refine .inl ⟨.inl ((inReport reason).mpr (.inr (.inr (.inl ⟨complete, reached⟩)))), ?_⟩
        exact (isCostCeiling_of_reached reached).2
      · refine .inl ⟨.inl ((inReport reason).mpr (.inr (.inr (.inr duration)))), ?_⟩
        rw [duration.1]
        rfl

/-- The two sides agree exactly when their reasons do. -/
theorem Sides.agrees_iff :
    Agrees recovered live ↔ ReasonsAgree ledger.limits state report answers := by
  rw [← sides.reasons_iff]
  constructor
  · intro agrees
    exact agrees.reasons
  · intro reasons
    obtain ⟨lastCommitted, nextCommitted⟩ := sides.committed
    obtain ⟨allowed, action⟩ := sides.action
    refine ⟨sides.view.1, ?_, ?_, ?_, ?_, allowed, action, reasons⟩
    · rw [sides.closes.committed, sides.liveReports.committed, nextCommitted]
      exact lastCommitted
    · rw [sides.closes.softTokens, sides.liveReports.softTokens, nextCommitted, ← lastCommitted,
        ← sides.sameLimits]
    · rw [sides.closes.hardTokens, sides.liveReports.hardTokens, nextCommitted, ← lastCommitted,
        ← sides.sameLimits]
    · rw [sides.closes.bindings, sides.liveReports.bindings]
      exact (settled_bindings sides.bound sides.settles).symm

end Sides

variable {pending : List BudgetDispatchBinding}

/-- The reservations of a bound state fit its interrupted dispatches. -/
theorem reservationsFit_of_bound (accounted : Accounted state) (bound : Bound state)
    (interrupted : Interrupted state pending) : ReservationsFit state.active pending := by
  intro binding listed
  obtain ⟨_, role, dispatched, rfl, -⟩ := interrupted.dispatched accounted bound listed
  exact ⟨dispatched.worker, dispatched.estimate⟩

/-- A report depends on its environment through the elapsed time only. -/
theorem reportForState_again {now later : Environment} {report : RunBudgetReport}
    (made : ledger.reportForState now state = .ok report) (elapsed : later.elapsed = now.elapsed) :
    ledger.reportForState later state = .ok report := by
  rw [reportForState, elapsed]
  exact made

/-- What is left is covered when every dispatch is settled. -/
theorem Payable.settleAll
    (payable : Payable view pending) : Payable (pending.foldl TokenView.settle view) [] := by
  induction pending generalizing view with
  | nil => exact payable
  | cons binding rest ih => exact ih payable.settle

section Recovery

variable {environment now later : Environment} {rolling : Option (AttachedRollingBudget codec)}
  {report : RunBudgetReport} {environments : ℕ → Environment} {cost : Float}

/-- The recovery of a report goes through exactly when its costs do. -/
theorem reconcileInterruptedDispatches_cases (reports : Reports ledger now state report cost)
    (payable : Payable state.tokenView state.interrupted)
    (fit : ReservationsFit state.active state.interrupted) :
    (∃ last recovered, RecoversAll report last state.interrupted ∧
      recoverCosts report.costs state.interruptedReservations = .ok last.costs ∧
      Closes { last with
        dispatchBindings := (BTreeMap.values state.dispatchBindings).map settleInterrupted }
        recovered ∧ report.reconcileInterruptedDispatches state.active = .ok recovered) ∨
    ∃ refusal other, recoverCosts report.costs state.interruptedReservations = .error refusal ∧
      report.reconcileInterruptedDispatches state.active = .error other := by
  have within := payable.settleAll.within
  rw [← reports.view] at payable within
  unfold RunBudgetReport.reconcileInterruptedDispatches
    RunBudgetReport.reconcileInterruptedDispatchesMatching
  rw [reports.bindings]
  obtain ⟨last, recovers, costs, looped⟩ | ⟨refusal, other, costs, looped⟩ :=
    recoverBindings_cases [] payable fit
  · have view : last.tokenView = state.interrupted.foldl TokenView.settle report.tokenView :=
      recovers.view
    rw [← view] at within
    obtain ⟨recovered, closed⟩ : ∃ recovered, closeRecovery { last with
        dispatchBindings := (values state.dispatchBindings).map settleInterrupted } =
          .ok recovered :=
      closeRecovery_succeeds within
    refine .inl ⟨last, recovered, recovers, costs, closeRecovery_ok closed, ?_⟩
    rw [looped]
    exact closed
  · refine .inr ⟨refusal, other, costs, ?_⟩
    rw [looped]
    rfl

/-- When the recovery of a report is what the live ledger would have come to. -/
structure RecoveryFaithful (ledger : RunBudgetLedger) (environments : ℕ → Environment)
    (budget : SharedBudget codec) (report : RunBudgetReport) : Prop where
  recovers : ∃ costs, recoverCosts report.costs budget.state.interruptedReservations = .ok costs
  settles : ∃ costs, settleCosts budget.state.costs budget.state.interruptedReservations = .ok costs
  reasons : ∃ answers, ledger.settleRolling environments budget.rolling
      budget.state.interruptedReservations = .ok answers ∧
    ReasonsAgree ledger.limits budget.state report answers

/-- The recovery of a report and the live ledger come to the same. -/
def SettlesAlike (ledger : RunBudgetLedger) (environments : ℕ → Environment) (later : Environment)
    (budget : SharedBudget codec) (report : RunBudgetReport) : Prop :=
  ∃ recovered next live,
    report.reconcileInterruptedDispatches budget.state.active = .ok recovered ∧
    ledger.settleEach environments budget budget.state.interrupted = .ok next ∧
    ledger.reportForState later next.state = .ok live ∧ Agrees recovered live

/-- Whether the two come to the same is decided by the costs and the reasons. -/
theorem settlesAlike_iff {budget : SharedBudget codec} (accounted : Accounted budget.state)
    (bound : Bound budget.state) (hard : ledger.limits.hardTokens.isSome = true)
    (workers : ∀ binding ∈ budget.state.interrupted, ∀ reservation,
      budget.state.active[binding.reservationId]? = some reservation → reservation.role = .worker)
    (made : ledger.reportForState now budget.state = .ok report)
    (elapsed : later.elapsed = now.elapsed) :
    SettlesAlike ledger environments later budget report ↔
      RecoveryFaithful ledger environments budget report := by
  obtain ⟨cost, reports⟩ := reportForState_ok made
  have interrupted := interrupted_of_bound bound workers
  have payable := payable_of_accounted accounted bound reports.within interrupted
  have fit := reservationsFit_of_bound accounted bound interrupted
  have reportable : Reportable budget.state := ⟨reports.within, cost, reports.cost⟩
  obtain ⟨last, recovered, recovers, costs, closes, recovery⟩ | ⟨_, _, costs, failed⟩ :=
    reconcileInterruptedDispatches_cases reports payable fit
  swap
  · constructor
    · rintro ⟨recovered, -, -, recovery, -⟩
      cases failed.symm.trans recovery
    · rintro ⟨⟨_, recovers⟩, -⟩
      cases costs.symm.trans recovers
  obtain ⟨next, answers, settlement, run⟩ | ⟨_, failed, refused⟩ :=
    settleEach_cases accounted bound reportable hard interrupted environments
  swap
  · constructor
    · rintro ⟨-, next, -, -, settlement, -⟩
      cases failed.symm.trans settlement
    · rintro ⟨-, ⟨_, settles⟩, answers, answered, -⟩
      obtain ⟨_, refused⟩ | ⟨_, refused⟩ := refused
      · cases refused.symm.trans settles
      · cases refused.symm.trans answered
  -- once both sides have gone through, only the reasons are left
  obtain ⟨live, liveMade⟩ : ∃ live, ledger.reportForState later next.state = .ok live := by
    by_cases none : budget.state.interrupted = []
    · rw [run.settles.unmoved none]
      exact ⟨_, reportForState_again made elapsed⟩
    · obtain ⟨committed, adds⟩ := run.reportable.cost
      exact reportForState_of_incomplete (run.settles.stopped none).2 run.reportable.within adds
  obtain ⟨liveCost, liveReports⟩ := reportForState_ok liveMade
  have silent : budget.state.interrupted = [] → answers = [] := by
    intro none
    have answered := run.rolling
    rw [none] at answered
    injection answered with same
    exact same.symm
  have sides : Sides ledger now later budget.state next.state report last recovered live cost
      liveCost answers :=
    ⟨bound, elapsed, reports, recovers, closes, run.settles, liveReports, silent⟩
  constructor
  · rintro ⟨_, _, _, recovery', settlement', liveMade', agrees⟩
    cases recovery.symm.trans recovery'
    cases settlement.symm.trans settlement'
    cases liveMade.symm.trans liveMade'
    exact ⟨⟨_, costs⟩, run.costs, answers, run.rolling, sides.agrees_iff.mp agrees⟩
  · rintro ⟨-, -, _, answered, agree⟩
    cases run.rolling.symm.trans answered
    exact ⟨recovered, next, live, recovery, settlement, liveMade, sides.agrees_iff.mpr agree⟩

/-- In every run under a hard token ceiling whose admitted dispatches belong to Workers, the
recovery of the report comes to what the live ledger would have come to exactly when both settle
their costs, the rolling ledger takes the settlements, and no reason is known to one side only; and
a second recovery changes nothing. -/
theorem settlesAlike_run {budget : SharedBudget codec}
    (started : start environment rolling = .ok budget)
    (operations : List (Environment × Operation)) (hard : ledger.limits.hardTokens.isSome = true)
    (workers : ∀ binding ∈ (ledger.run budget operations).state.interrupted, ∀ reservation,
      (ledger.run budget operations).state.active[binding.reservationId]? = some reservation →
      reservation.role = .worker)
    (made : ledger.reportForState now (ledger.run budget operations).state = .ok report)
    (elapsed : later.elapsed = now.elapsed) :
    (SettlesAlike ledger environments later (ledger.run budget operations) report ↔
        RecoveryFaithful ledger environments (ledger.run budget operations) report) ∧
      ∀ recovered, report.reconcileInterruptedDispatches
          (ledger.run budget operations).state.active = .ok recovered →
        recovered.reconcileInterruptedDispatches (ledger.run budget operations).state.active =
          .ok recovered := by
  obtain ⟨accounted, bound⟩ : Accounted (ledger.run budget operations).state ∧
    Bound (ledger.run budget operations).state := run_bound started operations
  refine ⟨settlesAlike_iff accounted bound hard workers made elapsed, fun recovered done => ?_⟩
  exact reconcileInterruptedDispatches_twice done _

end Recovery

/-- What a Worker is asked to run. -/
def sampleInvocation : BudgetDispatchInvocation where
  runId := "run"
  assignmentId := "assignment"
  parentId := none
  attempt := 1
  runtime := "codex"
  account := .unspecified
  commandSha256 := ""

/-- A Worker is dispatched under a grant of its estimate. -/
def dispatchingOperations : List (Environment × Operation) :=
  [.reserve ⟨.worker, 60, none⟩, .configureLiveTokenLimit 1 60,
    .liveTokenGrantWithLimit 1 (some 60),
    .bindDispatch 1 sampleInvocation ⟨1, 1, 60⟩].map fun operation => (sampleEnvironment, operation)

/-- The same, and a reservation that the hard ceiling refuses. -/
def refusingOperations : List (Environment × Operation) :=
  dispatchingOperations ++ [(sampleEnvironment, .reserve ⟨.worker, 50, none⟩)]

/-- The run of a list of operations on the sample ledger. -/
def sampleRun (operations : List (Environment × Operation)) : SharedBudget plainCodec :=
  sampleLedger.run sampleStart operations

/-- The reasons of the recovered report and of the live one. -/
def reasonsOfSides (budget : SharedBudget plainCodec) :
    Option (List BudgetReason × List BudgetReason) := do
  let report ← (sampleLedger.reportForState sampleEnvironment budget.state).toOption
  let recovered ← (report.reconcileInterruptedDispatches budget.state.active).toOption
  let next ← (sampleLedger.settleEach (fun _ => sampleEnvironment) budget
    budget.state.interrupted).toOption
  let live ← (sampleLedger.reportForState sampleEnvironment next.state).toOption
  pure (recovered.reasons, live.reasons)

/-- Without a refusal the two sides come to the same. -/
theorem settlesAlike_run_dispatching : ∃ report,
    sampleLedger.reportForState sampleEnvironment (sampleRun dispatchingOperations).state =
      .ok report ∧
    SettlesAlike sampleLedger (fun _ => sampleEnvironment) sampleEnvironment
      (sampleRun dispatchingOperations) report := by
  have started : start sampleEnvironment (none : Option (AttachedRollingBudget plainCodec)) =
      .ok sampleStart := rfl
  have evaluated : (sampleLedger.reportForState sampleEnvironment
      (sampleRun dispatchingOperations).state).toOption.map (fun report =>
        (report.reasons, (recoverCosts report.costs
          (sampleRun dispatchingOperations).state.interruptedReservations).toOption.map
            fun _ => ())) = some ([.missingPricing], some ()) := by decide +kernel
  obtain ⟨report, made, facts⟩ := ok_of_toOption evaluated
  obtain ⟨reasons, recovers⟩ := Prod.mk.inj facts
  have settles : (settleCosts (sampleRun dispatchingOperations).state.costs
      (sampleRun dispatchingOperations).state.interruptedReservations).toOption.map (fun _ => ()) =
        some () := by decide +kernel
  obtain ⟨_, recovered, -⟩ := ok_of_toOption recovers
  obtain ⟨_, settled, -⟩ := ok_of_toOption settles
  have workers : ∀ binding ∈ (sampleRun dispatchingOperations).state.interrupted,
      ∀ reservation, (sampleRun dispatchingOperations).state.active[binding.reservationId]? =
        some reservation → reservation.role = .worker := by
    have only : values (sampleRun dispatchingOperations).state.active =
      [⟨1, .worker, 60, none⟩] := by decide +kernel
    intro binding _ reservation found
    have listed := mem_values.mpr ⟨_, found⟩
    rw [only, mem_singleton] at listed
    rw [listed]
  have latched : (sampleRun dispatchingOperations).state.persistentReasons.toList =
    [.missingPricing] := by decide +kernel
  have answered : sampleLedger.settleRolling (fun _ => sampleEnvironment)
      (sampleRun dispatchingOperations).rolling
      (sampleRun dispatchingOperations).state.interruptedReservations = .ok [] := by decide +kernel
  refine ⟨report, made, (settlesAlike_run started dispatchingOperations rfl workers made rfl).1.mpr
    ⟨⟨_, recovered⟩, ⟨_, settled⟩, [], answered, ?_, nofun, ?_⟩⟩
  · rintro reason ceiling (known | none)
    · rw [← BTreeSet.mem_toList] at known
      change reason ∈ (sampleRun dispatchingOperations).state.persistentReasons.toList at known
      rw [latched, mem_singleton] at known
      rw [known] at ceiling
      cases ceiling
    · cases none
  · intro _ reason reported ceiling
    rw [reasons, mem_singleton] at reported
    rw [reported] at ceiling
    cases ceiling

/-- The recovery forgets the ceiling that the refused reservation latched; the live ledger keeps
it. -/
theorem recovery_forgets_refusal : reasonsOfSides (sampleRun refusingOperations) =
    some ([.missingPricing, .missingProviderUsage],
      [.hardTokenCeilingReached, .missingPricing, .missingProviderUsage]) := by
  decide +kernel

end Maco.RunBudget
