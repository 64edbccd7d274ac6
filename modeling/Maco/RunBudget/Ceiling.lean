import Maco.RunBudget.Accounting

/-!
# The hard token ceiling

An admission and a grant are made within the uncommitted balance, a release only gives back, and a
settlement exchanges what its reservation held for what it is charged. So the committed tokens pass
the hard ceiling only by what settlements were charged above what their reservations held.
-/

namespace Maco.RunBudget

open Maco.Base BTreeMap Maco.RollingBudget RunBudgetLedger List

variable {codec : Codec} {ledger : RunBudgetLedger} {state next : LedgerState}

/-- The tokens consumed and reserved. -/
def LedgerState.committedTokens (state : LedgerState) : ℕ :=
  state.consumedTokens + state.reservedTokens

/-- The tokens that the reservation of a charge holds, while it is active. -/
def LedgerState.heldBy (state : LedgerState) (charge : BudgetChargeReport) : ℕ :=
  (state.active[charge.reservationId]?.map (state.heldTokens charge.reservationId)).getD 0

/-- The charges of a list above what their reservations held. -/
def overshoot (charges : List BudgetChargeReport) (held : List ℕ) : ℕ :=
  (zipWith (fun charge tokens => charge.tokens - tokens) charges held).sum

theorem latchRolling_tokens (state : LedgerState) (reasons : List BudgetReason) :
    (latchRolling state reasons).charges = state.charges ∧
      (latchRolling state reasons).committedTokens = state.committedTokens := by
  unfold latchRolling
  split
  · exact ⟨rfl, rfl⟩
  · exact ⟨rfl, rfl⟩

/-- An adjustment adds nothing, or stays within the hard ceiling. -/
theorem Adjusts.committed (limited : ledger.limits.hardTokens = some hard)
    (adjusts : Adjusts ledger state next) : next.charges = state.charges ∧
      (next.committedTokens ≤ state.committedTokens ∨ next.committedTokens ≤ hard) := by
  cases adjusts with
  | stay | latch | limit | bind | observe | confirm | discard => exact ⟨rfl, .inl (le_refl _)⟩
  | @grant id extra reservation role found fresh within roleFound =>
    have room := within hard limited
    refine ⟨rfl, .inr ?_⟩
    change state.consumedTokens + (state.reservedTokens + extra) ≤ hard
    omega

variable {environment : Environment} {budget : SharedBudget codec} {operation : Operation}

/-- What a move does to the committed tokens: it adds nothing, or stays within the hard ceiling, or
settles one reservation. -/
theorem Moves.committed (limited : ledger.limits.hardTokens = some hard)
    (accounted : Accounted budget.state)
    (moves : Moves ledger environment budget operation next) :
    (next.charges = budget.state.charges ∧
      (next.committedTokens ≤ budget.state.committedTokens ∨ next.committedTokens ≤ hard)) ∨
    ∃ charge, next.charges = budget.state.charges ++ [charge] ∧
      next.committedTokens + budget.state.heldBy charge =
        budget.state.committedTokens + charge.tokens := by
  cases moves with
  | adjust adjusts => exact .inl (adjusts.committed limited)
  | @admission reservation next named within added =>
    obtain ⟨-, cost, unknown, reasons, role, -, -, -, rfl⟩ := addReservation_ok added
    have room := within hard limited
    refine .inl ⟨rfl, .inr ?_⟩
    change budget.state.consumedTokens + (budget.state.reservedTokens + reservation.tokens) ≤ hard
    omega
  | @settle id reservation charge charged pricing reasons charges =>
    obtain ⟨found, removed, removes, applied⟩ := charges
    obtain ⟨-, -, sameCharges, -, sameConsumed, back⟩ := accounted.remove removes
    obtain ⟨cost, usage, complete, latchedReasons, forceStop, role, -, -, -, rfl⟩ :=
      applyCharge_ok applied
    have held : budget.state.heldBy (chargeReport reservation id charge pricing) =
        budget.state.heldTokens id reservation := by
      change (budget.state.active[id]?.map (budget.state.heldTokens id)).getD 0 = _
      rw [found]
      rfl
    refine .inr ⟨chargeReport reservation id charge pricing, ?_, ?_⟩
    · rw [recordSettlement, (latchRolling_tokens _ reasons).1]
      exact congrArg (· ++ _) sameCharges
    · rw [recordSettlement, (latchRolling_tokens _ reasons).2, held]
      change removed.consumedTokens + charge.tokens + removed.reservedTokens + _ =
        budget.state.consumedTokens + budget.state.reservedTokens + charge.tokens
      omega
  | @release id reservation removed reasons asked answered removes =>
    obtain ⟨-, -, sameCharges, -, sameConsumed, back⟩ := accounted.remove removes
    refine .inl ⟨?_, .inl ?_⟩
    · rw [(latchRolling_tokens _ reasons).1]
      exact sameCharges
    · rw [(latchRolling_tokens _ reasons).2]
      change removed.consumedTokens + removed.reservedTokens ≤
        budget.state.consumedTokens + budget.state.reservedTokens
      omega

/-- A run that remembers, for every charge, what its reservation held when it was settled. -/
structure Tracked (codec : Codec) where
  budget : SharedBudget codec
  held : List ℕ

/-- One operation of a tracked run. -/
def Tracked.step (ledger : RunBudgetLedger) (tracked : Tracked codec)
    (step : Environment × Operation) : Tracked codec :=
  let before := tracked.budget.state
  let budget := ledger.perform step.1 tracked.budget step.2
  { budget
    held := tracked.held ++
      (budget.state.charges.drop before.charges.length).map before.heldBy }

/-- A tracked run. -/
def Tracked.run (ledger : RunBudgetLedger) (budget : SharedBudget codec)
    (operations : List (Environment × Operation)) : Tracked codec :=
  operations.foldl (Tracked.step ledger) ⟨budget, []⟩

/-- The committed tokens pass the ceiling by no more than the charges passed what was held. -/
structure Tracked.Within (hard : ℕ) (tracked : Tracked codec) : Prop where
  accounted : Accounted tracked.budget.state
  aligned : tracked.budget.state.charges.length = tracked.held.length
  bounded : tracked.budget.state.committedTokens ≤
    hard + overshoot tracked.budget.state.charges tracked.held

/-- Every operation keeps the bound. -/
theorem Tracked.Within.step {hard : ℕ} {tracked : Tracked codec}
    (limited : ledger.limits.hardTokens = some hard) (within : tracked.Within hard)
    (step : Environment × Operation) : (tracked.step ledger step).Within hard := by
  have moves : Moves ledger step.1 tracked.budget step.2 _ := perform_moves tracked.budget step.2
  have aligned := within.aligned
  have bounded := within.bounded
  rcases moves.committed limited within.accounted with ⟨same, less⟩ | ⟨charge, added, exchanged⟩
  · have nothing : (ledger.perform step.1 tracked.budget step.2).state.charges.drop
        tracked.budget.state.charges.length = [] := by
      rw [same, drop_length]
    have held : (tracked.step ledger step).held = tracked.held := by
      rw [Tracked.step, nothing, map_nil, append_nil]
    refine ⟨within.accounted.moves moves, ?_, ?_⟩
    · rw [held]
      exact (congrArg length same).trans aligned
    · rw [held]
      change (ledger.perform step.1 tracked.budget step.2).state.committedTokens ≤
        hard + overshoot (ledger.perform step.1 tracked.budget step.2).state.charges tracked.held
      rw [same]
      omega
  · have one : (ledger.perform step.1 tracked.budget step.2).state.charges.drop
        tracked.budget.state.charges.length = [charge] := by
      rw [added, drop_left]
    have held : (tracked.step ledger step).held =
        tracked.held ++ [tracked.budget.state.heldBy charge] := by
      rw [Tracked.step, one, map_singleton]
    refine ⟨within.accounted.moves moves, ?_, ?_⟩
    · rw [held, length_append, ← aligned]
      exact (congrArg length added).trans length_append
    · rw [held]
      change (ledger.perform step.1 tracked.budget step.2).state.committedTokens ≤
        hard + overshoot (ledger.perform step.1 tracked.budget step.2).state.charges _
      rw [added, overshoot, zipWith_append aligned, sum_append]
      rw [overshoot] at bounded
      simp only [zipWith_cons_cons, zipWith_nil_left, sum_cons, sum_nil]
      omega

/-- Where no charge passes what its reservation held, nothing overshoots. -/
theorem overshoot_eq_zero (covered : ∀ entry ∈ charges.zip held, entry.1.tokens ≤ entry.2) :
    overshoot charges held = 0 := by
  rw [overshoot, sum_eq_zero_iff]
  intro excess member
  rw [← map_uncurry_zip_eq_zipWith, mem_map] at member
  obtain ⟨entry, listed, rfl⟩ := member
  exact Nat.sub_eq_zero_of_le (covered entry listed)

/-- The outstanding grants are part of what is reserved. -/
theorem Accounted.grants_le (accounted : Accounted state) :
    BTreeMap.sumBy (fun _ tokens => tokens) state.liveGrants ≤ state.reservedTokens := by
  rw [accounted.reserved, BTreeMap.sumBy]
  refine sum_le_sumBy state.liveGrants.nodup_keys fun entry listed => ?_
  have granted := mem_toList.mp listed
  obtain ⟨reservation, found, -⟩ := accounted.granted entry.1 entry.2 granted
  refine ⟨reservation, found, ?_⟩
  rw [LedgerState.heldTokens, granted]
  exact le_refl _

/-- With a hard token ceiling, in every state that any interleaving of operations leads to, the
consumed and reserved tokens pass the ceiling by no more than the settlements were charged above
what their reservations held. Where none was, they stay within it, and so do the outstanding grants
with the consumed tokens. -/
theorem committed_le_run {environment : Environment}
    {rolling : Option (AttachedRollingBudget codec)} {budget : SharedBudget codec}
    (started : start environment rolling = .ok budget) {hard : ℕ}
    (limited : ledger.limits.hardTokens = some hard) (operations : List (Environment × Operation)) :
    let tracked := Tracked.run ledger budget operations
    let state := tracked.budget.state
    state.charges.length = tracked.held.length ∧
      state.consumedTokens + state.reservedTokens ≤
        hard + overshoot state.charges tracked.held ∧
      ((∀ entry ∈ state.charges.zip tracked.held, entry.1.tokens ≤ entry.2) →
        state.consumedTokens + state.reservedTokens ≤ hard ∧
        BTreeMap.sumBy (fun _ tokens => tokens) state.liveGrants + state.consumedTokens ≤
          hard) := by
  have fresh : budget.state.charges = [] ∧ budget.state.committedTokens = 0 := by
    obtain ⟨reasons, same⟩ := start_state started
    rw [same]
    exact latchRolling_tokens .default reasons
  have start : (⟨budget, []⟩ : Tracked codec).Within hard := by
    refine ⟨start_accounted started, ?_, ?_⟩
    · exact congrArg length fresh.1
    · dsimp only
      omega
  have within : (Tracked.run ledger budget operations).Within hard :=
    foldlRecOn (motive := fun tracked : Tracked codec => tracked.Within hard) operations
      (Tracked.step ledger) start fun tracked within step _ => within.step limited step
  intro tracked state
  have bounded : state.consumedTokens + state.reservedTokens ≤
      hard + overshoot state.charges tracked.held := within.bounded
  refine ⟨within.aligned, bounded, fun covered => ?_⟩
  have none_ := overshoot_eq_zero covered
  have grants : BTreeMap.sumBy (fun _ tokens => tokens) state.liveGrants ≤ state.reservedTokens :=
    within.accounted.grants_le
  omega

/-- The sample run with a settlement below the estimate. -/
def coveredOperations : List (Environment × Operation) :=
  [.reserve ⟨.worker, 60, none⟩, .reserve ⟨.auditor, 20, none⟩, .liveTokenGrantWithLimit 1 none,
    .reconcileWithPool 2 (.reliable 15 none) none none none].map fun operation =>
      (sampleEnvironment, operation)

/-- A settlement five tokens above its estimate may pass the ceiling by five tokens; one below it
leaves the ceiling alone. -/
theorem committed_le_run_sample :
    (overshoot (Tracked.run sampleLedger sampleStart sampleOperations).budget.state.charges
        (Tracked.run sampleLedger sampleStart sampleOperations).held = 5 ∧
      (Tracked.run sampleLedger sampleStart sampleOperations).budget.state.consumedTokens +
        (Tracked.run sampleLedger sampleStart sampleOperations).budget.state.reservedTokens ≤
          105) ∧
    BTreeMap.sumBy (fun _ tokens => tokens)
        (Tracked.run sampleLedger sampleStart coveredOperations).budget.state.liveGrants +
      (Tracked.run sampleLedger sampleStart coveredOperations).budget.state.consumedTokens ≤
        100 := by
  have started : start sampleEnvironment (none : Option (AttachedRollingBudget plainCodec)) =
      .ok sampleStart := rfl
  have limited : sampleLedger.limits.hardTokens = some 100 := rfl
  have first := committed_le_run started limited sampleOperations
  have second := committed_le_run started limited coveredOperations
  have excess : overshoot
      (Tracked.run sampleLedger sampleStart sampleOperations).budget.state.charges
      (Tracked.run sampleLedger sampleStart sampleOperations).held = 5 := by decide +kernel
  have bounded := first.2.1
  rw [excess] at bounded
  exact ⟨⟨excess, bounded⟩, (second.2.2 (by decide +kernel)).2⟩

end Maco.RunBudget
