import Maco.RunBudget.Accounting

/-!
# The life of a reservation

A reservation becomes active when it is admitted, under a number that no reservation had before it,
stays as it was admitted, and goes when it is settled, which leaves a charge under its number, or
released. No other operation touches the active reservations or the charges.
-/

namespace Maco.RunBudget

open Maco.Base BTreeMap Maco.RollingBudget RunBudgetLedger List

variable {codec : Codec} {ledger : RunBudgetLedger} {environment : Environment}
  {budget : SharedBudget codec} {state next : LedgerState} {id : ℕ}

/-- A step of a run releases a reservation. -/
def RunBudgetLedger.Releases (ledger : RunBudgetLedger) (budget : SharedBudget codec)
    (operations : List (Environment × Operation)) (id : ℕ) : Prop :=
  ∃ before step after, operations = before ++ step :: after ∧ step.2 = .release id ∧
    ledger.answer step.1 (ledger.run budget before) step.2 = .ok ()

/-- What the operations of a run after some state do to its reservations and charges. -/
structure Continues (ledger : RunBudgetLedger) (budget : SharedBudget codec)
    (operations : List (Environment × Operation)) : Prop where
  charges : budget.state.charges <+: (ledger.run budget operations).state.charges
  numbers : budget.state.nextReservationId ≤ (ledger.run budget operations).state.nextReservationId
  /-- Under a number given out before, only what was active then is active. -/
  past : ∀ id < budget.state.nextReservationId, ∀ reservation,
    (ledger.run budget operations).state.active[id]? = some reservation →
      budget.state.active[id]? = some reservation
  /-- A reservation goes when it is charged or released. -/
  gone : ∀ id reservation, budget.state.active[id]? = some reservation →
    (ledger.run budget operations).state.active[id]? = some reservation ∨
      (∃ charge ∈ (ledger.run budget operations).state.charges.drop budget.state.charges.length,
        charge.reservationId = id) ∨ ledger.Releases budget operations id

/-- An adjustment keeps the reservations and the charges. -/
theorem Adjusts.kept (adjusts : Adjusts ledger state next) : next.active = state.active ∧
    next.nextReservationId = state.nextReservationId ∧ next.charges = state.charges := by
  cases adjusts <;> exact ⟨rfl, rfl, rfl⟩

theorem latchRolling_kept (state : LedgerState) (reasons : List BudgetReason) :
    (latchRolling state reasons).active = state.active ∧
      (latchRolling state reasons).nextReservationId = state.nextReservationId ∧
      (latchRolling state reasons).charges = state.charges := by
  unfold latchRolling
  split <;> exact ⟨rfl, rfl, rfl⟩

/-- A settlement removes its reservation and leaves a charge. -/
theorem Charged.kept (charges : Charged ledger state id reservation charge charged)
    (pricing : ChargePricing) (reasons : List BudgetReason) :
    let next := recordSettlement charged reservation id charge pricing reasons
    next.active = state.active.erase id ∧ next.nextReservationId = state.nextReservationId ∧
      next.charges = state.charges ++ [chargeReport reservation id charge pricing] := by
  obtain ⟨-, removed, removes, applied⟩ := charges
  obtain ⟨-, _, _, _, -, -, -, -, -, -, rfl⟩ := removeReservation_ok removes
  obtain ⟨_, _, _, _, _, _, -, -, -, rfl⟩ := applyCharge_ok applied
  exact latchRolling_kept _ reasons

/-- A release removes its reservation. -/
theorem removeReservation_kept (removes : removeReservation state id = .ok (reservation, removed))
    (reasons : List BudgetReason) :
    let next := latchRolling { removed with
      dispatchBindings := releaseBindings removed id } reasons
    next.active = state.active.erase id ∧ next.nextReservationId = state.nextReservationId ∧
      next.charges = state.charges := by
  obtain ⟨-, _, _, _, -, -, -, -, -, -, rfl⟩ := removeReservation_ok removes
  exact latchRolling_kept _ reasons

namespace Continues

theorem refl (budget : SharedBudget codec) : Continues ledger budget [] where
  charges := prefix_rfl
  numbers := le_refl _
  past := fun _ _ _ found => found
  gone := fun _ _ found => .inl found

/-- One operation. -/
theorem perform (budget : SharedBudget codec) (step : Environment × Operation) :
    Continues ledger budget [step] := by
  have moves : Moves ledger step.1 budget step.2 (ledger.run budget [step]).state :=
    perform_moves budget step.2
  generalize after : (ledger.run budget [step]).state = next at moves
  have same (active : next.active = budget.state.active)
      (numbers : next.nextReservationId = budget.state.nextReservationId)
      (charges : next.charges = budget.state.charges) : Continues ledger budget [step] := by
    constructor <;> simp only [after, active, numbers, charges]
    · exact prefix_rfl
    · exact le_refl _
    · exact fun _ _ _ found => found
    · exact fun _ _ found => .inl found
  cases moves with
  | adjust adjusts => exact same adjusts.kept.1 adjusts.kept.2.1 adjusts.kept.2.2
  | admission named within added =>
    obtain ⟨fresh, _, _, _, _, -, -, -, rfl⟩ := addReservation_ok added
    constructor <;> simp only [after]
    · exact prefix_rfl
    · exact Nat.le_succ _
    · intro id below reservation found
      rwa [get_insert_of_ne _ _ (by omega)] at found
    · intro id reservation found
      exact .inl ((get_insert_fresh fresh).mpr (.inl found))
  | @settle id reservation charge charged pricing reasons charges =>
    obtain ⟨active, numbers, added⟩ := charges.kept pricing reasons
    constructor <;> simp only [after, active, numbers, added]
    · exact prefix_append _ _
    · exact le_refl _
    · exact fun other _ reservation held => (get_erase_some held).2
    · intro other _ held
      by_cases here : id = other
      · exact .inr (.inl ⟨chargeReport reservation id charge pricing, by simp, here⟩)
      · exact .inl (((get_erase _ _ _).trans (if_neg here)).trans held)
  | @release id _ _ reasons asked answered removes =>
    obtain ⟨active, numbers, charges⟩ := removeReservation_kept removes reasons
    constructor <;> simp only [after, active, numbers, charges]
    · exact prefix_rfl
    · exact le_refl _
    · exact fun other _ reservation held => (get_erase_some held).2
    · intro other _ held
      by_cases here : id = other
      · exact .inr (.inr ⟨[], step, [], rfl, here ▸ asked, answered⟩)
      · exact .inl (((get_erase _ _ _).trans (if_neg here)).trans held)

/-- Operations after operations. -/
theorem append (first : Continues ledger budget earlier)
    (second : Continues ledger (ledger.run budget earlier) later) :
    Continues ledger budget (earlier ++ later) := by
  have joined : ledger.run budget (earlier ++ later) =
      ledger.run (ledger.run budget earlier) later := foldl_append
  constructor <;> rw [joined]
  · exact first.charges.trans second.charges
  · exact first.numbers.trans second.numbers
  · intro id below reservation found
    exact first.past id below _ (second.past id (below.trans_le first.numbers) _ found)
  · intro id reservation found
    obtain ⟨added, split⟩ := first.charges
    obtain ⟨more, rest⟩ := second.charges
    rw [← rest, ← split, append_assoc, drop_left]
    rcases first.gone id reservation found with kept | ⟨charge, listed, named⟩ |
      ⟨before, step, after, parts, asked, answered⟩
    · rcases second.gone id reservation kept with still | ⟨charge, listed, named⟩ |
        ⟨before, step, after, parts, asked, answered⟩
      · exact .inl still
      · rw [← rest, drop_left] at listed
        exact .inr (.inl ⟨charge, mem_append_right _ listed, named⟩)
      · refine .inr (.inr ⟨earlier ++ before, step, after, ?_, asked, ?_⟩)
        · rw [parts, append_assoc]
        · rw [RunBudgetLedger.run, foldl_append]
          exact answered
    · rw [← split, drop_left] at listed
      exact .inr (.inl ⟨charge, mem_append_left _ listed, named⟩)
    · refine .inr (.inr ⟨before, step, after ++ later, ?_, asked, answered⟩)
      rw [parts, append_assoc, cons_append]

/-- Any operations. -/
theorem run (budget : SharedBudget codec) (operations : List (Environment × Operation)) :
    Continues ledger budget operations := by
  induction operations generalizing budget with
  | nil => exact .refl budget
  | cons step operations ih => exact (perform budget step).append (ih _)

end Continues

/-- Between any two states of a run no charge is changed or dropped; every number of an active or
charged reservation is below the next one, and a reservation that is active later under such a
number is one that was active before, unchanged; and one that is active no more has been charged or
released in between. -/
theorem run_keeps {environment : Environment} {rolling : Option (AttachedRollingBudget codec)}
    (started : start environment rolling = .ok budget)
    (earlier later : List (Environment × Operation)) :
    Continues ledger (ledger.run budget earlier) later ∧
      (∀ (id : ℕ) reservation, (ledger.run budget earlier).state.active[id]? = some reservation →
        id < (ledger.run budget earlier).state.nextReservationId) ∧
      ∀ charge ∈ (ledger.run budget earlier).state.charges,
        charge.reservationId < (ledger.run budget earlier).state.nextReservationId ∧
        (ledger.run (ledger.run budget earlier) later).state.active[charge.reservationId]? =
          none := by
  have accounted : Accounted (ledger.run budget earlier).state := accounted_run started earlier
  have continues : Continues ledger (ledger.run budget earlier) later := .run _ later
  refine ⟨continues, fun id reservation found => (accounted.named id reservation found).2,
    fun charge listed => ⟨accounted.past charge listed, ?_⟩⟩
  by_contra still
  obtain ⟨reservation, found⟩ := Option.ne_none_iff_exists'.mp still
  have active := continues.past _ (accounted.past charge listed) _ found
  rw [accounted.notActive charge listed] at active
  cases active

/-- A settlement and then a release leave nothing active. -/
theorem run_keeps_sample :
    let released := [(sampleEnvironment, Operation.release 1)]
    (sampleLedger.run sampleStart sampleOperations).state.active.size = 1 ∧
      Continues sampleLedger (sampleLedger.run sampleStart sampleOperations) released ∧
      (sampleLedger.run (sampleLedger.run sampleStart sampleOperations)
        released).state.active.size = 0 := by
  have started : start sampleEnvironment (none : Option (AttachedRollingBudget plainCodec)) =
      .ok sampleStart := rfl
  exact ⟨by decide +kernel, (run_keeps started sampleOperations _).1, by decide +kernel⟩

end Maco.RunBudget
