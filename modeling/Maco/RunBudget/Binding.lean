import Maco.RunBudget.Accounting

/-!
# Dispatch bindings

An admitted dispatch belongs to an active reservation: it carries the estimate of the reservation
and the tokens of its grant. Settling or releasing the reservation ends the admission.
-/

namespace Maco.RunBudget

open Maco.Base BTreeMap Maco.RollingBudget RunBudgetLedger

variable {codec : Codec} {ledger : RunBudgetLedger} {state next : LedgerState}

/-- An admitted binding repeats what its reservation holds. -/
structure BindingFits (active : BTreeMap ℕ BudgetReservation) (grants : BTreeMap ℕ ℕ) (id : ℕ)
    (binding : BudgetDispatchBinding) : Prop where
  named : binding.reservationId = id
  admitted : binding.state = .admitted → ∃ reservation, active[id]? = some reservation ∧
    reservation.tokens = binding.estimateTokens ∧ grants[id]? = some binding.grantTokens

/-- Every binding fits its reservation. -/
def Bound (state : LedgerState) : Prop :=
  ∀ (id : ℕ) binding, state.dispatchBindings[id]? = some binding →
    BindingFits state.active state.liveGrants id binding

variable {active : BTreeMap ℕ BudgetReservation} {grants : BTreeMap ℕ ℕ} {id : ℕ}
  {binding : BudgetDispatchBinding}

/-- A binding keeps fitting when nothing at its id changes. -/
theorem BindingFits.congr (fits : BindingFits active grants id binding)
    (sameActive : ∀ reservation, active[id]? = some reservation → active'[id]? = some reservation)
    (sameGrant : ∀ tokens, grants[id]? = some tokens → grants'[id]? = some tokens) :
    BindingFits active' grants' id binding := by
  refine ⟨fits.named, fun admitted => ?_⟩
  obtain ⟨reservation, found, estimate, granted⟩ := fits.admitted admitted
  exact ⟨reservation, sameActive reservation found, estimate, sameGrant _ granted⟩

/-- A binding that is no longer admitted fits whatever became of its reservation. -/
theorem BindingFits.ended (named : binding.reservationId = id)
    (ended : binding.state ≠ .admitted) : BindingFits active grants id binding :=
  ⟨named, fun admitted => absurd admitted ended⟩

/-- The bindings after one of them is marked. -/
theorem markBinding_get (bindings : BTreeMap ℕ BudgetDispatchBinding) (id other : ℕ)
    (mark : BudgetDispatchBinding → BudgetDispatchBinding) :
    (markBinding bindings id mark)[other]? =
      if id = other then bindings[other]?.map mark else bindings[other]? := by
  unfold markBinding
  cases found : bindings[id]? with
  | none =>
    by_cases here : id = other
    · rw [if_pos here, ← here, found]
      rfl
    · rw [if_neg here]
  | some binding =>
    rw [get_insert]
    by_cases here : id = other
    · rw [if_pos here, if_pos here, ← here, found]
      rfl
    · rw [if_neg here, if_neg here]

/-- Removing a reservation and ending its binding keeps the others fitting. -/
theorem Bound.remove (bound : Bound state) {bindings : BTreeMap ℕ BudgetDispatchBinding}
    (others : ∀ other, other ≠ id → bindings[other]? = state.dispatchBindings[other]?)
    (ended : ∀ binding, bindings[id]? = some binding →
      binding.reservationId = id ∧ binding.state ≠ .admitted) (other : ℕ)
    (binding : BudgetDispatchBinding) (found : bindings[other]? = some binding) :
    BindingFits (state.active.erase id) (state.liveGrants.erase id) other binding := by
  by_cases here : other = id
  · rw [here] at found
    obtain ⟨named, over_⟩ := ended binding found
    exact .ended (named.trans here.symm) over_
  · rw [others other here] at found
    refine (bound other binding found).congr ?_ ?_
    · intro reservation present
      rw [get_erase, if_neg (Ne.symm here)]
      exact present
    · intro tokens granted
      rw [get_erase, if_neg (Ne.symm here)]
      exact granted

theorem Bound.latchRolling (bound : Bound state) (reasons : List BudgetReason) :
    Bound (latchRolling state reasons) := by
  unfold RunBudgetLedger.latchRolling
  split
  · exact bound
  · exact bound

/-- Every adjustment keeps the bindings fitting. -/
theorem Bound.adjusts (bound : Bound state) (adjusts : Adjusts ledger state next) : Bound next := by
  cases adjusts with
  | stay | latch | limit | confirm => exact bound
  | @grant id extra reservation role found fresh within roleFound =>
    intro other binding bindingFound
    refine (bound other binding bindingFound).congr (fun held present => present) ?_
    exact fun tokens granted => (get_insert_fresh fresh).mpr (.inl granted)
  | @bind id reservation binding found granted named estimate =>
    intro other held bindingFound
    rcases get_insert_cases bindingFound with ⟨rfl, rfl⟩ | ⟨-, earlier⟩
    · exact ⟨named, fun _ => ⟨reservation, found, estimate.symm, granted⟩⟩
    · exact bound other held earlier
  | @observe id binding found invocation threadId turnId =>
    intro other held bindingFound
    rcases get_insert_cases bindingFound with ⟨rfl, rfl⟩ | ⟨-, earlier⟩
    · have fits := bound other binding found
      unfold observeBinding
      split
      · exact ⟨fits.named, fits.admitted⟩
      · exact ⟨fits.named, fits.admitted⟩
    · exact bound other held earlier
  | discard id =>
    exact fun other held bindingFound => bound other held (get_erase_some bindingFound).2

variable {environment : Environment} {rolling : Option (AttachedRollingBudget codec)}
  {budget : SharedBudget codec} {operation : Operation}

/-- Every move keeps the bindings fitting. -/
theorem Bound.moves (bound : Bound budget.state)
    (moves : Moves ledger environment budget operation next) : Bound next := by
  cases moves with
  | adjust adjusts => exact bound.adjusts adjusts
  | admission named within added =>
    obtain ⟨fresh, cost, unknown, reasons, role, -, -, -, rfl⟩ := addReservation_ok added
    intro id binding found
    refine (bound id binding found).congr (fun held present => ?_) fun tokens granted => granted
    exact (get_insert_fresh fresh).mpr (.inl present)
  | @settle id reservation charge charged pricing reasons charges =>
    obtain ⟨found, removed, removes, applied⟩ := charges
    obtain ⟨-, cost, unknown, role, -, -, -, -, -, -, rfl⟩ := removeReservation_ok removes
    obtain ⟨cost', usage, complete, latched, forceStop, role', -, -, -, rfl⟩ :=
      applyCharge_ok applied
    apply Bound.latchRolling
    intro other binding bindingFound
    refine bound.remove (fun other different => ?_) (fun binding marked => ?_) other binding
      bindingFound
    · rw [markBinding_get, if_neg (Ne.symm different)]
    · rw [markBinding_get, if_pos rfl, Option.map_eq_some_iff] at marked
      obtain ⟨before, present, rfl⟩ := marked
      exact ⟨(bound id before present).named, by simp [settleBinding]⟩
  | @release id reservation removed reasons asked answered removes =>
    obtain ⟨-, cost, unknown, role, -, -, -, -, -, -, rfl⟩ := removeReservation_ok removes
    apply Bound.latchRolling
    intro other binding bindingFound
    refine bound.remove (fun other different => ?_) (fun binding marked => ?_) other binding
      bindingFound
    · unfold releaseBindings
      split
      · rw [markBinding_get, if_neg (Ne.symm different)]
      · rw [get_erase, if_neg (Ne.symm different)]
    · unfold releaseBindings at marked
      split at marked
      · rw [markBinding_get, if_pos rfl, Option.map_eq_some_iff] at marked
        obtain ⟨before, present, rfl⟩ := marked
        exact ⟨(bound id before present).named, by simp⟩
      · rw [get_erase, if_pos rfl] at marked
        cases marked

theorem start_bound (started : start environment rolling = .ok budget) : Bound budget.state := by
  obtain ⟨reasons, same⟩ := start_state started
  rw [same]
  apply Bound.latchRolling
  intro id binding found
  simp [LedgerState.default] at found

/-- Every state of a run is accounted, and its bindings fit. -/
theorem run_bound (started : start environment rolling = .ok budget)
    (operations : List (Environment × Operation)) :
    Accounted (ledger.run budget operations).state ∧
      Bound (ledger.run budget operations).state := by
  refine List.foldlRecOn (motive := fun budget : SharedBudget codec =>
    Accounted budget.state ∧ Bound budget.state) operations _
    ⟨start_accounted started, start_bound started⟩ ?_
  rintro budget ⟨accounted, bound⟩ step -
  have moves : Moves ledger step.1 budget step.2 _ := perform_moves budget step.2
  exact ⟨accounted.moves moves, bound.moves moves⟩

end Maco.RunBudget
