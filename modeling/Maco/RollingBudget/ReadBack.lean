import Maco.RollingBudget.Replay

/-!
# What the ledger writes and what it reads back

After any sequence of successful calls the records of the journal are those of the events in
memory, the events form a history, and the journal has room for the terminal events of the pending
reservations. The replay accepts all of that with one exception: `record_consumption` does not look
at the run id that the replay requires.
-/

namespace Maco.RollingBudget

open Maco.Base

variable {codec : Codec}

namespace WorkspaceBudgetLedger

variable {ledger next : WorkspaceBudgetLedger codec}

/-- What a successful execution does: nothing, or one complete append. -/
theorem execute_ok (success : ledger.execute io prepared = (.ok outcome, next)) :
    (prepared = .ok none ∧ next = ledger) ∨
      ∃ event, prepared = .ok (some event) ∧ ledger.appendChecks event = .ok () ∧
        next = ledger.append event := by
  have executed := ledger.execute_executed io prepared
  rw [success] at executed
  cases executed with
  | alreadyRecorded nothing => exact .inl ⟨nothing, rfl⟩
  | completed chosen checked => exact .inr ⟨_, chosen, checked, rfl⟩

/-- The records are those of the events, the events form a history, and the terminal events of the
pending reservations have room. -/
structure Complete (ledger : WorkspaceBudgetLedger codec) : Prop where
  history : WellFormed ledger.events
  written : List.Forall₂ Writes ledger.records ledger.events
  room : HasRoom ledger.records (unsettledOf ledger.events).size

/-- A new ledger is complete. -/
theorem Complete.empty : (WorkspaceBudgetLedger.empty codec).Complete := by
  have pending : (unsettledOf (WorkspaceBudgetLedger.empty codec).events).size = 0 := rfl
  have used : usedBytes codec (WorkspaceBudgetLedger.empty codec).records = 0 := rfl
  refine ⟨.nil, .nil, ?_, ?_⟩
  · rw [pending]
    exact Nat.zero_le _
  · rw [pending, used, Nat.zero_mul]
    exact Nat.zero_le _

theorem nextRecord_writes (prepared : ledger.Prepared event) :
    Writes (ledger.nextRecord event) event :=
  ⟨rfl, rfl, prepared.cost⟩

/-- A complete append keeps the ledger complete. -/
theorem Complete.append (complete : ledger.Complete)
    (prepared : ledger.Prepared event) (checked : ledger.appendChecks event = .ok ()) :
    (ledger.append event).Complete := by
  refine ⟨complete.history.snoc prepared.admissible, ?_, ?_⟩
  · exact List.rel_append complete.written (.cons (nextRecord_writes prepared) .nil)
  · have pending := complete.history.unsettledOf_size prepared.admissible
    have room := prepared.room.append (encodedLength_le checked)
    exact pending ▸ room

/-- A request to record consumption that is written under an empty run id. -/
def Request.unnamed : Request → Prop
  | .recordConsumption runId tokens costUsd _ => runId = "" ∧ ¬ (tokens = 0 ∧ costUsd = none)
  | _ => False

/-- `Request.unnamed`, decided. -/
instance (request : Request) : Decidable request.unnamed :=
  match request with
  | .recordConsumption runId tokens costUsd _ =>
    inferInstanceAs (Decidable (runId = "" ∧ ¬ (tokens = 0 ∧ costUsd = none)))
  | .recordReservation .. | .reconcileReservation .. | .recordCompletedPoolConsumption ..
  | .recordRateLimited .. => inferInstanceAs (Decidable False)

/-- An event is a consumption for no run exactly when the request was. -/
theorem prepare_anonymous (prepared : ledger.prepare request = .ok (some event)) :
    anonymous event ↔ request.unnamed := by
  cases request with
  | recordConsumption runId tokens costUsd nowUnixSeconds =>
    obtain ⟨counted, -, -, rfl⟩ := prepareConsumption_some prepared
    simp [anonymous, Request.unnamed, counted]
  | recordReservation reservation pricing =>
    obtain ⟨-, -, -, rfl⟩ := prepareReservation_some prepared
    simp [anonymous, Request.unnamed]
  | reconcileReservation reconciliation pricing =>
    obtain ⟨-, reservation, -, -, -, -, -, rfl⟩ := prepareReconciliation_some.mp prepared
    simp [anonymous, Request.unnamed]
  | recordCompletedPoolConsumption completion pricing =>
    obtain ⟨-, -, -, rfl⟩ := preparePoolConsumption_some prepared
    simp [anonymous, Request.unnamed]
  | recordRateLimited pool detail windowSeconds nowUnixSeconds =>
    obtain ⟨-, -, rfl⟩ := prepareRateLimit_some prepared
    simp [anonymous, Request.unnamed]

/-- A request that appends nothing and is not refused is no consumption for no run. -/
theorem prepare_none_named (prepared : ledger.prepare request = .ok none) : ¬ request.unnamed := by
  cases request with
  | recordConsumption runId tokens costUsd nowUnixSeconds =>
    rw [prepare, prepareConsumption] at prepared
    split at prepared
    · rename_i nothing
      exact fun unnamed => unnamed.2 nothing
    · simp only [ok_iff, reduceCtorEq, and_false, exists_false] at prepared
  | recordReservation | reconcileReservation | recordCompletedPoolConsumption
  | recordRateLimited => exact id

end WorkspaceBudgetLedger

open WorkspaceBudgetLedger

/-- The ledgers that sequences of successful calls lead to, from a new journal. -/
inductive SuccessfulCalls (codec : Codec) : List Request → WorkspaceBudgetLedger codec → Prop where
  | none : SuccessfulCalls codec [] (.empty codec)
  | call {requests ledger} (before : SuccessfulCalls codec requests ledger) (io : AppendIo)
      (request : Request) {outcome next}
      (success : ledger.call io request = (.ok outcome, next)) :
      SuccessfulCalls codec (requests ++ [request]) next

/-- Successful calls keep the ledger complete, and record a consumption for no run exactly when one
of them asks for it. -/
theorem SuccessfulCalls.complete {requests : List Request} {ledger : WorkspaceBudgetLedger codec}
    (calls : SuccessfulCalls codec requests ledger) : ledger.Complete ∧
      ((∃ event ∈ ledger.events, anonymous event) ↔ ∃ request ∈ requests, request.unnamed) := by
  induction calls with
  | none => exact ⟨.empty, by simp [WorkspaceBudgetLedger.empty]⟩
  | @call requests ledger before io request outcome next success ih =>
    obtain ⟨complete, same⟩ := ih
    rw [call_eq] at success
    have asked : (∃ earlier ∈ requests ++ [request], earlier.unnamed) ↔
        (∃ earlier ∈ requests, earlier.unnamed) ∨ request.unnamed := by
      simp only [List.mem_append, List.mem_singleton, or_and_right, exists_or, exists_eq_left]
    rw [asked]
    rcases execute_ok success with ⟨prepared, rfl⟩ | ⟨event, prepared, checked, rfl⟩
    · rw [or_iff_left (prepare_none_named prepared)]
      exact ⟨complete, same⟩
    · refine ⟨complete.append (prepare_prepared complete.history prepared) checked, ?_⟩
      rw [WorkspaceBudgetLedger.append, exists_mem_append, same, prepare_anonymous prepared]

/-- The replay accepts the journal that a sequence of successful calls leaves, and returns exactly
the events in memory, unless one of the calls recorded consumption under an empty run id. -/
theorem replayEvents_successfulCalls {requests : List Request}
    {ledger : WorkspaceBudgetLedger codec} (calls : SuccessfulCalls codec requests ledger) :
    replayEvents codec ledger.records = .ok ledger.events ↔
      ∀ request ∈ requests, ¬ request.unnamed := by
  obtain ⟨complete, same⟩ := calls.complete
  rw [replayEvents_ok complete.written]
  have named : (∀ event ∈ ledger.events, ¬ anonymous event) ↔
      ∀ request ∈ requests, ¬ request.unnamed := by
    simpa only [not_exists, not_and] using not_congr same
  rw [named]
  constructor
  · rintro ⟨-, holds, -, -⟩
    exact holds
  · intro holds
    exact ⟨complete.history, holds, complete.room, rfl⟩

theorem some_id_event : ∀ event : BudgetLedgerEvent, costInvalid event.costUsd = false →
    some (id event) = some event :=
  fun _ _ => rfl

/-- A codec that keeps an event as its own payload. -/
def plainCodec : Codec where
  Value := BudgetLedgerEvent
  toValue := id
  fromValue := some
  encodedLength := fun _ => 699
  fromValue_toValue := some_id_event

/-- A reservation of ten tokens, its settlement with four, and a consumption for a run. -/
def sampleRequests : List Request :=
  [.recordReservation ⟨"r-1", 10, 0, none, none, 1000⟩ none,
    .reconcileReservation ⟨"r-1", 4, 0, none, none, 1001⟩ none,
    .recordConsumption "run-a" 5 none 1002]

/-- The answers to requests on a new ledger whose appends all complete, and the ledger they leave.
-/
def answersTo (requests : List Request) :
    List (Except String RecordOutcome) × WorkspaceBudgetLedger plainCodec :=
  requests.foldl (fun (answers, ledger) request =>
    let (answer, next) := ledger.call .completes request
    (answers ++ [answer], next)) ([], .empty plainCodec)

/-- A reservation, its settlement and a consumption recorded for a run are read back. -/
theorem replayEvents_successfulCalls_named :
    (answersTo sampleRequests).1 = [.ok .recorded, .ok .recorded, .ok .recorded] ∧
    (answersTo sampleRequests).2.events.length = 3 ∧
    replayEvents plainCodec (answersTo sampleRequests).2.records =
      .ok (answersTo sampleRequests).2.events := by
  have recorded (count : Fin 3) : ((answersTo (sampleRequests.take count)).2.call .completes
      (sampleRequests.get count)).1 = .ok .recorded := by
    revert count
    decide +kernel
  have calls : SuccessfulCalls plainCodec (([] ++ [_] ++ [_]) ++ [_])
      (answersTo sampleRequests).2 :=
    .call (.call (.call .none .completes _ (Prod.ext (recorded 0) rfl)) .completes _
      (Prod.ext (recorded 1) rfl)) .completes _ (Prod.ext (recorded 2) rfl)
  refine ⟨by decide +kernel, by decide +kernel, (replayEvents_successfulCalls calls).mpr ?_⟩
  decide

/-- A consumption recorded under an empty run id is accepted, and the journal is refused when it is
read again. -/
theorem replayEvents_unnamed_consumption :
    (answersTo [.recordConsumption "" 5 none 1000]).1 = [.ok .recorded] ∧
    replayEvents plainCodec (answersTo [.recordConsumption "" 5 none 1000]).2.records =
      .error "rolling budget consume event is missing a run id" := by
  decide +kernel

end Maco.RollingBudget
