import Maco.Base.Map
import Maco.Base.Number
import Maco.Base.Result
import Maco.Base.Text

/-!
# Events of the workspace rolling budget

The records the workspace-scoped consumption ledger keeps: aggregate reservations, their terminal
reconciliations, plain and pool consumption, and rate-limit latches, with the checks each of them
has to pass. Costs are binary64 numbers; a comparison written `==` is the one of the number
format, where the two zeros are equal.
-/

namespace Maco.RollingBudget

open Maco.Base

inductive ResetWindow where
  | none
  | rollingHours (hours : ℕ)
  | calendarMonth
deriving DecidableEq, Repr

/-- `PoolKey`: the runtime, account and contract window of a quota pool. -/
structure PoolKey where
  runtime : String
  account : String
  window : ResetWindow
deriving DecidableEq, Repr

/-- `MAX_IDENTIFIER_BYTES` of the quota pools. -/
def maxIdentifierBytes : ℕ := 128

/-- `parse_identifier` of the quota pools, which returns its argument. -/
def parseIdentifier (value refusal : String) : Except String Unit :=
  refuseIf (trim value = "" ∨ value ≠ trim value ∨ maxIdentifierBytes < byteLength value ∨
    anyChar isWhitespace value = true ∨ anyChar isControl value = true) refusal

/-- `PoolKey::validate`. -/
def PoolKey.validate (pool : PoolKey) : Except String Unit := do
  parseIdentifier pool.runtime
    "quota pool runtime must be non-empty, bounded, and contain no whitespace"
  parseIdentifier pool.account
    "quota pool account must be non-empty, bounded, and contain no whitespace"
  refuseIf (pool.window = .rollingHours 0) "rolling quota window hours must be greater than zero"

inductive RuntimeId where
  | codex
  | fake
  | grok
  | cursor
  | claudeCode
  | geminiCli
  | deepSeek
deriving DecidableEq, Repr

/-- `PricingScope`: where an operator price applies. -/
structure PricingScope where
  runtime : RuntimeId
  model : String
  accountId : String
  planId : String
deriving DecidableEq, Repr

structure OperatorPricingContract where
  schemaVersion : ℕ
  contractId : String
  revision : String
  effectiveDate : String
  validThrough : String
  sourceReference : String
  sourceAttribution : String
  currency : String
  unit : String
  billing : String
  scopes : List PricingScope
  priceMapSha256 : String
deriving DecidableEq, Repr

/-- `PricingContractProvenance`: the operator contract an estimate rests on. -/
structure PricingContractProvenance where
  contract : OperatorPricingContract
  normalizedSha256 : String
  planId : String
deriving DecidableEq, Repr

inductive ChargePricingBasis where
  | unattributed
  | operatorContractEstimate
  | synthetic
  | unpriced
  | conservativeReservation
  | providerNativeCostEquivalent
deriving DecidableEq, Repr

/-- `ChargePricing`: how one charge was priced. -/
structure ChargePricing where
  basis : ChargePricingBasis
  contract : Option PricingContractProvenance
  runtime : Option String
  model : Option String
deriving DecidableEq, Repr

/-- `DurableBudgetReservation`: one aggregate admission. -/
structure DurableBudgetReservation where
  reservationId : String
  tokens : ℕ
  requests : ℕ
  costUsd : Option Float
  pool : Option PoolKey
  unixSeconds : ℕ
deriving BEq, DecidableEq, Repr

/-- `DurableBudgetReconciliation`: the terminal charge of one reservation. -/
structure DurableBudgetReconciliation where
  reservationId : String
  tokens : ℕ
  requests : ℕ
  costUsd : Option Float
  pool : Option PoolKey
  unixSeconds : ℕ
deriving DecidableEq, Repr

/-- `CompletedPoolConsumption`: completed usage of one quota pool. -/
structure CompletedPoolConsumption where
  completionId : String
  pool : PoolKey
  tokens : ℕ
  requests : ℕ
  costUsd : Option Float
  unixSeconds : ℕ
deriving DecidableEq, Repr

def ledgerFormatVersion : ℕ := 1

/-- `BudgetLedgerEvent`. The fields of a reservation, a reconciliation and a pool consumption are
those of the request they record. -/
inductive BudgetLedgerEvent where
  | reservation (version : ℕ) (pricing : Option ChargePricing) (entry : DurableBudgetReservation)
  | reservationReconciled (version : ℕ) (pricing : Option ChargePricing)
      (entry : DurableBudgetReconciliation) (recoveredAfterProcessDeath : Bool)
  | consume (version : ℕ) (runId : String) (tokens : ℕ) (costUsd : Option Float)
      (unixSeconds : ℕ)
  | poolConsume (version : ℕ) (pricing : Option ChargePricing) (entry : CompletedPoolConsumption)
  | rateLimited (version : ℕ) (pool detail : String) (unixSeconds untilUnixSeconds : ℕ)
deriving DecidableEq, Repr

/-- `BudgetLedgerEvent::phase`. -/
def BudgetLedgerEvent.phase : BudgetLedgerEvent → String
  | .reservation .. => "reservation"
  | .reservationReconciled .. => "reservation_reconciled"
  | .consume .. => "consume"
  | .poolConsume .. => "pool_consume"
  | .rateLimited .. => "rate_limited"

/-- `MAX_SUBJECT_BYTES` of the ledger's journal. -/
def maxSubjectBytes : ℕ := 128

/-- `journal_subject_ok`. -/
def journalSubjectOk (value : String) : Bool :=
  value != "" && byteLength value ≤ maxSubjectBytes &&
    allChars (fun c => isNameChar c || c == '/') value

/-- `BudgetLedgerEvent::subject`: the identifier the record names, when a journal can carry it. -/
def BudgetLedgerEvent.subject (event : BudgetLedgerEvent) : Option String :=
  let named (value : String) : Option String := if journalSubjectOk value then some value else none
  match event with
  | .reservation _ _ entry => named entry.reservationId
  | .reservationReconciled _ _ entry _ => named entry.reservationId
  | .consume _ runId _ _ _ => named runId
  | .poolConsume _ _ entry => named entry.completionId
  | .rateLimited _ pool _ _ _ => named pool

/-- `BudgetLedgerEvent::unix_seconds`. -/
def BudgetLedgerEvent.unixSeconds : BudgetLedgerEvent → ℕ
  | .reservation _ _ entry => entry.unixSeconds
  | .reservationReconciled _ _ entry _ => entry.unixSeconds
  | .consume _ _ _ _ unixSeconds => unixSeconds
  | .poolConsume _ _ entry => entry.unixSeconds
  | .rateLimited _ _ _ unixSeconds _ => unixSeconds

/-- A cost the ledger refuses: not finite, or negative. -/
def costInvalid (cost : Option Float) : Bool :=
  cost.any fun cost => !cost.isFinite || decide (cost < 0.0)

/-- The longest reservation or completion id, in bytes. -/
def maxLedgerIdBytes : ℕ := 512

/-- An id the ledger refuses: empty, too long, or with a control character. -/
def ledgerIdInvalid (id : String) : Bool :=
  id == "" || decide (maxLedgerIdBytes < byteLength id) || anyChar isControl id

/-- `validate_reservation_id`. -/
def validateReservationId (reservationId : String) : Except String Unit :=
  refuseIf (ledgerIdInvalid reservationId = true) "workspace budget reservation id is invalid"

/-- The check of a pool and its request count that a reservation and its reconciliation share:
requests are recorded exactly for a pool. -/
def validatePoolRequests (pool : Option PoolKey) (requests : ℕ) (kind : String) :
    Except String Unit :=
  match pool with
  | some pool => do
    (pool.validate).mapError fun refusal => "workspace budget " ++ kind ++ " pool is invalid: " ++
      refusal
    refuseIf (requests = 0) ("workspace budget pool " ++ kind ++ " must record a request")
  | none => refuseIf (requests ≠ 0)
      ("workspace budget aggregate " ++ kind ++ " cannot record pool requests")

/-- `validate_durable_reservation`. -/
def validateDurableReservation (reservation : DurableBudgetReservation) : Except String Unit := do
  validateReservationId reservation.reservationId
  refuseIf (reservation.tokens = 0) "workspace budget reservation must reserve at least one token"
  refuseIf (costInvalid reservation.costUsd = true)
    "workspace budget reservation cost must be finite and non-negative"
  validatePoolRequests reservation.pool reservation.requests "reservation"

/-- `validate_durable_reconciliation`. -/
def validateDurableReconciliation (reconciliation : DurableBudgetReconciliation) :
    Except String Unit := do
  validateReservationId reconciliation.reservationId
  refuseIf (costInvalid reconciliation.costUsd = true)
    "workspace budget reconciliation cost must be finite and non-negative"
  validatePoolRequests reconciliation.pool reconciliation.requests "reconciliation"

/-- `validate_completed_pool_consumption`. -/
def validateCompletedPoolConsumption (completion : CompletedPoolConsumption) :
    Except String Unit := do
  refuseIf (ledgerIdInvalid completion.completionId = true)
    "workspace quota completion id is invalid"
  (completion.pool.validate).mapError fun refusal => "workspace quota pool key is invalid: " ++
    refusal
  refuseIf (completion.tokens = 0 ∧ completion.requests = 0 ∧ completion.costUsd = none)
    "workspace quota completion must record tokens, requests, or cost"
  refuseIf (costInvalid completion.costUsd = true)
    "workspace quota completion cost must be finite and non-negative"

/-- A valid cost is equal to itself. -/
theorem cost_beq_self (valid : costInvalid cost = false) : (cost == cost) = true := by
  cases cost with
  | none => rfl
  | some cost =>
    have finite : cost.isFinite = true := by
      simp only [costInvalid, Option.any_some, Bool.or_eq_false_iff, Bool.not_eq_false'] at valid
      exact valid.1
    exact beq_self_of_isFinite finite

theorem validateDurableReservation_cost (valid : validateDurableReservation reservation = .ok ()) :
    costInvalid reservation.costUsd = false := by
  simp only [validateDurableReservation, ok_iff] at valid
  obtain ⟨-, -, -, cost, -⟩ := valid
  exact Bool.not_eq_true _ ▸ cost

theorem validateDurableReconciliation_cost
    (valid : validateDurableReconciliation reconciliation = .ok ()) :
    costInvalid reconciliation.costUsd = false := by
  simp only [validateDurableReconciliation, ok_iff] at valid
  obtain ⟨-, -, cost, -⟩ := valid
  exact Bool.not_eq_true _ ▸ cost

theorem validateCompletedPoolConsumption_cost
    (valid : validateCompletedPoolConsumption completion = .ok ()) :
    costInvalid completion.costUsd = false := by
  simp only [validateCompletedPoolConsumption, ok_iff] at valid
  obtain ⟨-, -, -, -, cost⟩ := valid
  exact Bool.not_eq_true _ ▸ cost

/-- The settlement of a reservation checks the same fields as the reservation itself, so a charge
of exactly the reserved amounts is a valid reconciliation. -/
theorem validateDurableReconciliation_of_reservation
    (valid : validateDurableReservation reservation = .ok ()) (unixSeconds : ℕ) :
    validateDurableReconciliation
      { reservationId := reservation.reservationId
        tokens := reservation.tokens
        requests := reservation.requests
        costUsd := reservation.costUsd
        pool := reservation.pool
        unixSeconds } = .ok () := by
  simp only [validateDurableReservation, ok_iff] at valid
  obtain ⟨⟨⟩, id, -, cost, pool⟩ := valid
  simp only [validateDurableReconciliation, ok_iff]
  refine ⟨(), id, cost, ?_⟩
  unfold validatePoolRequests at pool ⊢
  cases known : reservation.pool with
  | none =>
    simp only [known, refuseIf_ok] at pool
    rw [refuseIf_ok]
    exact pool
  | some key =>
    simp only [known, ok_iff, mapError_ok] at pool ⊢
    exact pool

end Maco.RollingBudget
