import Maco.RunBudget.Accounting

/-!
# What an error leaves

An operation writes at most one record to the rolling ledger, and which one is decided by the state
before it. An error leaves the state of the run, but not always the rolling ledger: an append may
reach the disk and still be reported as failed, and after a complete append `reconcile_with_pool`
and `release` compute the block reasons and the report, either of which can fail.
-/

namespace Maco.RunBudget

open Maco.Base Maco.RollingBudget RunBudgetLedger WorkspaceBudgetLedger

variable {codec : Codec}

namespace AttachedRollingBudget

/-- The rolling ledger has an event to append for a call, and the journal takes it. -/
def Accepts (attached : AttachedRollingBudget codec) (request : Request) : Prop :=
  ∃ event, attached.ledger.prepare request = .ok (some event) ∧
    attached.ledger.appendChecks event = .ok ()

/-- The rolling ledger after a call, if one is made. -/
def after (attached : AttachedRollingBudget codec) (io : AppendIo) (request : Option Request) :
    AttachedRollingBudget codec :=
  match request with
  | some request => (attached.record io request).2
  | none => attached

variable {attached : AttachedRollingBudget codec} {io : AppendIo} {request : Request}

variable {event : BudgetLedgerEvent}

section

variable (attached) (io) (asked : Option Request)

end

end AttachedRollingBudget

namespace RunBudgetLedger

variable (ledger : RunBudgetLedger) (environment : Environment) (budget : SharedBudget codec)

variable {ledger environment budget}

section

variable {attached : AttachedRollingBudget codec}

end

variable {operation : Operation} {refusal : BudgetError}

end RunBudgetLedger

end Maco.RunBudget
