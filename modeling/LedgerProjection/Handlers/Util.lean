import LedgerProjection.Projection.Handler
import LedgerProjection.Projection.Hooks

/-!
# Utility transactions

Random numbers, direct hook storage writes, and the kinds that only leave a transaction row
(network freezes, unchecked submissions and batches, whose inner transactions arrive as
records of their own).
-/

namespace LedgerProjection

namespace Handler

open Projection

/-- A kind with only its transaction row. -/
def rowOnly : Handler := {}

/-- `UTIL_PRNG`: the generated bytes or number, when the record carries one. -/
def utilPrng (body : UtilPrngBody) : Handler where
  onTransaction item _ := do
    if !item.isSuccessful || !(← persist).prng then return
    let bytes := item.record.prngBytes
    let number := item.record.prngNumber
    if bytes.isNone && number.isNone then return
    emit (.prng
      { consensusTimestamp := item.consensusTimestamp, payerAccountId := item.payerAccountId,
        range := body.range, prngBytes := bytes, prngNumber := number })

/-- `HOOK_STORE`: writes by a hook's owner (the payer when none is named) to its storage. -/
def hookStore (body : HookStoreBody) : Handler where
  onTransaction item _ := do
    let owner ← match body.owner with
      | some r => if r.isUnset then pure item.payerAccountId else resolveAndTrack (some r)
      | none => pure item.payerAccountId
    if !item.isSuccessful || owner.isEmpty then return
    applyStorageUpdates item.consensusTimestamp owner body.hookId body.storageUpdates

end Handler

end LedgerProjection
