import LedgerProjection.Projection.Handler

/-!
# Schedule service

Creating or signing a schedule that succeeded records one signature row per distinct public
key prefix of the signature map (its first occurrence), when signatures are persisted. A
created schedule's payer is the one the body names, else its creator.
-/

namespace LedgerProjection

namespace Handler

open Projection

/-- The signature rows of the given pairs, skipping prefixes already seen. -/
def signatureRows (item : RecordItem) (schedule : EntityId) :
    List (List UInt8) → List SignaturePair → List Mutation
  | _, [] => []
  | seen, p :: rest =>
    if p.pubKeyPrefix ∈ seen then signatureRows item schedule seen rest
    else
      .transactionSignature { consensusTimestamp := item.consensusTimestamp, entityId := schedule,
                              publicKeyPrefix := p.pubKeyPrefix, signature := p.signature,
                              signatureType := p.signatureType.code } ::
        signatureRows item schedule (p.pubKeyPrefix :: seen) rest

/-- Records who signed toward a schedule. -/
def emitSignatures (item : RecordItem) (schedule : EntityId) : Projection Unit := do
  if schedule.isEmpty || !item.isSuccessful || !(← persist).transactionSignatures then return
  emitAll (signatureRows item schedule [] item.signatureMap)

/-- `SCHEDULE_CREATE`. -/
def scheduleCreate (body : ScheduleCreateBody) : Handler where
  operation := .create
  mainEntity _ item := item.receipt.scheduleId.getD EntityId.empty
  onTransaction item tx := do
    let _ ← resolveAndTrack body.payerAccount
    emitSignatures item (tx.entityId.getD EntityId.empty)
  onEntity item e := do
    emit (.entity
      { e with
        entityType := some .schedule
        expirationTimestamp := body.expirationTime
        key := body.adminKey
        memo := some body.memo })
    if !(← persist).schedules then return
    let c ← read
    -- without a payer of its own the creator pays for the scheduled transaction
    let payer := (body.payerAccount.bind c.resolve).getD item.payerAccountId
    emit (.schedule
      { scheduleId := e.id, consensusTimestamp := item.consensusTimestamp,
        creatorAccountId := item.payerAccountId, payerAccountId := payer,
        transactionBody := body.scheduledTransactionBody, expirationTime := body.expirationTime,
        waitForExpiry := body.waitForExpiry })

/-- `SCHEDULE_SIGN`. -/
def scheduleSign (body : ScheduleRefBody) : Handler where
  mainEntity _ _ := body.schedule.getD EntityId.empty
  onTransaction item tx := emitSignatures item (tx.entityId.getD EntityId.empty)

/-- `SCHEDULE_DELETE`. -/
def scheduleDelete (body : ScheduleRefBody) : Handler where
  operation := .delete
  mainEntity _ _ := body.schedule.getD EntityId.empty

end Handler

end LedgerProjection
