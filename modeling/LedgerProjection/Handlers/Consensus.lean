import LedgerProjection.Projection.Handler
import LedgerProjection.Projection.FeeSchedule
import LedgerProjection.Wire.KeyList

/-!
# Consensus service: topics and topic messages

A created topic is an entity of type `TOPIC` with a topic row (its keys; the fee-exempt key
list always written, empty when none was given, so that "no exemptions" differs from "older
than exemptions") and a fee schedule. An update writes a new topic row only when it changes a
key, and a new fee schedule only when it sets one. A submitted message becomes a message row;
its topic is named by the row, not touched.
-/

namespace LedgerProjection

namespace Handler

open Projection

/-- `CONSENSUS_CREATE_TOPIC`. -/
def createTopic (body : ConsensusCreateTopicBody) : Handler where
  operation := .create
  mainEntity _ item := item.receipt.topicId.getD EntityId.empty
  onTransaction _ _ := do
    let _ ← resolveAndTrack body.autoRenewAccount
  onEntity item e := do
    let c ← read
    let ts := item.consensusTimestamp
    emit (.entity
      { e with
        entityType := some .topic
        autoRenewAccountId := body.autoRenewAccount.map fun r => c.resolveOrEmpty (some r)
        autoRenewPeriod := body.autoRenewPeriod
        key := body.adminKey
        memo := some body.memo })
    if !(← persist).topics then return
    emit (.topic
      { id := e.id, timestampRange := some (TimestampRange.openFrom ts),
        createdTimestamp := some ts, adminKey := body.adminKey,
        feeExemptKeyList := some (KeyList.encode (body.feeExemptKeyList.getD [])),
        feeScheduleKey := body.feeScheduleKey, submitKey := body.submitKey })
    emit (.customFee (parseCustomFees body.customFees e.id none ts).customFee)

/-- `CONSENSUS_UPDATE_TOPIC`. -/
def updateTopic (body : ConsensusUpdateTopicBody) : Handler where
  operation := .update
  mainEntity c item := c.receiptOrResolve item.receipt.topicId body.topic
  onEntity item e := do
    let ts := item.consensusTimestamp
    let autoRenew ← resolvePatch body.autoRenewAccount
    emit (.entity
      { e with
        autoRenewAccountId := autoRenew.or e.autoRenewAccountId
        autoRenewPeriod := body.autoRenewPeriod.applyTo e.autoRenewPeriod
        expirationTimestamp := body.expirationTime.applyTo e.expirationTimestamp
        key := body.adminKey.applyTo e.key
        memo := body.memo.applyTo e.memo })
    if !(← persist).topics then return
    let keysChanged := body.adminKey.toOption.isSome || body.feeExemptKeyList.toOption.isSome ||
      body.feeScheduleKey.toOption.isSome || body.submitKey.toOption.isSome
    if keysChanged then
      emit (.topic
        { id := e.id, timestampRange := some (TimestampRange.openFrom ts),
          adminKey := body.adminKey.toOption,
          feeExemptKeyList := body.feeExemptKeyList.toOption.map KeyList.encode,
          feeScheduleKey := body.feeScheduleKey.toOption, submitKey := body.submitKey.toOption })
    if let .set fees := body.customFees then
      emit (.customFee (parseCustomFees fees e.id none ts).customFee)

/-- `CONSENSUS_DELETE_TOPIC`. -/
def deleteTopic (body : TopicRefBody) : Handler where
  operation := .delete
  mainEntity c _ := c.resolveOrEmpty body.topic

/-- `CONSENSUS_SUBMIT_MESSAGE`. -/
def submitMessage (body : ConsensusSubmitMessageBody) : Handler where
  mainEntity c _ := c.resolveOrEmpty body.topic
  tracksMainEntity := false
  onTransaction item tx := do
    let some topic := tx.entityId | return
    if !item.isSuccessful || !(← persist).topicMessages then return
    let r := item.receipt
    emit (.topicMessage
      { consensusTimestamp := item.consensusTimestamp, topicId := topic,
        sequenceNumber := r.topicSequenceNumber, runningHash := r.topicRunningHash,
        runningHashVersion := r.topicRunningHashVersion, message := body.message,
        payerAccountId := item.payerAccountId, chunkNum := body.chunkInfo.map (·.number),
        chunkTotal := body.chunkInfo.map (·.total),
        initialTransactionValidStart := body.chunkInfo.map (·.initialTransactionValidStart),
        validStartTimestamp := item.validStartNs })

end Handler

end LedgerProjection
