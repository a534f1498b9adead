import LedgerProjection.Projection.Handler

/-!
# Consensus nodes and staking snapshots

Node rows are written only for transactions that succeeded, when nodes are persisted. A created
node takes its id from the receipt (no id, no row). An update's account, when set, is
resolved and written even when it does not resolve (as `0.0.0`). A stake update writes one
snapshot per node, dated by the day its staking period ended.
-/

namespace LedgerProjection

namespace Handler

open Projection

/-- Node rows are written. -/
def emitsNodes (item : RecordItem) : Projection Bool := do
  return item.isSuccessful && (← persist).nodes

/-- `NODE_CREATE`. -/
def nodeCreate (body : NodeCreateBody) : Handler where
  onTransaction item _ := do
    let account ← resolveAndTrack body.account
    if !(← emitsNodes item) then return
    let some nodeId := item.receipt.nodeId | return
    let ts := item.consensusTimestamp
    emit (.node
      { nodeId := nodeId, timestampRange := some (TimestampRange.openFrom ts),
        createdTimestamp := some ts, accountId := if account.isEmpty then none else some account,
        adminKey := body.adminKey, declineReward := some body.declineReward, deleted := some false,
        description := some body.description })

/-- `NODE_UPDATE`. -/
def nodeUpdate (body : NodeUpdateBody) : Handler where
  onTransaction item _ := do
    let account ← resolvePatch body.account
    if !(← emitsNodes item) then return
    emit (.node
      { nodeId := body.nodeId, timestampRange := item.openRange, accountId := account,
        adminKey := body.adminKey.toOption, declineReward := body.declineReward.toOption,
        description := body.description.toOption })

/-- `NODE_DELETE`. -/
def nodeDelete (body : NodeDeleteBody) : Handler where
  onTransaction item _ := do
    if !(← emitsNodes item) then return
    emit (.node
      { nodeId := body.nodeId, timestampRange := item.openRange, deleted := some true })

/-- `NODE_STAKE_UPDATE`. -/
def nodeStakeUpdate (body : NodeStakeUpdateBody) : Handler where
  onTransaction item _ := do
    if !(← emitsNodes item) then return
    let day := Instant.epochDay body.endOfStakingPeriod
    emitAll (body.nodeStakes.map fun s => .nodeStake
      { consensusTimestamp := item.consensusTimestamp, epochDay := day, nodeId := s.nodeId,
        maxStake := s.maxStake, minStake := s.minStake, rewardRate := s.rewardRate,
        stake := s.stake, stakeNotRewarded := s.stakeNotRewarded,
        stakeRewarded := s.stakeRewarded, stakingPeriod := body.stakingPeriod })

end Handler

end LedgerProjection
