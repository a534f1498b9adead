import LedgerProjection.Projection.Handler
import LedgerProjection.Projection.Hooks
import LedgerProjection.Projection.Allowances

/-!
# Crypto service: accounts, transfers, allowances and live hashes

A created account takes its alias from the body, else from the record; its EVM address is the
record's, else the alias when that is 20 bytes long (such an alias is the address itself). A
transfer only touches its parties: balances and NFT moves are applied to every record after
its handler. Allowances are reconciled only for transactions that succeeded.
-/

namespace LedgerProjection

namespace Handler

open Projection

/-- The length of an EVM address. -/
def evmAddressLength : Nat := 20

/-- `CRYPTO_CREATE`. -/
def cryptoCreate (body : CryptoCreateBody) : Handler where
  operation := .create
  mainEntity _ item := item.receipt.accountId.getD EntityId.empty
  onTransaction _ _ := do
    let _ ← resolveAndTrack body.proxyAccount
    let _ ← resolveAndTrack body.stakedAccount
  onEntity item e := do
    let c ← read
    let ts := item.consensusTimestamp
    let given := if body.alias.isEmpty then item.record.alias else body.alias
    let evm := if !item.record.evmAddress.isEmpty then some item.record.evmAddress
      else if given.length = evmAddressLength then some given else none
    let e : Entity := { e with
      entityType := some .account
      «alias» := if given.isEmpty then none else some given
      evmAddress := evm
      autoRenewPeriod := body.autoRenewPeriod
      balance := some 0
      key := body.key
      maxAutomaticTokenAssociations := body.maxAutomaticTokenAssociations
      memo := some body.memo
      proxyAccountId := body.proxyAccount.map fun r => c.resolveOrEmpty (some r)
      receiverSigRequired := some body.receiverSigRequired }
    let staked := body.stakedAccount.map fun r => c.resolveOrEmpty (some r)
    emit (.entity (e.withStaking ts staked body.stakedNodeId (some body.declineReward)))
    createHooks ts e.id body.hookCreationDetails

/-- `CRYPTO_UPDATE`. -/
def cryptoUpdate (body : CryptoUpdateBody) : Handler where
  operation := .update
  mainEntity c item := c.receiptOrResolve item.receipt.accountId body.account
  onEntity item e := do
    let ts := item.consensusTimestamp
    let proxy ← resolvePatch body.proxyAccount
    let e : Entity := { e with
      autoRenewPeriod := body.autoRenewPeriod.applyTo e.autoRenewPeriod
      expirationTimestamp := body.expirationTime.applyTo e.expirationTimestamp
      key := body.key.applyTo e.key
      maxAutomaticTokenAssociations :=
        body.maxAutomaticTokenAssociations.applyTo e.maxAutomaticTokenAssociations
      memo := body.memo.applyTo e.memo
      proxyAccountId := proxy.or e.proxyAccountId
      receiverSigRequired := body.receiverSigRequired.applyTo e.receiverSigRequired }
    let staked ← resolvePatch body.stakedAccount
    emit (.entity (e.withStaking ts staked body.stakedNodeId.toOption body.declineReward.toOption))
    createHooks ts e.id body.hookCreationDetails
    deleteHooks ts e.id body.hookIdsToDelete

/-- `CRYPTO_DELETE`. -/
def cryptoDelete (body : CryptoDeleteBody) : Handler where
  operation := .delete
  mainEntity c _ := c.resolveOrEmpty body.account
  onTransaction _ _ := do
    let _ ← resolveAndTrack body.transferAccount
  onEntity _ e := do
    let c ← read
    emit (.entity
      { e with obtainerId := body.transferAccount.map fun r => c.resolveOrEmpty (some r) })

/-- Touches the parties of a token's transfers. -/
def trackTokenTransfers (t : TokenTransferRefs) : Projection Unit := do
  track t.tokenId
  t.transfers.forM fun x => do let _ ← resolveAndTrack x.account
  t.nftTransfers.forM fun x => do
    let _ ← resolveAndTrack x.sender
    let _ ← resolveAndTrack x.receiver

/-- `CRYPTO_TRANSFER`. -/
def cryptoTransfer (body : CryptoTransferBody) : Handler where
  onTransaction item _ := do
    body.transfers.forM fun x => do let _ ← resolveAndTrack x.account
    body.tokenTransfers.forM trackTokenTransfers
    trackAll (item.record.transferList.map (·.accountId))

/-- `CRYPTO_APPROVE_ALLOWANCE`. -/
def approveAllowance (body : CryptoApproveAllowanceBody) : Handler where
  onTransaction item _ := if item.isSuccessful then approveAllowances item body else pure ()

/-- `CRYPTO_DELETE_ALLOWANCE`. -/
def deleteAllowance (body : CryptoDeleteAllowanceBody) : Handler where
  onTransaction item _ := if item.isSuccessful then deleteAllowances item body else pure ()

/-- `CRYPTO_ADD_LIVE_HASH`, or `CRYPTO_DELETE_LIVE_HASH` when `adds` is false: both resolve
the account, only an addition leaves a row. -/
def liveHash (adds : Bool) (body : LiveHashBody) : Handler where
  mainEntity c _ := c.resolveOrEmpty body.account
  onTransaction item tx := do
    if !adds then return
    let some account := tx.entityId | return
    if !item.isSuccessful || !(← persist).liveHashes then return
    emit (.liveHash
      { consensusTimestamp := item.consensusTimestamp, accountId := account, hash := body.hash })

end Handler

end LedgerProjection
