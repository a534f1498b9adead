import LedgerProjection.Projection.Handler
import LedgerProjection.Projection.FeeSchedule
import LedgerProjection.Handlers.Crypto

/-!
# Token service

Token lifecycle, supply, associations, NFTs and airdrops. Token rows are written only for
transactions that succeeded, when tokens are persisted.

A fresh association has statuses only when the token's keys are known: unfrozen when the token
has a freeze key (else not applicable), KYC granted when it has a KYC key (else not
applicable). A created token associates its treasury and the collectors of its fees paid in
the token itself; the record may list further, automatic, associations.

An update writes a token row only when it changes something. Mints create serials with the
body's metadata (in order, empty when missing); burns and wipes delete the listed serials.
-/

namespace LedgerProjection

/-- The association of `account` with `token` made at `timestamp`. -/
def TokenAccount.association (account token : EntityId) (timestamp : Int) (keys : Option TokenKeys)
    (automatic : Bool) : TokenAccount :=
  { accountId := account, tokenId := token,
    timestampRange := some (TimestampRange.openFrom timestamp), associated := some true,
    automaticAssociation := some automatic, createdTimestamp := some timestamp,
    freezeStatus := keys.map fun k => if k.freezeKey then .unfrozen else .notApplicable,
    kycStatus := keys.map fun k => if k.kycKey then .granted else .notApplicable }

namespace Handler

open Projection

/-- Token rows are written. -/
def emitsTokens (item : RecordItem) : Projection Bool := do
  return item.isSuccessful && (← persist).tokens

/-- The associations a token creation makes, by (account, token), each with whether it is
automatic: the treasury and the in-token collectors, then the record's own. -/
def creationAssociations (item : RecordItem) (token treasury : EntityId)
    (collectors : List EntityId) : SortedMap (EntityId × EntityId) Bool :=
  let m : SortedMap (EntityId × EntityId) Bool :=
    SortedMap.insert EntityId.pairCompare {} (treasury, token) false
  let m := collectors.foldl (fun m c => m.insert EntityId.pairCompare (c, token) false) m
  item.record.automaticTokenAssociations.foldl (fun m a =>
    match m.get? EntityId.pairCompare (a.accountId, a.tokenId) with
    | some _ => m
    | none => m.insert EntityId.pairCompare (a.accountId, a.tokenId) true) m

/-- `TOKEN_CREATE`. -/
def tokenCreate (body : TokenCreateBody) : Handler where
  operation := .create
  mainEntity _ item := item.receipt.tokenId.getD EntityId.empty
  onTransaction _ _ := do
    let _ ← resolveAndTrack body.treasury
    let _ ← resolveAndTrack body.autoRenewAccount
    body.customFees.forM fun f => if let some c := f.collector then track c else pure ()
  onEntity item e := do
    let c ← read
    let ts := item.consensusTimestamp
    emit (.entity
      { e with
        entityType := some .token
        autoRenewAccountId := body.autoRenewAccount.map fun r => c.resolveOrEmpty (some r)
        autoRenewPeriod := body.autoRenewPeriod
        expirationTimestamp := body.expirationTime
        key := body.adminKey
        memo := some body.memo })
    if !(← persist).tokens then return
    let treasury := c.resolveOrEmpty body.treasury
    emit (.token
      { tokenId := e.id, timestampRange := some (TimestampRange.openFrom ts),
        createdTimestamp := some ts, decimals := some body.decimals,
        feeScheduleKey := body.feeScheduleKey, freezeDefault := some body.freezeDefault,
        freezeKey := body.freezeKey, initialSupply := some body.initialSupply,
        kycKey := body.kycKey, maxSupply := some body.maxSupply, metadata := some body.metadata,
        metadataKey := body.metadataKey, name := some body.name, pauseKey := body.pauseKey,
        pauseStatus := some (if body.pauseKey.isSome then .unpaused else .notApplicable),
        supplyKey := body.supplyKey, supplyType := some body.supplyType, symbol := some body.symbol,
        tokenType := some body.tokenType, totalSupply := some body.initialSupply,
        treasuryAccountId := if treasury.isEmpty then none else some treasury,
        wipeKey := body.wipeKey })
    let fees := parseCustomFees body.customFees e.id (some e.id) ts
    emit (.customFee fees.customFee)
    let keys : TokenKeys := { freezeKey := body.freezeKey.isSome, kycKey := body.kycKey.isSome }
    (creationAssociations item e.id treasury fees.inTokenCollectors).entries.forM fun entry => do
      let ((account, token), automatic) := entry
      if account.isEmpty then return
      track account
      emit (.tokenAccount (TokenAccount.association account token ts (some keys) automatic))

/-- `TOKEN_UPDATE`. -/
def tokenUpdate (body : TokenUpdateBody) : Handler where
  operation := .update
  mainEntity _ _ := body.token.getD EntityId.empty
  onEntity item e := do
    let ts := item.consensusTimestamp
    let autoRenew ← resolvePatch body.autoRenewAccount
    emit (.entity
      { e with
        autoRenewAccountId := autoRenew.or e.autoRenewAccountId
        autoRenewPeriod := body.autoRenewPeriod.applyTo e.autoRenewPeriod
        expirationTimestamp := body.expirationTime.applyTo e.expirationTimestamp
        key := body.adminKey.applyTo e.key
        memo := body.memo.applyTo e.memo })
    if !(← persist).tokens then return
    let treasury ← resolvePatch body.treasury
    let token : Token :=
      { tokenId := e.id, timestampRange := some (TimestampRange.openFrom ts),
        feeScheduleKey := body.feeScheduleKey.toOption, freezeKey := body.freezeKey.toOption,
        kycKey := body.kycKey.toOption, metadata := body.metadata.toOption,
        metadataKey := body.metadataKey.toOption, name := body.name.toOption,
        pauseKey := body.pauseKey.toOption, supplyKey := body.supplyKey.toOption,
        symbol := body.symbol.toOption, wipeKey := body.wipeKey.toOption,
        treasuryAccountId := treasury }
    let changed := token.feeScheduleKey.isSome || token.freezeKey.isSome || token.kycKey.isSome ||
      token.metadata.isSome || token.metadataKey.isSome || token.name.isSome ||
      token.pauseKey.isSome || token.supplyKey.isSome || token.symbol.isSome ||
      token.wipeKey.isSome || token.treasuryAccountId.isSome
    if changed then emit (.token token)

/-- `TOKEN_DELETE`. -/
def tokenDelete (body : TokenRefBody) : Handler where
  operation := .delete
  mainEntity _ _ := body.token.getD EntityId.empty

/-- `TOKEN_FEE_SCHEDULE_UPDATE`. -/
def tokenFeeScheduleUpdate (body : TokenFeeScheduleUpdateBody) : Handler where
  mainEntity _ _ := body.token.getD EntityId.empty
  onTransaction item tx := do
    body.customFees.forM fun f => if let some c := f.collector then track c else pure ()
    let some token := tx.entityId | return
    if !(← emitsTokens item) then return
    let fees := parseCustomFees body.customFees token (some token) item.consensusTimestamp
    emit (.customFee fees.customFee)

/-- `TOKEN_FREEZE`, `TOKEN_UNFREEZE`, `TOKEN_GRANT_KYC` and `TOKEN_REVOKE_KYC`: the statuses
they set. -/
def tokenAccountStatus (freeze : Option TokenFreezeStatus) (kyc : Option TokenKycStatus)
    (body : TokenAccountBody) : Handler where
  mainEntity _ _ := body.token.getD EntityId.empty
  onTransaction item tx := do
    let account ← resolveAndTrack body.account
    let some token := tx.entityId | return
    if account.isEmpty || !(← emitsTokens item) then return
    emit (.tokenAccount
      { accountId := account, tokenId := token, timestampRange := item.openRange,
        freezeStatus := freeze, kycStatus := kyc })

/-- `TOKEN_PAUSE` and `TOKEN_UNPAUSE`: the status they set. -/
def tokenPause (status : TokenPauseStatus) (body : TokenRefBody) : Handler where
  mainEntity _ _ := body.token.getD EntityId.empty
  onTransaction item tx := do
    let some token := tx.entityId | return
    if !(← emitsTokens item) then return
    emit (.token
      { tokenId := token, timestampRange := item.openRange, pauseStatus := some status })

/-- `TOKEN_ASSOCIATE`, or `TOKEN_DISSOCIATE` when `associates` is false. The main entity is
the account; every listed token is touched. -/
def tokenAssociation (associates : Bool) (body : TokenAssociationBody) : Handler where
  mainEntity c _ := c.resolveOrEmpty body.account
  onTransaction item tx := do
    trackAll body.tokens
    let some account := tx.entityId | return
    if !(← emitsTokens item) then return
    let ts := item.consensusTimestamp
    body.tokens.forM fun token => do
      if associates then
        let keys ← tokenKeys token
        emit (.tokenAccount (TokenAccount.association account token ts keys false))
      else
        emit (.tokenAccount
          { accountId := account, tokenId := token,
            timestampRange := some (TimestampRange.openFrom ts), associated := some false })

/-- The rows of deleted serials. -/
def burnedSerials (token : EntityId) (timestamp : Int) (serials : List Int) : List Mutation :=
  serials.map fun n => .nft
    { tokenId := token, serialNumber := n,
      timestampRange := some (TimestampRange.openFrom timestamp),
      accountId := some EntityId.empty, deleted := some true }

/-- The rows of minted serials: the receipt's serials, with the body's metadata in order. -/
def mintedSerials (token : EntityId) (timestamp : Int) (serials : List Int)
    (metadata : List (List UInt8)) : List Mutation :=
  serials.zipIdx.map fun (n, i) => .nft
    { tokenId := token, serialNumber := n,
      timestampRange := some (TimestampRange.openFrom timestamp),
      createdTimestamp := some timestamp, deleted := some false,
      metadata := some (metadata[i]?.getD []) }

/-- The supply row of a mint, burn or wipe, then its serial rows. -/
def emitSupply (item : RecordItem) (token : EntityId) (serials : List Mutation) :
    Projection Unit := do
  emit (.token
    { tokenId := token, timestampRange := item.openRange,
      totalSupply := some item.receipt.newTotalSupply })
  emitAll serials

/-- `TOKEN_MINT`. -/
def tokenMint (body : TokenMintBody) : Handler where
  mainEntity _ _ := body.token.getD EntityId.empty
  onTransaction item tx := do
    let some token := tx.entityId | return
    if !(← emitsTokens item) then return
    emitSupply item token
      (mintedSerials token item.consensusTimestamp item.receipt.serialNumbers body.metadata)

/-- `TOKEN_BURN`. -/
def tokenBurn (body : TokenBurnBody) : Handler where
  mainEntity _ _ := body.token.getD EntityId.empty
  onTransaction item tx := do
    let some token := tx.entityId | return
    if !(← emitsTokens item) then return
    emitSupply item token (burnedSerials token item.consensusTimestamp body.serialNumbers)

/-- `TOKEN_WIPE`. -/
def tokenWipe (body : TokenWipeBody) : Handler where
  mainEntity _ _ := body.token.getD EntityId.empty
  onTransaction item tx := do
    let _ ← resolveAndTrack body.account
    let some token := tx.entityId | return
    if !(← emitsTokens item) then return
    emitSupply item token (burnedSerials token item.consensusTimestamp body.serialNumbers)

/-- `TOKEN_REJECT`: ownership returns through the record's transfer lists, so only the parties
are touched (the payer when no owner is named). -/
def tokenReject (body : TokenRejectBody) : Handler where
  onTransaction item _ := do
    match body.owner with
    | some owner =>
      if owner.isUnset then track item.payerAccountId
      else do let _ ← resolveAndTrack (some owner)
    | none => track item.payerAccountId
    trackAll (body.rejections.map (·.tokenId))

/-- `TOKEN_UPDATE_NFTS`. -/
def tokenUpdateNfts (body : TokenUpdateNftsBody) : Handler where
  mainEntity _ _ := body.token.getD EntityId.empty
  onTransaction item tx := do
    let some token := tx.entityId | return
    let .set metadata := body.metadata | return
    if !(← emitsTokens item) then return
    emitAll (body.serialNumbers.map fun n => .nft
      { tokenId := token, serialNumber := n,
        timestampRange := item.openRange,
        metadata := some metadata })

/-- `TOKEN_AIRDROP`: airdrops that could not be delivered become pending, as the record lists. -/
def tokenAirdrop (body : TokenAirdropBody) : Handler where
  onTransaction item _ := do
    body.tokenTransfers.forM trackTokenTransfers
    if !item.isSuccessful || !(← persist).tokenAirdrops then return
    item.record.newPendingAirdrops.forM fun p => do
      track p.senderAccountId
      track p.receiverAccountId
      emit (.tokenAirdrop
        { senderAccountId := p.senderAccountId, receiverAccountId := p.receiverAccountId,
          tokenId := p.tokenId, serialNumber := p.serialNumber.getD 0,
          timestampRange := item.openRange,
          amount := if p.serialNumber.isNone then some p.amount else none, state := .pending })

/-- `TOKEN_CANCEL_AIRDROP` and `TOKEN_CLAIM_AIRDROP`: the state pending airdrops end in. -/
def pendingAirdrops (state : TokenAirdropState) (body : PendingAirdropsBody) : Handler where
  onTransaction item _ := do
    let emits := item.isSuccessful && (← persist).tokenAirdrops
    body.pendingAirdrops.forM fun p => do
      let sender ← resolveAndTrack p.sender
      let receiver ← resolveAndTrack p.receiver
      track p.tokenId
      if !emits || sender.isEmpty || receiver.isEmpty then return
      emit (.tokenAirdrop
        { senderAccountId := sender, receiverAccountId := receiver, tokenId := p.tokenId,
          serialNumber := p.serialNumber.getD 0, timestampRange := item.openRange, amount := none,
          state := state })

end Handler

end LedgerProjection
