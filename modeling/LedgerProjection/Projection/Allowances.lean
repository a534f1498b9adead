import LedgerProjection.Projection.Context
import LedgerProjection.Bytes.Word
import LedgerProjection.Hash.Keccak

/-!
# Allowances

One approve transaction may name the same allowance several times; the last entry in
submission order counts. The grants are therefore walked from the last one back, and an entry
whose key was already seen is dropped. The keys are (owner, spender) for hbar allowances,
(owner, spender, token) for token allowances and for approvals of all serials, and
(token, serial) for the spender of single serials. An owner left out or unset is the fee
payer; an owner or spender that does not resolve drops the grant.

Every token allowance and every NFT approval also gets a synthetic ERC event log, when those
are persisted, numbered after the record's EVM logs.
-/

namespace LedgerProjection

namespace Allowance

/-- The UTF-8 bytes of a string. -/
def utf8 (s : String) : List UInt8 := s.toUTF8.toList

/-- The first topic of the ERC-20/ERC-721 `Approval` event. -/
def approvalTopic : List UInt8 := Keccak.hash (utf8 "Approval(address,address,uint256)")

/-- The first topic of the ERC-721 `ApprovalForAll` event. -/
def approvalForAllTopic : List UInt8 := Keccak.hash (utf8 "ApprovalForAll(address,address,bool)")

/-- The owner a grant names: the payer when left out or unset. -/
def owner (c : Ctx) (ref : Option EntityRef) (payer : EntityId) : Option EntityId :=
  match ref with
  | none => some payer
  | some r => if r.isUnset then some payer else c.resolve r

/-- The spender a grant names. -/
def spender (c : Ctx) (ref : Option EntityRef) : Option EntityId := ref.bind c.resolve

end Allowance

namespace Projection

/-- Emits a synthetic event log of `token`, when synthetic logs are persisted. -/
def emitSyntheticLog (item : RecordItem) (token : EntityId) (topic0 : List UInt8)
    (owner spender : EntityId) (topic3 : Option (List UInt8)) (data : List UInt8) :
    Projection Unit := do
  if !(← persist).syntheticContractLogs then return
  let index ← nextLogIndex
  emit (.contractLog
    { consensusTimestamp := item.consensusTimestamp, index := index, contractId := token,
      payerAccountId := item.payerAccountId, rootContractId := some token, bloom := [],
      data := data, topic0 := some topic0, topic1 := some owner.evmWord,
      topic2 := some spender.evmWord, topic3 := topic3, synthetic := true })

/-- The hbar allowances, latest first, skipping keys already seen. -/
def approveCrypto (item : RecordItem) (seen : List (EntityId × EntityId)) :
    List CryptoAllowanceGrant → Projection Unit
  | [] => pure ()
  | g :: rest => do
    let c ← read
    match Allowance.owner c g.owner item.payerAccountId, Allowance.spender c g.spender with
    | some o, some s =>
      if (o, s) ∈ seen then approveCrypto item seen rest
      else
        track o
        track s
        emit (.cryptoAllowance
          { owner := o, spender := s, timestampRange := item.openRange, amount := g.amount,
            amountGranted := g.amount, payerAccountId := item.payerAccountId })
        approveCrypto item ((o, s) :: seen) rest
    | _, _ => approveCrypto item seen rest

/-- The token allowances, latest first, skipping keys already seen. -/
def approveTokens (item : RecordItem) (seen : List (EntityId × EntityId × EntityId)) :
    List TokenAllowanceGrant → Projection Unit
  | [] => pure ()
  | g :: rest => do
    let c ← read
    match Allowance.owner c g.owner item.payerAccountId, Allowance.spender c g.spender with
    | some o, some s =>
      if (o, s, g.tokenId) ∈ seen then approveTokens item seen rest
      else
        track o
        track s
        track g.tokenId
        emit (.tokenAllowance
          { owner := o, spender := s, tokenId := g.tokenId, timestampRange := item.openRange,
            amount := g.amount, amountGranted := g.amount, payerAccountId := item.payerAccountId })
        emitSyntheticLog item g.tokenId Allowance.approvalTopic o s none (Word.ofInt g.amount)
        approveTokens item ((o, s, g.tokenId) :: seen) rest
    | _, _ => approveTokens item seen rest

/-- Approves the spender of single serials, latest first, skipping serials already seen;
returns the serials seen. -/
def approveSerials (item : RecordItem) (token owner spender delegating : EntityId) :
    List (EntityId × Int) → List Int → Projection (List (EntityId × Int))
  | seen, [] => pure seen
  | seen, n :: rest => do
    if (token, n) ∈ seen then approveSerials item token owner spender delegating seen rest
    else
      emit (.nft
        { tokenId := token, serialNumber := n, timestampRange := item.openRange,
          delegatingSpender := some delegating, spender := some spender })
      emitSyntheticLog item token Allowance.approvalTopic owner spender (some (Word.ofInt n)) []
      approveSerials item token owner spender delegating ((token, n) :: seen) rest

/-- The NFT allowances, latest first: approvals of all serials skip keys already seen, and
single serials skip serials already seen. -/
def approveNfts (item : RecordItem) (seenAll : List (EntityId × EntityId × EntityId))
    (seenSerials : List (EntityId × Int)) : List NftAllowanceGrant → Projection Unit
  | [] => pure ()
  | g :: rest => do
    let c ← read
    match Allowance.owner c g.owner item.payerAccountId, Allowance.spender c g.spender with
    | some o, some s =>
      let t := g.tokenId
      track o
      track s
      track t
      let seenAll ← match g.approvedForAll with
        | .set approved =>
          if (o, s, t) ∈ seenAll then pure seenAll
          else do
            emit (.nftAllowance
              { owner := o, spender := s, tokenId := t, timestampRange := item.openRange,
                approvedForAll := approved, payerAccountId := item.payerAccountId })
            emitSyntheticLog item t Allowance.approvalForAllTopic o s none (Word.ofBool approved)
            pure ((o, s, t) :: seenAll)
        | .unset => pure seenAll
      let delegating := c.resolveOrEmpty g.delegatingSpender
      track delegating
      let seenSerials ← approveSerials item t o s delegating seenSerials g.serialNumbers.reverse
      approveNfts item seenAll seenSerials rest
    | _, _ => approveNfts item seenAll seenSerials rest

/-- The allowances of an approve transaction. -/
def approveAllowances (item : RecordItem) (body : CryptoApproveAllowanceBody) :
    Projection Unit := do
  approveCrypto item [] body.cryptoAllowances.reverse
  approveTokens item [] body.tokenAllowances.reverse
  approveNfts item [] [] body.nftAllowances.reverse

/-- Clears the spender of single serials, latest first, skipping serials already seen. -/
def clearSerials (item : RecordItem) (token : EntityId) :
    List (EntityId × Int) → List Int → Projection (List (EntityId × Int))
  | seen, [] => pure seen
  | seen, n :: rest => do
    if (token, n) ∈ seen then clearSerials item token seen rest
    else
      emit (.nft
        { tokenId := token, serialNumber := n, timestampRange := item.openRange,
          delegatingSpender := some EntityId.empty, spender := some EntityId.empty })
      clearSerials item token ((token, n) :: seen) rest

/-- The removals of a delete-allowance transaction, latest first. -/
def removeNftAllowances (item : RecordItem) (seen : List (EntityId × Int)) :
    List NftRemoveAllowance → Projection Unit
  | [] => pure ()
  | r :: rest => do
    let c ← read
    match Allowance.owner c r.owner item.payerAccountId with
    | some o =>
      track o
      track r.tokenId
      let seen ← clearSerials item r.tokenId seen r.serialNumbers.reverse
      removeNftAllowances item seen rest
    | none => removeNftAllowances item seen rest

/-- The NFT spenders a delete-allowance transaction clears. -/
def deleteAllowances (item : RecordItem) (body : CryptoDeleteAllowanceBody) : Projection Unit :=
  removeNftAllowances item [] body.nftAllowances.reverse

end Projection

end LedgerProjection
