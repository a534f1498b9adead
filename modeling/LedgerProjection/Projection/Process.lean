import LedgerProjection.Handlers.Dispatch

/-!
# Projecting a record

`Projection.process` runs a record through its kind's handler, then applies what every kind
shares, in order:

1. the EVM outcome (contract result, logs, storage changes);
2. automatic token associations (token creation records its own);
3. NFT ownership moves to the receivers of the record's NFT transfers;
4. balance changes: hbar transfers summed per account (whatever the outcome, since fees are
   charged on failure too), then token transfers summed per (account, token), an NFT counting
   one unit leaving its sender and one reaching its receiver; a balance change carries no
   range, so it moves a balance without starting a new version;
5. the transaction row.

Sums are taken in 64-bit arithmetic: a sum that leaves the range stops the projection.
-/

namespace LedgerProjection

namespace Projection

/-- Associations the network made implicitly, for kinds other than token creation. -/
def applyAutomaticAssociations (item : RecordItem) : Projection Unit := do
  let assocs := item.record.automaticTokenAssociations
  assocs.forM fun a => do track a.accountId; track a.tokenId
  if item.kind = .tokenCreate || !item.isSuccessful || !(← persist).tokens then return
  assocs.forM fun a => do
    if a.accountId.isEmpty || a.tokenId.isEmpty then return
    let keys ← tokenKeys a.tokenId
    emit (.tokenAccount
      (TokenAccount.association a.accountId a.tokenId item.consensusTimestamp keys true))

/-- Moves every transferred NFT to its receiver; a transfer to `0.0.0` is a burn or wipe, which
its handler records. -/
def applyNftTransfers (item : RecordItem) : Projection Unit := do
  let lists := item.record.tokenTransferLists
  lists.forM fun l => do
    track l.tokenId
    trackAll (l.transfers.map (·.accountId))
    l.nftTransfers.forM fun t => do track t.senderAccountId; track t.receiverAccountId
  if !item.isSuccessful || !(← persist).tokens then return
  lists.forM fun l => l.nftTransfers.forM fun t => do
    if t.receiverAccountId.isEmpty then return
    emit (.nft
      { tokenId := l.tokenId, serialNumber := t.serialNumber, timestampRange := item.openRange,
        accountId := some t.receiverAccountId, delegatingSpender := some EntityId.empty,
        spender := some EntityId.empty })

end Projection

namespace Balances

/-- Adds `delta` to the sum under `k` (zero when absent), in 64-bit arithmetic. -/
def add {κ : Type} (cmp : κ → κ → Ordering) (m : SortedMap κ Int) (k : κ) (delta : Int) :
    Except Overflow (SortedMap κ Int) := do
  let sum ← I64.checkedAdd ((m.get? cmp k).getD 0) delta
  return m.insert cmp k sum

/-- Subtracts `delta` from the sum under `k` (zero when absent), in 64-bit arithmetic. -/
def sub {κ : Type} (cmp : κ → κ → Ordering) (m : SortedMap κ Int) (k : κ) (delta : Int) :
    Except Overflow (SortedMap κ Int) := do
  let diff ← I64.checkedSub ((m.get? cmp k).getD 0) delta
  return m.insert cmp k diff

/-- The hbar change of every account with a transfer (`0.0.0` aside). -/
def hbar (transfers : List AccountAmount) : Except Overflow (SortedMap EntityId Int) :=
  transfers.foldlM (fun m t =>
    if t.accountId.isEmpty then pure m else add EntityId.compare m t.accountId t.amount) {}

/-- The change of one token's transfer list. -/
def tokenList (m : SortedMap (EntityId × EntityId) Int) (l : TokenTransferList) :
    Except Overflow (SortedMap (EntityId × EntityId) Int) := do
  let m ← l.transfers.foldlM
    (fun m t => add EntityId.pairCompare m (t.accountId, l.tokenId) t.amount) m
  l.nftTransfers.foldlM (fun m t => do
    let m ← sub EntityId.pairCompare m (t.senderAccountId, l.tokenId) 1
    add EntityId.pairCompare m (t.receiverAccountId, l.tokenId) 1) m

/-- The token change of every (account, token) pair with a transfer. -/
def tokens (lists : List TokenTransferList) :
    Except Overflow (SortedMap (EntityId × EntityId) Int) :=
  lists.foldlM tokenList {}

end Balances

namespace Projection

/-- Lifts an arithmetic result into the projection. -/
def ofExcept {α : Type} : Except Overflow α → Projection α
  | .ok a => pure a
  | .error o => fail o

/-- Applies the record's transfers as balance changes. -/
def applyBalanceChanges (item : RecordItem) : Projection Unit := do
  let ts := item.consensusTimestamp
  let hbar ← ofExcept (Balances.hbar item.record.transferList)
  hbar.entries.forM fun (account, amount) => do
    track account
    emit (.entity { id := account, balance := some amount, balanceTimestamp := some ts })
  if !item.isSuccessful || !(← persist).tokens then return
  let tokens ← ofExcept (Balances.tokens item.record.tokenTransferLists)
  tokens.entries.forM fun ((account, token), amount) => do
    -- mints come from and burns go to 0.0.0
    if account.isEmpty then return
    emit (.tokenAccount
      { accountId := account, tokenId := token, balance := some amount,
        balanceTimestamp := some ts })

/-- Projects one record and returns its transaction row. -/
def process (item : RecordItem) : Projection Transaction := do
  let h := Handler.ofBody item.body
  let tx ← h.run item
  recordContractResult h.adjustResult item (tx.entityId.getD EntityId.empty)
  applyAutomaticAssociations item
  applyNftTransfers item
  applyBalanceChanges item
  emit (.transaction tx)
  return tx

end Projection

/-- How projecting one record ended. -/
inductive Outcome where
  /-- The transaction row, the mutations emitted in order, and the ids touched, ascending. -/
  | done (tx : Transaction) (mutations : List Mutation) (touched : List EntityId)
  /-- Why it stopped, and the mutations emitted up to and including the failing one. -/
  | failed (f : Failure) (mutations : List Mutation)

/-- Projects one record into a sink; the sink is returned as the record left it. -/
def projectRecord (props : Properties) (via : ResolverKind) (sink : Sink) (item : RecordItem) :
    Sink × Outcome :=
  match (Projection.process item).run (Ctx.start props via sink item) with
  | .ok tx c => (c.sink, .done tx c.emitted.reverse c.touched)
  | .error f c => (c.sink, .failed f c.emitted.reverse)

end LedgerProjection
