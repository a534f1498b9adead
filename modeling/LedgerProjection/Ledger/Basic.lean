import LedgerProjection.History.Table

/-!
# The ledger

The ledger receives mutations one at a time and keeps:

* a history table for each of the twelve versioned row types;
* the contracts' bytecode sources, merged field by field;
* hook storage: one value per (owner, hook, slot), an empty write clearing the slot;
* the log of accepted mutations, in order.

Every other kind of mutation is accepted and only logged. A mutation refused by its table
is not logged; `apply` returns the ledger as left by the attempt and the fault.
-/

namespace LedgerProjection

/-- A hook storage slot: the hook's owner and id, and the 32-byte slot key. -/
structure SlotKey where
  owner : EntityId
  hookId : Int
  key : List UInt8
deriving DecidableEq, Repr

/-- Order by owner, hook, then slot bytes. -/
def SlotKey.compare (a b : SlotKey) : Ordering :=
  (EntityId.compare a.owner b.owner).then
    ((Ord.compare a.hookId b.hookId).then (Bytes.compare a.key b.key))

/-- The state of the ledger. -/
structure Ledger where
  /-- Accepted mutations, most recent first. -/
  accepted : List Mutation := []
  entities : HistoryTable Entity := {}
  topics : HistoryTable Topic := {}
  nodes : HistoryTable Node := {}
  tokens : HistoryTable Token := {}
  tokenAccounts : HistoryTable TokenAccount := {}
  nfts : HistoryTable Nft := {}
  tokenAirdrops : HistoryTable TokenAirdrop := {}
  customFees : HistoryTable CustomFee := {}
  cryptoAllowances : HistoryTable CryptoAllowance := {}
  tokenAllowances : HistoryTable TokenAllowance := {}
  nftAllowances : HistoryTable NftAllowance := {}
  hooks : HistoryTable Hook := {}
  contracts : SortedMap EntityId Contract := {}
  hookStorage : SortedMap SlotKey (List UInt8) := {}
deriving Inhabited

namespace Ledger

/-- The accepted mutations in order. -/
def log (l : Ledger) : List Mutation := l.accepted.reverse

/-- The number of accepted mutations. -/
def mutationCount (l : Ledger) : Nat := l.accepted.length

/-- Merges a contract's populated fields into its stored sources. -/
def applyContract (l : Ledger) (c : Contract) : Ledger :=
  let cur := (l.contracts.get? EntityId.compare c.id).getD { id := c.id }
  let next := { cur with
    fileId := c.fileId.or cur.fileId
    initcode := c.initcode.or cur.initcode
    runtimeBytecode := c.runtimeBytecode.or cur.runtimeBytecode }
  { l with contracts := l.contracts.insert EntityId.compare c.id next }

/-- Writes a hook storage slot; an empty value clears it. -/
def applyStorage (l : Ledger) (ch : HookStorageChange) : Ledger :=
  let k : SlotKey := ⟨ch.ownerId, ch.hookId, ch.key⟩
  if ch.valueWritten.isEmpty then { l with hookStorage := l.hookStorage.erase SlotKey.compare k }
  else { l with hookStorage := l.hookStorage.insert SlotKey.compare k ch.valueWritten }

/-- The effect of a mutation on the stores, before logging. -/
def store (l : Ledger) : Mutation → Ledger × Option LedgerFault
  | .entity r => let (t, f) := l.entities.apply r; ({ l with entities := t }, f)
  | .topic r => let (t, f) := l.topics.apply r; ({ l with topics := t }, f)
  | .node r => let (t, f) := l.nodes.apply r; ({ l with nodes := t }, f)
  | .token r => let (t, f) := l.tokens.apply r; ({ l with tokens := t }, f)
  | .tokenAccount r => let (t, f) := l.tokenAccounts.apply r; ({ l with tokenAccounts := t }, f)
  | .nft r => let (t, f) := l.nfts.apply r; ({ l with nfts := t }, f)
  | .tokenAirdrop r => let (t, f) := l.tokenAirdrops.apply r; ({ l with tokenAirdrops := t }, f)
  | .customFee r => let (t, f) := l.customFees.apply r; ({ l with customFees := t }, f)
  | .cryptoAllowance r =>
    let (t, f) := l.cryptoAllowances.apply r; ({ l with cryptoAllowances := t }, f)
  | .tokenAllowance r =>
    let (t, f) := l.tokenAllowances.apply r; ({ l with tokenAllowances := t }, f)
  | .nftAllowance r => let (t, f) := l.nftAllowances.apply r; ({ l with nftAllowances := t }, f)
  | .hook r => let (t, f) := l.hooks.apply r; ({ l with hooks := t }, f)
  | .contract c => (l.applyContract c, none)
  | .hookStorageChange ch => (l.applyStorage ch, none)
  | _ => (l, none)

/-- Applies a mutation: stores it and, when accepted, logs it. -/
def apply (l : Ledger) (m : Mutation) : Ledger × Option LedgerFault :=
  match l.store m with
  | (l', none) => ({ l' with accepted := m :: l'.accepted }, none)
  | (l', some f) => (l', some f)

/-- The first fault of any table, tables in a fixed order. -/
def validate (l : Ledger) : Option LedgerFault :=
  l.entities.validate |>.or l.topics.validate |>.or l.nodes.validate |>.or l.tokens.validate
    |>.or l.tokenAccounts.validate |>.or l.nfts.validate |>.or l.tokenAirdrops.validate
    |>.or l.customFees.validate |>.or l.cryptoAllowances.validate |>.or l.tokenAllowances.validate
    |>.or l.nftAllowances.validate |>.or l.hooks.validate

end Ledger

end LedgerProjection
