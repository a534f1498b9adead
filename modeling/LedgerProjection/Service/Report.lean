import LedgerProjection.Ledger.Basic

/-!
# The ledger as an answer

Every history table is reported as a list, in key order, of each key's versions, oldest first.
Contracts are reported in id order. Hook storage is reported for every slot any accepted write
touched, in (owner, hook, slot) order, with its current value, or `null` once cleared.
-/

namespace LedgerProjection

namespace Ledger

/-- A history table: each key's versions, keys in order. -/
def tableJson {α : Type} (toJson : α → Json) (t : HistoryTable α) : Json :=
  .arr (t.rows.entries.map fun e => Json.list toJson e.2)

/-- Every slot an accepted hook storage write touched, each once, in order. -/
def writtenSlots (l : Ledger) : List SlotKey :=
  let keys := l.log.filterMap fun m =>
    match m with
    | .hookStorageChange ch => some (⟨ch.ownerId, ch.hookId, ch.key⟩ : SlotKey)
    | _ => none
  let slots : SortedMap SlotKey Unit := keys.foldl (fun acc k => acc.insert SlotKey.compare k ()) {}
  slots.entries.map Prod.fst

/-- A written slot and its current value. -/
def slotJson (l : Ledger) (k : SlotKey) : Json :=
  .obj [("owner_id", k.owner.toJson), ("hook_id", .int k.hookId), ("key", Json.byteArray k.key),
        ("value", Json.opt Json.byteArray (l.hookStorage.get? SlotKey.compare k))]

/-- The result of validating the ledger. -/
def validationJson (l : Ledger) : Json :=
  match l.validate with
  | none => .str "ok"
  | some f => .obj [("error", .str "OutOfOrder"), ("message", .str f.message)]

/-- The whole ledger. -/
def report (l : Ledger) : Json :=
  .obj [("entities", tableJson Entity.toJson l.entities),
        ("topics", tableJson Topic.toJson l.topics),
        ("nodes", tableJson Node.toJson l.nodes),
        ("tokens", tableJson Token.toJson l.tokens),
        ("token_accounts", tableJson TokenAccount.toJson l.tokenAccounts),
        ("nfts", tableJson Nft.toJson l.nfts),
        ("token_airdrops", tableJson TokenAirdrop.toJson l.tokenAirdrops),
        ("custom_fees", tableJson CustomFee.toJson l.customFees),
        ("crypto_allowances", tableJson CryptoAllowance.toJson l.cryptoAllowances),
        ("token_allowances", tableJson TokenAllowance.toJson l.tokenAllowances),
        ("nft_allowances", tableJson NftAllowance.toJson l.nftAllowances),
        ("hooks", tableJson Hook.toJson l.hooks),
        ("contracts", Json.list Contract.toJson (l.contracts.entries.map Prod.snd)),
        ("hook_storage", Json.list (slotJson l) l.writtenSlots),
        ("hook_storage_len", .int l.hookStorage.size),
        ("mutation_count", .int l.mutationCount),
        ("validate", validationJson l)]

end Ledger

end LedgerProjection
