import LedgerProjection.Table.Entity
import LedgerProjection.Table.Token
import LedgerProjection.Table.Contract
import LedgerProjection.Table.Hook

/-!
# Mutations

A mutation is one row handed from the projection to the ledger, tagged with its kind. Its
JSON form is `{"kind": <kind name>, "record": <row>}`.
-/

namespace LedgerProjection

/-- One row emitted by the projection. -/
inductive Mutation where
  | contract (row : Contract)
  | contractLog (row : ContractLog)
  | contractResult (row : ContractResult)
  | contractStateChange (row : ContractStateChange)
  | cryptoAllowance (row : CryptoAllowance)
  | customFee (row : CustomFee)
  | entity (row : Entity)
  | ethereumTransaction (row : EthereumTransaction)
  | fileData (row : FileData)
  | hook (row : Hook)
  | hookStorageChange (row : HookStorageChange)
  | liveHash (row : LiveHash)
  | nft (row : Nft)
  | nftAllowance (row : NftAllowance)
  | node (row : Node)
  | nodeStake (row : NodeStake)
  | prng (row : Prng)
  | schedule (row : Schedule)
  | token (row : Token)
  | tokenAccount (row : TokenAccount)
  | tokenAirdrop (row : TokenAirdrop)
  | tokenAllowance (row : TokenAllowance)
  | topic (row : Topic)
  | topicMessage (row : TopicMessage)
  | transaction (row : Transaction)
  | transactionSignature (row : TransactionSignature)
deriving DecidableEq, Repr

namespace Mutation

/-- The kind name, lower case with underscores. -/
def kind : Mutation → String
  | .contract _ => "contract"
  | .contractLog _ => "contract_log"
  | .contractResult _ => "contract_result"
  | .contractStateChange _ => "contract_state_change"
  | .cryptoAllowance _ => "crypto_allowance"
  | .customFee _ => "custom_fee"
  | .entity _ => "entity"
  | .ethereumTransaction _ => "ethereum_transaction"
  | .fileData _ => "file_data"
  | .hook _ => "hook"
  | .hookStorageChange _ => "hook_storage_change"
  | .liveHash _ => "live_hash"
  | .nft _ => "nft"
  | .nftAllowance _ => "nft_allowance"
  | .node _ => "node"
  | .nodeStake _ => "node_stake"
  | .prng _ => "prng"
  | .schedule _ => "schedule"
  | .token _ => "token"
  | .tokenAccount _ => "token_account"
  | .tokenAirdrop _ => "token_airdrop"
  | .tokenAllowance _ => "token_allowance"
  | .topic _ => "topic"
  | .topicMessage _ => "topic_message"
  | .transaction _ => "transaction"
  | .transactionSignature _ => "transaction_signature"

/-- The row alone, as JSON. -/
def recordJson : Mutation → Json
  | .contract r => r.toJson
  | .contractLog r => r.toJson
  | .contractResult r => r.toJson
  | .contractStateChange r => r.toJson
  | .cryptoAllowance r => r.toJson
  | .customFee r => r.toJson
  | .entity r => r.toJson
  | .ethereumTransaction r => r.toJson
  | .fileData r => r.toJson
  | .hook r => r.toJson
  | .hookStorageChange r => r.toJson
  | .liveHash r => r.toJson
  | .nft r => r.toJson
  | .nftAllowance r => r.toJson
  | .node r => r.toJson
  | .nodeStake r => r.toJson
  | .prng r => r.toJson
  | .schedule r => r.toJson
  | .token r => r.toJson
  | .tokenAccount r => r.toJson
  | .tokenAirdrop r => r.toJson
  | .tokenAllowance r => r.toJson
  | .topic r => r.toJson
  | .topicMessage r => r.toJson
  | .transaction r => r.toJson
  | .transactionSignature r => r.toJson

/-- The tagged JSON form. -/
def toJson (m : Mutation) : Json :=
  .obj [("kind", .str m.kind), ("record", m.recordJson)]

/-- The reader of the row of a kind, if the kind exists. -/
def decoderOf? (kind : String) : Option (Decoder Mutation) :=
  match kind with
  | "contract" => some fun o j => (Mutation.contract <$> Contract.decoder o j)
  | "contract_log" => some fun o j => (Mutation.contractLog <$> ContractLog.decoder o j)
  | "contract_result" => some fun o j => (Mutation.contractResult <$> ContractResult.decoder o j)
  | "contract_state_change" => some fun o j =>
    (Mutation.contractStateChange <$> ContractStateChange.decoder o j)
  | "crypto_allowance" => some fun o j => (Mutation.cryptoAllowance <$> CryptoAllowance.decoder o j)
  | "custom_fee" => some fun o j => (Mutation.customFee <$> CustomFee.decoder o j)
  | "entity" => some fun o j => (Mutation.entity <$> Entity.decoder o j)
  | "ethereum_transaction" => some fun o j =>
    (Mutation.ethereumTransaction <$> EthereumTransaction.decoder o j)
  | "file_data" => some fun o j => (Mutation.fileData <$> FileData.decoder o j)
  | "hook" => some fun o j => (Mutation.hook <$> Hook.decoder o j)
  | "hook_storage_change" => some fun o j =>
    (Mutation.hookStorageChange <$> HookStorageChange.decoder o j)
  | "live_hash" => some fun o j => (Mutation.liveHash <$> LiveHash.decoder o j)
  | "nft" => some fun o j => (Mutation.nft <$> Nft.decoder o j)
  | "nft_allowance" => some fun o j => (Mutation.nftAllowance <$> NftAllowance.decoder o j)
  | "node" => some fun o j => (Mutation.node <$> Node.decoder o j)
  | "node_stake" => some fun o j => (Mutation.nodeStake <$> NodeStake.decoder o j)
  | "prng" => some fun o j => (Mutation.prng <$> Prng.decoder o j)
  | "schedule" => some fun o j => (Mutation.schedule <$> Schedule.decoder o j)
  | "token" => some fun o j => (Mutation.token <$> Token.decoder o j)
  | "token_account" => some fun o j => (Mutation.tokenAccount <$> TokenAccount.decoder o j)
  | "token_airdrop" => some fun o j => (Mutation.tokenAirdrop <$> TokenAirdrop.decoder o j)
  | "token_allowance" => some fun o j => (Mutation.tokenAllowance <$> TokenAllowance.decoder o j)
  | "topic" => some fun o j => (Mutation.topic <$> Topic.decoder o j)
  | "topic_message" => some fun o j => (Mutation.topicMessage <$> TopicMessage.decoder o j)
  | "transaction" => some fun o j => (Mutation.transaction <$> Transaction.decoder o j)
  | "transaction_signature" => some fun o j =>
    (Mutation.transactionSignature <$> TransactionSignature.decoder o j)
  | _ => none

end Mutation

end LedgerProjection
