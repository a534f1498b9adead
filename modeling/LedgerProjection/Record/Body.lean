import LedgerProjection.Record.Bodies
import LedgerProjection.Record.Kind

/-!
# Transaction bodies by kind

A body is tagged with its kind under the key `"type"`, in upper case with underscores.
-/

namespace LedgerProjection

/-- The body of a transaction, by kind; `unknown` for a kind this library does not read. -/
inductive TransactionBody where
  | consensusCreateTopic (body : ConsensusCreateTopicBody)
  | consensusUpdateTopic (body : ConsensusUpdateTopicBody)
  | consensusDeleteTopic (body : TopicRefBody)
  | consensusSubmitMessage (body : ConsensusSubmitMessageBody)
  | contractCall (body : ContractCallBody)
  | contractCreate (body : ContractCreateBody)
  | contractUpdate (body : ContractUpdateBody)
  | contractDelete (body : ContractDeleteBody)
  | cryptoAddLiveHash (body : LiveHashBody)
  | cryptoDeleteLiveHash (body : LiveHashBody)
  | cryptoApproveAllowance (body : CryptoApproveAllowanceBody)
  | cryptoDeleteAllowance (body : CryptoDeleteAllowanceBody)
  | cryptoCreate (body : CryptoCreateBody)
  | cryptoUpdate (body : CryptoUpdateBody)
  | cryptoDelete (body : CryptoDeleteBody)
  | cryptoTransfer (body : CryptoTransferBody)
  | ethereumTransaction (body : EthereumTransactionBody)
  | fileCreate (body : FileCreateBody)
  | fileUpdate (body : FileUpdateBody)
  | fileAppend (body : FileAppendBody)
  | fileDelete (body : FileRefBody)
  | freeze (body : FreezeBody)
  | nodeCreate (body : NodeCreateBody)
  | nodeUpdate (body : NodeUpdateBody)
  | nodeDelete (body : NodeDeleteBody)
  | nodeStakeUpdate (body : NodeStakeUpdateBody)
  | scheduleCreate (body : ScheduleCreateBody)
  | scheduleSign (body : ScheduleRefBody)
  | scheduleDelete (body : ScheduleRefBody)
  | systemDelete (body : SystemDeleteBody)
  | systemUndelete (body : SystemUndeleteBody)
  | tokenAirdrop (body : TokenAirdropBody)
  | tokenCancelAirdrop (body : PendingAirdropsBody)
  | tokenClaimAirdrop (body : PendingAirdropsBody)
  | tokenAssociate (body : TokenAssociationBody)
  | tokenDissociate (body : TokenAssociationBody)
  | tokenCreate (body : TokenCreateBody)
  | tokenUpdate (body : TokenUpdateBody)
  | tokenDelete (body : TokenRefBody)
  | tokenFeeScheduleUpdate (body : TokenFeeScheduleUpdateBody)
  | tokenFreeze (body : TokenAccountBody)
  | tokenUnfreeze (body : TokenAccountBody)
  | tokenGrantKyc (body : TokenAccountBody)
  | tokenRevokeKyc (body : TokenAccountBody)
  | tokenPause (body : TokenRefBody)
  | tokenUnpause (body : TokenRefBody)
  | tokenMint (body : TokenMintBody)
  | tokenBurn (body : TokenBurnBody)
  | tokenWipe (body : TokenWipeBody)
  | tokenReject (body : TokenRejectBody)
  | tokenUpdateNfts (body : TokenUpdateNftsBody)
  | hookStore (body : HookStoreBody)
  | utilPrng (body : UtilPrngBody)
  | uncheckedSubmit (body : OpaqueBody)
  | atomicBatch (body : AtomicBatchBody)
  | unknown
deriving DecidableEq, Repr, Inhabited

namespace TransactionBody

/-- The kind of transaction a body belongs to. -/
def kind : TransactionBody → TransactionType
  | .consensusCreateTopic _ => .consensusCreateTopic
  | .consensusUpdateTopic _ => .consensusUpdateTopic
  | .consensusDeleteTopic _ => .consensusDeleteTopic
  | .consensusSubmitMessage _ => .consensusSubmitMessage
  | .contractCall _ => .contractCall
  | .contractCreate _ => .contractCreate
  | .contractUpdate _ => .contractUpdate
  | .contractDelete _ => .contractDelete
  | .cryptoAddLiveHash _ => .cryptoAddLiveHash
  | .cryptoDeleteLiveHash _ => .cryptoDeleteLiveHash
  | .cryptoApproveAllowance _ => .cryptoApproveAllowance
  | .cryptoDeleteAllowance _ => .cryptoDeleteAllowance
  | .cryptoCreate _ => .cryptoCreate
  | .cryptoUpdate _ => .cryptoUpdate
  | .cryptoDelete _ => .cryptoDelete
  | .cryptoTransfer _ => .cryptoTransfer
  | .ethereumTransaction _ => .ethereumTransaction
  | .fileCreate _ => .fileCreate
  | .fileUpdate _ => .fileUpdate
  | .fileAppend _ => .fileAppend
  | .fileDelete _ => .fileDelete
  | .freeze _ => .freeze
  | .nodeCreate _ => .nodeCreate
  | .nodeUpdate _ => .nodeUpdate
  | .nodeDelete _ => .nodeDelete
  | .nodeStakeUpdate _ => .nodeStakeUpdate
  | .scheduleCreate _ => .scheduleCreate
  | .scheduleSign _ => .scheduleSign
  | .scheduleDelete _ => .scheduleDelete
  | .systemDelete _ => .systemDelete
  | .systemUndelete _ => .systemUndelete
  | .tokenAirdrop _ => .tokenAirdrop
  | .tokenCancelAirdrop _ => .tokenCancelAirdrop
  | .tokenClaimAirdrop _ => .tokenClaimAirdrop
  | .tokenAssociate _ => .tokenAssociate
  | .tokenDissociate _ => .tokenDissociate
  | .tokenCreate _ => .tokenCreate
  | .tokenUpdate _ => .tokenUpdate
  | .tokenDelete _ => .tokenDelete
  | .tokenFeeScheduleUpdate _ => .tokenFeeScheduleUpdate
  | .tokenFreeze _ => .tokenFreeze
  | .tokenUnfreeze _ => .tokenUnfreeze
  | .tokenGrantKyc _ => .tokenGrantKyc
  | .tokenRevokeKyc _ => .tokenRevokeKyc
  | .tokenPause _ => .tokenPause
  | .tokenUnpause _ => .tokenUnpause
  | .tokenMint _ => .tokenMint
  | .tokenBurn _ => .tokenBurn
  | .tokenWipe _ => .tokenWipe
  | .tokenReject _ => .tokenReject
  | .tokenUpdateNfts _ => .tokenUpdateNfts
  | .hookStore _ => .hookStore
  | .utilPrng _ => .utilPrng
  | .uncheckedSubmit _ => .uncheckedSubmit
  | .atomicBatch _ => .atomicBatch
  | .unknown => .unknown

/-- The variant names in declaration order (a numeric tag counts in this order). -/
def variantNames : List String :=
  ["CONSENSUS_CREATE_TOPIC", "CONSENSUS_UPDATE_TOPIC", "CONSENSUS_DELETE_TOPIC",
   "CONSENSUS_SUBMIT_MESSAGE", "CONTRACT_CALL", "CONTRACT_CREATE", "CONTRACT_UPDATE",
   "CONTRACT_DELETE", "CRYPTO_ADD_LIVE_HASH", "CRYPTO_DELETE_LIVE_HASH",
   "CRYPTO_APPROVE_ALLOWANCE", "CRYPTO_DELETE_ALLOWANCE", "CRYPTO_CREATE", "CRYPTO_UPDATE",
   "CRYPTO_DELETE", "CRYPTO_TRANSFER", "ETHEREUM_TRANSACTION", "FILE_CREATE", "FILE_UPDATE",
   "FILE_APPEND", "FILE_DELETE", "FREEZE", "NODE_CREATE", "NODE_UPDATE", "NODE_DELETE",
   "NODE_STAKE_UPDATE", "SCHEDULE_CREATE", "SCHEDULE_SIGN", "SCHEDULE_DELETE", "SYSTEM_DELETE",
   "SYSTEM_UNDELETE", "TOKEN_AIRDROP", "TOKEN_CANCEL_AIRDROP", "TOKEN_CLAIM_AIRDROP",
   "TOKEN_ASSOCIATE", "TOKEN_DISSOCIATE", "TOKEN_CREATE", "TOKEN_UPDATE", "TOKEN_DELETE",
   "TOKEN_FEE_SCHEDULE_UPDATE", "TOKEN_FREEZE", "TOKEN_UNFREEZE", "TOKEN_GRANT_KYC",
   "TOKEN_REVOKE_KYC", "TOKEN_PAUSE", "TOKEN_UNPAUSE", "TOKEN_MINT", "TOKEN_BURN", "TOKEN_WIPE",
   "TOKEN_REJECT", "TOKEN_UPDATE_NFTS", "HOOK_STORE", "UTIL_PRNG", "UNCHECKED_SUBMIT",
   "ATOMIC_BATCH", "UNKNOWN"]

/-- The reader of each named variant. -/
def variant? (name : String) : Option (Decoder TransactionBody) :=
  match name with
  | "CONSENSUS_CREATE_TOPIC" => some fun o j =>
    TransactionBody.consensusCreateTopic <$> ConsensusCreateTopicBody.decoder o j
  | "CONSENSUS_UPDATE_TOPIC" => some fun o j =>
    TransactionBody.consensusUpdateTopic <$> ConsensusUpdateTopicBody.decoder o j
  | "CONSENSUS_DELETE_TOPIC" => some fun o j =>
    TransactionBody.consensusDeleteTopic <$> TopicRefBody.decoder o j
  | "CONSENSUS_SUBMIT_MESSAGE" => some fun o j =>
    TransactionBody.consensusSubmitMessage <$> ConsensusSubmitMessageBody.decoder o j
  | "CONTRACT_CALL" => some fun o j => TransactionBody.contractCall <$> ContractCallBody.decoder o j
  | "CONTRACT_CREATE" => some fun o j =>
    TransactionBody.contractCreate <$> ContractCreateBody.decoder o j
  | "CONTRACT_UPDATE" => some fun o j =>
    TransactionBody.contractUpdate <$> ContractUpdateBody.decoder o j
  | "CONTRACT_DELETE" => some fun o j =>
    TransactionBody.contractDelete <$> ContractDeleteBody.decoder o j
  | "CRYPTO_ADD_LIVE_HASH" => some fun o j =>
    TransactionBody.cryptoAddLiveHash <$> LiveHashBody.decoder o j
  | "CRYPTO_DELETE_LIVE_HASH" => some fun o j =>
    TransactionBody.cryptoDeleteLiveHash <$> LiveHashBody.decoder o j
  | "CRYPTO_APPROVE_ALLOWANCE" => some fun o j =>
    TransactionBody.cryptoApproveAllowance <$> CryptoApproveAllowanceBody.decoder o j
  | "CRYPTO_DELETE_ALLOWANCE" => some fun o j =>
    TransactionBody.cryptoDeleteAllowance <$> CryptoDeleteAllowanceBody.decoder o j
  | "CRYPTO_CREATE" => some fun o j => TransactionBody.cryptoCreate <$> CryptoCreateBody.decoder o j
  | "CRYPTO_UPDATE" => some fun o j => TransactionBody.cryptoUpdate <$> CryptoUpdateBody.decoder o j
  | "CRYPTO_DELETE" => some fun o j => TransactionBody.cryptoDelete <$> CryptoDeleteBody.decoder o j
  | "CRYPTO_TRANSFER" => some fun o j =>
    TransactionBody.cryptoTransfer <$> CryptoTransferBody.decoder o j
  | "ETHEREUM_TRANSACTION" => some fun o j =>
    TransactionBody.ethereumTransaction <$> EthereumTransactionBody.decoder o j
  | "FILE_CREATE" => some fun o j => TransactionBody.fileCreate <$> FileCreateBody.decoder o j
  | "FILE_UPDATE" => some fun o j => TransactionBody.fileUpdate <$> FileUpdateBody.decoder o j
  | "FILE_APPEND" => some fun o j => TransactionBody.fileAppend <$> FileAppendBody.decoder o j
  | "FILE_DELETE" => some fun o j => TransactionBody.fileDelete <$> FileRefBody.decoder o j
  | "FREEZE" => some fun o j => TransactionBody.freeze <$> FreezeBody.decoder o j
  | "NODE_CREATE" => some fun o j => TransactionBody.nodeCreate <$> NodeCreateBody.decoder o j
  | "NODE_UPDATE" => some fun o j => TransactionBody.nodeUpdate <$> NodeUpdateBody.decoder o j
  | "NODE_DELETE" => some fun o j => TransactionBody.nodeDelete <$> NodeDeleteBody.decoder o j
  | "NODE_STAKE_UPDATE" => some fun o j =>
    TransactionBody.nodeStakeUpdate <$> NodeStakeUpdateBody.decoder o j
  | "SCHEDULE_CREATE" => some fun o j =>
    TransactionBody.scheduleCreate <$> ScheduleCreateBody.decoder o j
  | "SCHEDULE_SIGN" => some fun o j => TransactionBody.scheduleSign <$> ScheduleRefBody.decoder o j
  | "SCHEDULE_DELETE" => some fun o j =>
    TransactionBody.scheduleDelete <$> ScheduleRefBody.decoder o j
  | "SYSTEM_DELETE" => some fun o j => TransactionBody.systemDelete <$> SystemDeleteBody.decoder o j
  | "SYSTEM_UNDELETE" => some fun o j =>
    TransactionBody.systemUndelete <$> SystemUndeleteBody.decoder o j
  | "TOKEN_AIRDROP" => some fun o j => TransactionBody.tokenAirdrop <$> TokenAirdropBody.decoder o j
  | "TOKEN_CANCEL_AIRDROP" => some fun o j =>
    TransactionBody.tokenCancelAirdrop <$> PendingAirdropsBody.decoder o j
  | "TOKEN_CLAIM_AIRDROP" => some fun o j =>
    TransactionBody.tokenClaimAirdrop <$> PendingAirdropsBody.decoder o j
  | "TOKEN_ASSOCIATE" => some fun o j =>
    TransactionBody.tokenAssociate <$> TokenAssociationBody.decoder o j
  | "TOKEN_DISSOCIATE" => some fun o j =>
    TransactionBody.tokenDissociate <$> TokenAssociationBody.decoder o j
  | "TOKEN_CREATE" => some fun o j => TransactionBody.tokenCreate <$> TokenCreateBody.decoder o j
  | "TOKEN_UPDATE" => some fun o j => TransactionBody.tokenUpdate <$> TokenUpdateBody.decoder o j
  | "TOKEN_DELETE" => some fun o j => TransactionBody.tokenDelete <$> TokenRefBody.decoder o j
  | "TOKEN_FEE_SCHEDULE_UPDATE" => some fun o j =>
    TransactionBody.tokenFeeScheduleUpdate <$> TokenFeeScheduleUpdateBody.decoder o j
  | "TOKEN_FREEZE" => some fun o j => TransactionBody.tokenFreeze <$> TokenAccountBody.decoder o j
  | "TOKEN_UNFREEZE" => some fun o j =>
    TransactionBody.tokenUnfreeze <$> TokenAccountBody.decoder o j
  | "TOKEN_GRANT_KYC" => some fun o j =>
    TransactionBody.tokenGrantKyc <$> TokenAccountBody.decoder o j
  | "TOKEN_REVOKE_KYC" => some fun o j =>
    TransactionBody.tokenRevokeKyc <$> TokenAccountBody.decoder o j
  | "TOKEN_PAUSE" => some fun o j => TransactionBody.tokenPause <$> TokenRefBody.decoder o j
  | "TOKEN_UNPAUSE" => some fun o j => TransactionBody.tokenUnpause <$> TokenRefBody.decoder o j
  | "TOKEN_MINT" => some fun o j => TransactionBody.tokenMint <$> TokenMintBody.decoder o j
  | "TOKEN_BURN" => some fun o j => TransactionBody.tokenBurn <$> TokenBurnBody.decoder o j
  | "TOKEN_WIPE" => some fun o j => TransactionBody.tokenWipe <$> TokenWipeBody.decoder o j
  | "TOKEN_REJECT" => some fun o j => TransactionBody.tokenReject <$> TokenRejectBody.decoder o j
  | "TOKEN_UPDATE_NFTS" => some fun o j =>
    TransactionBody.tokenUpdateNfts <$> TokenUpdateNftsBody.decoder o j
  | "HOOK_STORE" => some fun o j => TransactionBody.hookStore <$> HookStoreBody.decoder o j
  | "UTIL_PRNG" => some fun o j => TransactionBody.utilPrng <$> UtilPrngBody.decoder o j
  | "UNCHECKED_SUBMIT" => some fun o j => TransactionBody.uncheckedSubmit <$> OpaqueBody.decoder o j
  | "ATOMIC_BATCH" => some fun o j => TransactionBody.atomicBatch <$> AtomicBatchBody.decoder o j
  | _ => none

/-- Read with the kind under `"type"`; an unknown kind name reads as `unknown`. -/
def decoder : Decoder TransactionBody :=
  Decoder.tagged "TransactionBody" "type" variantNames variant?
    (some (Decoder.bareVariant .unknown))

end TransactionBody

end LedgerProjection
