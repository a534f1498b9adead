import LedgerProjection.Json.Decode

/-!
# Transaction kinds and response codes

Every transaction record is of one kind (`TransactionType`), with a stable numeric code, a
name, and an upper-case wire name; kinds not declared here are `unknown` (code -1). The
declaration order of the kinds is the order of their codes.

A record's outcome is a numeric response code; three codes count as success.
-/

namespace LedgerProjection

/-- The kind of a transaction. -/
inductive TransactionType where
  | contractCall
  | contractCreate
  | contractUpdate
  | cryptoAddLiveHash
  | cryptoCreate
  | cryptoDelete
  | cryptoDeleteLiveHash
  | cryptoTransfer
  | cryptoUpdate
  | fileAppend
  | fileCreate
  | fileDelete
  | fileUpdate
  | systemDelete
  | systemUndelete
  | contractDelete
  | freeze
  | consensusCreateTopic
  | consensusUpdateTopic
  | consensusDeleteTopic
  | consensusSubmitMessage
  | uncheckedSubmit
  | tokenCreate
  | tokenFreeze
  | tokenUnfreeze
  | tokenGrantKyc
  | tokenRevokeKyc
  | tokenDelete
  | tokenUpdate
  | tokenMint
  | tokenBurn
  | tokenWipe
  | tokenAssociate
  | tokenDissociate
  | scheduleCreate
  | scheduleDelete
  | scheduleSign
  | tokenFeeScheduleUpdate
  | tokenPause
  | tokenUnpause
  | cryptoApproveAllowance
  | cryptoDeleteAllowance
  | ethereumTransaction
  | nodeStakeUpdate
  | utilPrng
  | tokenUpdateNfts
  | nodeCreate
  | nodeUpdate
  | nodeDelete
  | tokenReject
  | tokenAirdrop
  | tokenCancelAirdrop
  | tokenClaimAirdrop
  | atomicBatch
  | hookStore
  | unknown
deriving DecidableEq, Repr, Inhabited

namespace TransactionType

/-- The numeric code of a kind. -/
def code : TransactionType → Int
  | .contractCall => 7
  | .contractCreate => 8
  | .contractUpdate => 9
  | .cryptoAddLiveHash => 10
  | .cryptoCreate => 11
  | .cryptoDelete => 12
  | .cryptoDeleteLiveHash => 13
  | .cryptoTransfer => 14
  | .cryptoUpdate => 15
  | .fileAppend => 16
  | .fileCreate => 17
  | .fileDelete => 18
  | .fileUpdate => 19
  | .systemDelete => 20
  | .systemUndelete => 21
  | .contractDelete => 22
  | .freeze => 23
  | .consensusCreateTopic => 24
  | .consensusUpdateTopic => 25
  | .consensusDeleteTopic => 26
  | .consensusSubmitMessage => 27
  | .uncheckedSubmit => 28
  | .tokenCreate => 29
  | .tokenFreeze => 31
  | .tokenUnfreeze => 32
  | .tokenGrantKyc => 33
  | .tokenRevokeKyc => 34
  | .tokenDelete => 35
  | .tokenUpdate => 36
  | .tokenMint => 37
  | .tokenBurn => 38
  | .tokenWipe => 39
  | .tokenAssociate => 40
  | .tokenDissociate => 41
  | .scheduleCreate => 42
  | .scheduleDelete => 43
  | .scheduleSign => 44
  | .tokenFeeScheduleUpdate => 45
  | .tokenPause => 46
  | .tokenUnpause => 47
  | .cryptoApproveAllowance => 48
  | .cryptoDeleteAllowance => 49
  | .ethereumTransaction => 50
  | .nodeStakeUpdate => 51
  | .utilPrng => 52
  | .tokenUpdateNfts => 53
  | .nodeCreate => 54
  | .nodeUpdate => 55
  | .nodeDelete => 56
  | .tokenReject => 57
  | .tokenAirdrop => 58
  | .tokenCancelAirdrop => 59
  | .tokenClaimAirdrop => 60
  | .atomicBatch => 74
  | .hookStore => 75
  | .unknown => -1

/-- The name of a kind, in upper camel case. -/
def name : TransactionType → String
  | .contractCall => "ContractCall"
  | .contractCreate => "ContractCreate"
  | .contractUpdate => "ContractUpdate"
  | .cryptoAddLiveHash => "CryptoAddLiveHash"
  | .cryptoCreate => "CryptoCreate"
  | .cryptoDelete => "CryptoDelete"
  | .cryptoDeleteLiveHash => "CryptoDeleteLiveHash"
  | .cryptoTransfer => "CryptoTransfer"
  | .cryptoUpdate => "CryptoUpdate"
  | .fileAppend => "FileAppend"
  | .fileCreate => "FileCreate"
  | .fileDelete => "FileDelete"
  | .fileUpdate => "FileUpdate"
  | .systemDelete => "SystemDelete"
  | .systemUndelete => "SystemUndelete"
  | .contractDelete => "ContractDelete"
  | .freeze => "Freeze"
  | .consensusCreateTopic => "ConsensusCreateTopic"
  | .consensusUpdateTopic => "ConsensusUpdateTopic"
  | .consensusDeleteTopic => "ConsensusDeleteTopic"
  | .consensusSubmitMessage => "ConsensusSubmitMessage"
  | .uncheckedSubmit => "UncheckedSubmit"
  | .tokenCreate => "TokenCreate"
  | .tokenFreeze => "TokenFreeze"
  | .tokenUnfreeze => "TokenUnfreeze"
  | .tokenGrantKyc => "TokenGrantKyc"
  | .tokenRevokeKyc => "TokenRevokeKyc"
  | .tokenDelete => "TokenDelete"
  | .tokenUpdate => "TokenUpdate"
  | .tokenMint => "TokenMint"
  | .tokenBurn => "TokenBurn"
  | .tokenWipe => "TokenWipe"
  | .tokenAssociate => "TokenAssociate"
  | .tokenDissociate => "TokenDissociate"
  | .scheduleCreate => "ScheduleCreate"
  | .scheduleDelete => "ScheduleDelete"
  | .scheduleSign => "ScheduleSign"
  | .tokenFeeScheduleUpdate => "TokenFeeScheduleUpdate"
  | .tokenPause => "TokenPause"
  | .tokenUnpause => "TokenUnpause"
  | .cryptoApproveAllowance => "CryptoApproveAllowance"
  | .cryptoDeleteAllowance => "CryptoDeleteAllowance"
  | .ethereumTransaction => "EthereumTransaction"
  | .nodeStakeUpdate => "NodeStakeUpdate"
  | .utilPrng => "UtilPrng"
  | .tokenUpdateNfts => "TokenUpdateNfts"
  | .nodeCreate => "NodeCreate"
  | .nodeUpdate => "NodeUpdate"
  | .nodeDelete => "NodeDelete"
  | .tokenReject => "TokenReject"
  | .tokenAirdrop => "TokenAirdrop"
  | .tokenCancelAirdrop => "TokenCancelAirdrop"
  | .tokenClaimAirdrop => "TokenClaimAirdrop"
  | .atomicBatch => "AtomicBatch"
  | .hookStore => "HookStore"
  | .unknown => "Unknown"

/-- The wire name of a kind, upper case with underscores. -/
def wireName : TransactionType → String
  | .contractCall => "CONTRACT_CALL"
  | .contractCreate => "CONTRACT_CREATE"
  | .contractUpdate => "CONTRACT_UPDATE"
  | .cryptoAddLiveHash => "CRYPTO_ADD_LIVE_HASH"
  | .cryptoCreate => "CRYPTO_CREATE"
  | .cryptoDelete => "CRYPTO_DELETE"
  | .cryptoDeleteLiveHash => "CRYPTO_DELETE_LIVE_HASH"
  | .cryptoTransfer => "CRYPTO_TRANSFER"
  | .cryptoUpdate => "CRYPTO_UPDATE"
  | .fileAppend => "FILE_APPEND"
  | .fileCreate => "FILE_CREATE"
  | .fileDelete => "FILE_DELETE"
  | .fileUpdate => "FILE_UPDATE"
  | .systemDelete => "SYSTEM_DELETE"
  | .systemUndelete => "SYSTEM_UNDELETE"
  | .contractDelete => "CONTRACT_DELETE"
  | .freeze => "FREEZE"
  | .consensusCreateTopic => "CONSENSUS_CREATE_TOPIC"
  | .consensusUpdateTopic => "CONSENSUS_UPDATE_TOPIC"
  | .consensusDeleteTopic => "CONSENSUS_DELETE_TOPIC"
  | .consensusSubmitMessage => "CONSENSUS_SUBMIT_MESSAGE"
  | .uncheckedSubmit => "UNCHECKED_SUBMIT"
  | .tokenCreate => "TOKEN_CREATE"
  | .tokenFreeze => "TOKEN_FREEZE"
  | .tokenUnfreeze => "TOKEN_UNFREEZE"
  | .tokenGrantKyc => "TOKEN_GRANT_KYC"
  | .tokenRevokeKyc => "TOKEN_REVOKE_KYC"
  | .tokenDelete => "TOKEN_DELETE"
  | .tokenUpdate => "TOKEN_UPDATE"
  | .tokenMint => "TOKEN_MINT"
  | .tokenBurn => "TOKEN_BURN"
  | .tokenWipe => "TOKEN_WIPE"
  | .tokenAssociate => "TOKEN_ASSOCIATE"
  | .tokenDissociate => "TOKEN_DISSOCIATE"
  | .scheduleCreate => "SCHEDULE_CREATE"
  | .scheduleDelete => "SCHEDULE_DELETE"
  | .scheduleSign => "SCHEDULE_SIGN"
  | .tokenFeeScheduleUpdate => "TOKEN_FEE_SCHEDULE_UPDATE"
  | .tokenPause => "TOKEN_PAUSE"
  | .tokenUnpause => "TOKEN_UNPAUSE"
  | .cryptoApproveAllowance => "CRYPTO_APPROVE_ALLOWANCE"
  | .cryptoDeleteAllowance => "CRYPTO_DELETE_ALLOWANCE"
  | .ethereumTransaction => "ETHEREUM_TRANSACTION"
  | .nodeStakeUpdate => "NODE_STAKE_UPDATE"
  | .utilPrng => "UTIL_PRNG"
  | .tokenUpdateNfts => "TOKEN_UPDATE_NFTS"
  | .nodeCreate => "NODE_CREATE"
  | .nodeUpdate => "NODE_UPDATE"
  | .nodeDelete => "NODE_DELETE"
  | .tokenReject => "TOKEN_REJECT"
  | .tokenAirdrop => "TOKEN_AIRDROP"
  | .tokenCancelAirdrop => "TOKEN_CANCEL_AIRDROP"
  | .tokenClaimAirdrop => "TOKEN_CLAIM_AIRDROP"
  | .atomicBatch => "ATOMIC_BATCH"
  | .hookStore => "HOOK_STORE"
  | .unknown => "UNKNOWN"

/-- Every declared kind, in code order (`unknown` excluded). -/
def all : List TransactionType :=
  [.contractCall, .contractCreate, .contractUpdate, .cryptoAddLiveHash, .cryptoCreate,
   .cryptoDelete, .cryptoDeleteLiveHash, .cryptoTransfer, .cryptoUpdate, .fileAppend,
   .fileCreate, .fileDelete, .fileUpdate, .systemDelete, .systemUndelete, .contractDelete,
   .freeze, .consensusCreateTopic, .consensusUpdateTopic, .consensusDeleteTopic,
   .consensusSubmitMessage, .uncheckedSubmit, .tokenCreate, .tokenFreeze, .tokenUnfreeze,
   .tokenGrantKyc, .tokenRevokeKyc, .tokenDelete, .tokenUpdate, .tokenMint, .tokenBurn,
   .tokenWipe, .tokenAssociate, .tokenDissociate, .scheduleCreate, .scheduleDelete,
   .scheduleSign, .tokenFeeScheduleUpdate, .tokenPause, .tokenUnpause, .cryptoApproveAllowance,
   .cryptoDeleteAllowance, .ethereumTransaction, .nodeStakeUpdate, .utilPrng, .tokenUpdateNfts,
   .nodeCreate, .nodeUpdate, .nodeDelete, .tokenReject, .tokenAirdrop, .tokenCancelAirdrop,
   .tokenClaimAirdrop, .atomicBatch, .hookStore]

/-- The kind with a given code; `unknown` for any code no declared kind has. -/
def ofCode (c : Int) : TransactionType :=
  (all.find? fun t => t.code == c).getD .unknown

/-- The kind with a given wire name, if any (`UNKNOWN` included). -/
def ofWireName? (s : String) : Option TransactionType :=
  (all ++ [TransactionType.unknown]).find? fun t => t.wireName == s

/-- Written as its wire name. -/
def toJson (t : TransactionType) : Json := .str t.wireName

/-- Read from its wire name; every declared kind and `UNKNOWN` are accepted. -/
def decoder : Decoder TransactionType :=
  Decoder.enum ((all ++ [TransactionType.unknown]).map fun t => (t.wireName, t))

end TransactionType

/-- The outcome of a transaction: a signed 32-bit response code. -/
structure ResponseCode where
  code : Int
deriving DecidableEq, Repr

namespace ResponseCode

/-- Success, the default outcome. -/
def success : ResponseCode := ⟨22⟩

instance : Inhabited ResponseCode := ⟨success⟩

/-- Success, a partial file upload, and success with a missing expected operation. -/
def isSuccessful (r : ResponseCode) : Bool := r.code == 22 || r.code == 104 || r.code == 220

/-- The name of a known code, or `Other(n)`. -/
def debugName (r : ResponseCode) : String :=
  match r.code with
  | 0 => "Ok"
  | 7 => "InvalidSignature"
  | 10 => "InsufficientPayerBalance"
  | 11 => "DuplicateTransaction"
  | 21 => "Unknown"
  | 22 => "Success"
  | 23 => "FailInvalid"
  | 30 => "InsufficientGas"
  | 33 => "ContractRevertExecuted"
  | 104 => "FeeScheduleFilePartUploaded"
  | 220 => "SuccessButMissingExpectedOperation"
  | n => "Other(" ++ toString n ++ ")"

end ResponseCode

end LedgerProjection
