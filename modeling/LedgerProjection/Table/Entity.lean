import LedgerProjection.Entity.Json
import LedgerProjection.Record.Kind
import LedgerProjection.Table.Status

/-!
# Entity, node and transaction rows

The rows a record yields about entities (accounts, contracts, files, schedules, tokens and
topics), consensus nodes, files, schedules and the transaction itself. Each row has a JSON
form with every field present and a reader that accepts absent optional fields.
-/

namespace LedgerProjection

/-- A version of an entity: an account, contract, file, schedule, token or topic. In a mutation,
`none` means "unchanged" and `balance` is a change, not a total. -/
structure Entity where
  id : EntityId := EntityId.empty
  entityType : Option EntityType := none
  timestampRange : Option TimestampRange := none
  createdTimestamp : Option Int := none
  deleted : Option Bool := none
  «alias» : Option (List UInt8) := none
  autoRenewAccountId : Option EntityId := none
  autoRenewPeriod : Option Int := none
  balance : Option Int := none
  balanceTimestamp : Option Int := none
  declineReward : Option Bool := none
  ethereumNonce : Option Int := none
  evmAddress : Option (List UInt8) := none
  expirationTimestamp : Option Int := none
  key : Option (List UInt8) := none
  maxAutomaticTokenAssociations : Option Int := none
  memo : Option String := none
  obtainerId : Option EntityId := none
  permanentRemoval : Option Bool := none
  proxyAccountId : Option EntityId := none
  receiverSigRequired : Option Bool := none
  stakePeriodStart : Option Int := none
  stakedAccountId : Option EntityId := none
  stakedNodeId : Option Int := none
deriving DecidableEq, Repr, Inhabited

namespace Entity

/-- Written with every field, absent values as `null`. -/
def toJson (r : Entity) : Json :=
  .obj [("id", r.id.toJson),
    ("entity_type", Json.opt EntityType.toJson r.entityType),
    ("timestamp_range", Json.opt TimestampRange.toJson r.timestampRange),
    ("created_timestamp", Json.opt .int r.createdTimestamp),
    ("deleted", Json.opt .bool r.deleted),
    ("alias", Json.opt Json.byteArray r.alias),
    ("auto_renew_account_id", Json.opt EntityId.toJson r.autoRenewAccountId),
    ("auto_renew_period", Json.opt .int r.autoRenewPeriod),
    ("balance", Json.opt .int r.balance),
    ("balance_timestamp", Json.opt .int r.balanceTimestamp),
    ("decline_reward", Json.opt .bool r.declineReward),
    ("ethereum_nonce", Json.opt .int r.ethereumNonce),
    ("evm_address", Json.opt Json.byteArray r.evmAddress),
    ("expiration_timestamp", Json.opt .int r.expirationTimestamp),
    ("key", Json.opt Json.byteArray r.key),
    ("max_automatic_token_associations", Json.opt .int r.maxAutomaticTokenAssociations),
    ("memo", Json.opt .str r.memo),
    ("obtainer_id", Json.opt EntityId.toJson r.obtainerId),
    ("permanent_removal", Json.opt .bool r.permanentRemoval),
    ("proxy_account_id", Json.opt EntityId.toJson r.proxyAccountId),
    ("receiver_sig_required", Json.opt .bool r.receiverSigRequired),
    ("stake_period_start", Json.opt .int r.stakePeriodStart),
    ("staked_account_id", Json.opt EntityId.toJson r.stakedAccountId),
    ("staked_node_id", Json.opt .int r.stakedNodeId)]

/-- Read field by field: optional fields may be absent, the others are required. -/
def decoder : Decoder Entity :=
  Decoder.struct "Entity" <|
    Entity.mk <$> Fields.req "id" EntityId.decoder
      <*> Fields.nullable "entity_type" EntityType.decoder
      <*> Fields.nullable "timestamp_range" TimestampRange.decoder
      <*> Fields.nullable "created_timestamp" Decoder.i64
      <*> Fields.nullable "deleted" Decoder.bool
      <*> Fields.nullable "alias" Decoder.bytes
      <*> Fields.nullable "auto_renew_account_id" EntityId.decoder
      <*> Fields.nullable "auto_renew_period" Decoder.i64
      <*> Fields.nullable "balance" Decoder.i64
      <*> Fields.nullable "balance_timestamp" Decoder.i64
      <*> Fields.nullable "decline_reward" Decoder.bool
      <*> Fields.nullable "ethereum_nonce" Decoder.i64
      <*> Fields.nullable "evm_address" Decoder.bytes
      <*> Fields.nullable "expiration_timestamp" Decoder.i64
      <*> Fields.nullable "key" Decoder.bytes
      <*> Fields.nullable "max_automatic_token_associations" Decoder.i32
      <*> Fields.nullable "memo" Decoder.string
      <*> Fields.nullable "obtainer_id" EntityId.decoder
      <*> Fields.nullable "permanent_removal" Decoder.bool
      <*> Fields.nullable "proxy_account_id" EntityId.decoder
      <*> Fields.nullable "receiver_sig_required" Decoder.bool
      <*> Fields.nullable "stake_period_start" Decoder.i64
      <*> Fields.nullable "staked_account_id" EntityId.decoder
      <*> Fields.nullable "staked_node_id" Decoder.i64

end Entity

/-- Where a contract's bytecode came from, merged field by field over all its mutations. -/
structure Contract where
  id : EntityId := EntityId.empty
  fileId : Option EntityId := none
  initcode : Option (List UInt8) := none
  runtimeBytecode : Option (List UInt8) := none
deriving DecidableEq, Repr, Inhabited

namespace Contract

/-- Written with every field, absent values as `null`. -/
def toJson (r : Contract) : Json :=
  .obj [("id", r.id.toJson),
    ("file_id", Json.opt EntityId.toJson r.fileId),
    ("initcode", Json.opt Json.byteArray r.initcode),
    ("runtime_bytecode", Json.opt Json.byteArray r.runtimeBytecode)]

/-- Read field by field: optional fields may be absent, the others are required. -/
def decoder : Decoder Contract :=
  Decoder.struct "Contract" <|
    Contract.mk <$> Fields.req "id" EntityId.decoder
      <*> Fields.nullable "file_id" EntityId.decoder
      <*> Fields.nullable "initcode" Decoder.bytes
      <*> Fields.nullable "runtime_bytecode" Decoder.bytes

end Contract

/-- A version of a consensus topic's keys. -/
structure Topic where
  id : EntityId := EntityId.empty
  timestampRange : Option TimestampRange := none
  createdTimestamp : Option Int := none
  adminKey : Option (List UInt8) := none
  feeExemptKeyList : Option (List UInt8) := none
  feeScheduleKey : Option (List UInt8) := none
  submitKey : Option (List UInt8) := none
deriving DecidableEq, Repr, Inhabited

namespace Topic

/-- Written with every field, absent values as `null`. -/
def toJson (r : Topic) : Json :=
  .obj [("id", r.id.toJson),
    ("timestamp_range", Json.opt TimestampRange.toJson r.timestampRange),
    ("created_timestamp", Json.opt .int r.createdTimestamp),
    ("admin_key", Json.opt Json.byteArray r.adminKey),
    ("fee_exempt_key_list", Json.opt Json.byteArray r.feeExemptKeyList),
    ("fee_schedule_key", Json.opt Json.byteArray r.feeScheduleKey),
    ("submit_key", Json.opt Json.byteArray r.submitKey)]

/-- Read field by field: optional fields may be absent, the others are required. -/
def decoder : Decoder Topic :=
  Decoder.struct "Topic" <|
    Topic.mk <$> Fields.req "id" EntityId.decoder
      <*> Fields.nullable "timestamp_range" TimestampRange.decoder
      <*> Fields.nullable "created_timestamp" Decoder.i64
      <*> Fields.nullable "admin_key" Decoder.bytes
      <*> Fields.nullable "fee_exempt_key_list" Decoder.bytes
      <*> Fields.nullable "fee_schedule_key" Decoder.bytes
      <*> Fields.nullable "submit_key" Decoder.bytes

end Topic

/-- A message submitted to a topic. -/
structure TopicMessage where
  consensusTimestamp : Int := 0
  topicId : EntityId := EntityId.empty
  sequenceNumber : Int := 0
  runningHash : List UInt8 := []
  runningHashVersion : Int := 0
  message : List UInt8 := []
  payerAccountId : EntityId := EntityId.empty
  chunkNum : Option Int := none
  chunkTotal : Option Int := none
  initialTransactionValidStart : Option Int := none
  validStartTimestamp : Int := 0
deriving DecidableEq, Repr, Inhabited

namespace TopicMessage

/-- Written with every field, absent values as `null`. -/
def toJson (r : TopicMessage) : Json :=
  .obj [("consensus_timestamp", .int r.consensusTimestamp),
    ("topic_id", r.topicId.toJson),
    ("sequence_number", .int r.sequenceNumber),
    ("running_hash", Json.byteArray r.runningHash),
    ("running_hash_version", .int r.runningHashVersion),
    ("message", Json.byteArray r.message),
    ("payer_account_id", r.payerAccountId.toJson),
    ("chunk_num", Json.opt .int r.chunkNum),
    ("chunk_total", Json.opt .int r.chunkTotal),
    ("initial_transaction_valid_start", Json.opt .int r.initialTransactionValidStart),
    ("valid_start_timestamp", .int r.validStartTimestamp)]

/-- Read field by field: optional fields may be absent, the others are required. -/
def decoder : Decoder TopicMessage :=
  Decoder.struct "TopicMessage" <|
    TopicMessage.mk <$> Fields.req "consensus_timestamp" Decoder.i64
      <*> Fields.req "topic_id" EntityId.decoder
      <*> Fields.req "sequence_number" Decoder.i64
      <*> Fields.req "running_hash" Decoder.bytes
      <*> Fields.req "running_hash_version" Decoder.i32
      <*> Fields.req "message" Decoder.bytes
      <*> Fields.req "payer_account_id" EntityId.decoder
      <*> Fields.nullable "chunk_num" Decoder.i32
      <*> Fields.nullable "chunk_total" Decoder.i32
      <*> Fields.nullable "initial_transaction_valid_start" Decoder.i64
      <*> Fields.req "valid_start_timestamp" Decoder.i64

end TopicMessage

/-- Contents written to a file by one transaction. -/
structure FileData where
  consensusTimestamp : Int := 0
  entityId : EntityId := EntityId.empty
  fileData : List UInt8 := []
  transactionType : Int := 0
deriving DecidableEq, Repr, Inhabited

namespace FileData

/-- Written with every field, absent values as `null`. -/
def toJson (r : FileData) : Json :=
  .obj [("consensus_timestamp", .int r.consensusTimestamp),
    ("entity_id", r.entityId.toJson),
    ("file_data", Json.byteArray r.fileData),
    ("transaction_type", .int r.transactionType)]

/-- Read field by field: optional fields may be absent, the others are required. -/
def decoder : Decoder FileData :=
  Decoder.struct "FileData" <|
    FileData.mk <$> Fields.req "consensus_timestamp" Decoder.i64
      <*> Fields.req "entity_id" EntityId.decoder
      <*> Fields.req "file_data" Decoder.bytes
      <*> Fields.req "transaction_type" Decoder.i32

end FileData

/-- A scheduled transaction as created. -/
structure Schedule where
  scheduleId : EntityId := EntityId.empty
  consensusTimestamp : Int := 0
  creatorAccountId : EntityId := EntityId.empty
  payerAccountId : EntityId := EntityId.empty
  transactionBody : List UInt8 := []
  expirationTime : Option Int := none
  waitForExpiry : Bool := false
deriving DecidableEq, Repr, Inhabited

namespace Schedule

/-- Written with every field, absent values as `null`. -/
def toJson (r : Schedule) : Json :=
  .obj [("schedule_id", r.scheduleId.toJson),
    ("consensus_timestamp", .int r.consensusTimestamp),
    ("creator_account_id", r.creatorAccountId.toJson),
    ("payer_account_id", r.payerAccountId.toJson),
    ("transaction_body", Json.byteArray r.transactionBody),
    ("expiration_time", Json.opt .int r.expirationTime),
    ("wait_for_expiry", .bool r.waitForExpiry)]

/-- Read field by field: optional fields may be absent, the others are required. -/
def decoder : Decoder Schedule :=
  Decoder.struct "Schedule" <|
    Schedule.mk <$> Fields.req "schedule_id" EntityId.decoder
      <*> Fields.req "consensus_timestamp" Decoder.i64
      <*> Fields.req "creator_account_id" EntityId.decoder
      <*> Fields.req "payer_account_id" EntityId.decoder
      <*> Fields.req "transaction_body" Decoder.bytes
      <*> Fields.nullable "expiration_time" Decoder.i64
      <*> Fields.req "wait_for_expiry" Decoder.bool

end Schedule

/-- A signature given toward a schedule. -/
structure TransactionSignature where
  consensusTimestamp : Int := 0
  entityId : EntityId := EntityId.empty
  publicKeyPrefix : List UInt8 := []
  signature : List UInt8 := []
  signatureType : Int := 0
deriving DecidableEq, Repr, Inhabited

namespace TransactionSignature

/-- Written with every field, absent values as `null`. -/
def toJson (r : TransactionSignature) : Json :=
  .obj [("consensus_timestamp", .int r.consensusTimestamp),
    ("entity_id", r.entityId.toJson),
    ("public_key_prefix", Json.byteArray r.publicKeyPrefix),
    ("signature", Json.byteArray r.signature),
    ("signature_type", .int r.signatureType)]

/-- Read field by field: optional fields may be absent, the others are required. -/
def decoder : Decoder TransactionSignature :=
  Decoder.struct "TransactionSignature" <|
    TransactionSignature.mk <$> Fields.req "consensus_timestamp" Decoder.i64
      <*> Fields.req "entity_id" EntityId.decoder
      <*> Fields.req "public_key_prefix" Decoder.bytes
      <*> Fields.req "signature" Decoder.bytes
      <*> Fields.req "signature_type" Decoder.i32

end TransactionSignature

/-- A live hash attached to an account. -/
structure LiveHash where
  consensusTimestamp : Int := 0
  accountId : EntityId := EntityId.empty
  hash : List UInt8 := []
deriving DecidableEq, Repr, Inhabited

namespace LiveHash

/-- Written with every field, absent values as `null`. -/
def toJson (r : LiveHash) : Json :=
  .obj [("consensus_timestamp", .int r.consensusTimestamp),
    ("account_id", r.accountId.toJson),
    ("hash", Json.byteArray r.hash)]

/-- Read field by field: optional fields may be absent, the others are required. -/
def decoder : Decoder LiveHash :=
  Decoder.struct "LiveHash" <|
    LiveHash.mk <$> Fields.req "consensus_timestamp" Decoder.i64
      <*> Fields.req "account_id" EntityId.decoder
      <*> Fields.req "hash" Decoder.bytes

end LiveHash

/-- A version of a consensus node's administrative record. -/
structure Node where
  nodeId : Int := 0
  timestampRange : Option TimestampRange := none
  createdTimestamp : Option Int := none
  accountId : Option EntityId := none
  adminKey : Option (List UInt8) := none
  declineReward : Option Bool := none
  deleted : Option Bool := none
  description : Option String := none
deriving DecidableEq, Repr, Inhabited

namespace Node

/-- Written with every field, absent values as `null`. -/
def toJson (r : Node) : Json :=
  .obj [("node_id", .int r.nodeId),
    ("timestamp_range", Json.opt TimestampRange.toJson r.timestampRange),
    ("created_timestamp", Json.opt .int r.createdTimestamp),
    ("account_id", Json.opt EntityId.toJson r.accountId),
    ("admin_key", Json.opt Json.byteArray r.adminKey),
    ("decline_reward", Json.opt .bool r.declineReward),
    ("deleted", Json.opt .bool r.deleted),
    ("description", Json.opt .str r.description)]

/-- Read field by field: optional fields may be absent, the others are required. -/
def decoder : Decoder Node :=
  Decoder.struct "Node" <|
    Node.mk <$> Fields.req "node_id" Decoder.i64
      <*> Fields.nullable "timestamp_range" TimestampRange.decoder
      <*> Fields.nullable "created_timestamp" Decoder.i64
      <*> Fields.nullable "account_id" EntityId.decoder
      <*> Fields.nullable "admin_key" Decoder.bytes
      <*> Fields.nullable "decline_reward" Decoder.bool
      <*> Fields.nullable "deleted" Decoder.bool
      <*> Fields.nullable "description" Decoder.string

end Node

/-- A node's staking figures at the end of a staking period. -/
structure NodeStake where
  consensusTimestamp : Int := 0
  epochDay : Int := 0
  nodeId : Int := 0
  maxStake : Int := 0
  minStake : Int := 0
  rewardRate : Int := 0
  stake : Int := 0
  stakeNotRewarded : Int := 0
  stakeRewarded : Int := 0
  stakingPeriod : Int := 0
deriving DecidableEq, Repr, Inhabited

namespace NodeStake

/-- Written with every field, absent values as `null`. -/
def toJson (r : NodeStake) : Json :=
  .obj [("consensus_timestamp", .int r.consensusTimestamp),
    ("epoch_day", .int r.epochDay),
    ("node_id", .int r.nodeId),
    ("max_stake", .int r.maxStake),
    ("min_stake", .int r.minStake),
    ("reward_rate", .int r.rewardRate),
    ("stake", .int r.stake),
    ("stake_not_rewarded", .int r.stakeNotRewarded),
    ("stake_rewarded", .int r.stakeRewarded),
    ("staking_period", .int r.stakingPeriod)]

/-- Read field by field: optional fields may be absent, the others are required. -/
def decoder : Decoder NodeStake :=
  Decoder.struct "NodeStake" <|
    NodeStake.mk <$> Fields.req "consensus_timestamp" Decoder.i64
      <*> Fields.req "epoch_day" Decoder.i64
      <*> Fields.req "node_id" Decoder.i64
      <*> Fields.req "max_stake" Decoder.i64
      <*> Fields.req "min_stake" Decoder.i64
      <*> Fields.req "reward_rate" Decoder.i64
      <*> Fields.req "stake" Decoder.i64
      <*> Fields.req "stake_not_rewarded" Decoder.i64
      <*> Fields.req "stake_rewarded" Decoder.i64
      <*> Fields.req "staking_period" Decoder.i64

end NodeStake

/-- A pseudo-random value handed out by the network. -/
structure Prng where
  consensusTimestamp : Int := 0
  payerAccountId : EntityId := EntityId.empty
  range : Int := 0
  prngBytes : Option (List UInt8) := none
  prngNumber : Option Int := none
deriving DecidableEq, Repr, Inhabited

namespace Prng

/-- Written with every field, absent values as `null`. -/
def toJson (r : Prng) : Json :=
  .obj [("consensus_timestamp", .int r.consensusTimestamp),
    ("payer_account_id", r.payerAccountId.toJson),
    ("range", .int r.range),
    ("prng_bytes", Json.opt Json.byteArray r.prngBytes),
    ("prng_number", Json.opt .int r.prngNumber)]

/-- Read field by field: optional fields may be absent, the others are required. -/
def decoder : Decoder Prng :=
  Decoder.struct "Prng" <|
    Prng.mk <$> Fields.req "consensus_timestamp" Decoder.i64
      <*> Fields.req "payer_account_id" EntityId.decoder
      <*> Fields.req "range" Decoder.i32
      <*> Fields.nullable "prng_bytes" Decoder.bytes
      <*> Fields.nullable "prng_number" Decoder.i32

end Prng

/-- The row every record yields: who paid, what kind, what outcome. -/
structure Transaction where
  consensusTimestamp : Int := 0
  transactionType : TransactionType := .unknown
  payerAccountId : EntityId := EntityId.empty
  nodeAccountId : Option EntityId := none
  entityId : Option EntityId := none
  result : Int := 0
  validStartNs : Int := 0
  memo : List UInt8 := []
  chargedTxFee : Int := 0
  maxFee : Int := 0
  nonce : Int := 0
  parentConsensusTimestamp : Option Int := none
  scheduled : Bool := false
deriving DecidableEq, Repr, Inhabited

namespace Transaction

/-- Written with every field, absent values as `null`. -/
def toJson (r : Transaction) : Json :=
  .obj [("consensus_timestamp", .int r.consensusTimestamp),
    ("transaction_type", r.transactionType.toJson),
    ("payer_account_id", r.payerAccountId.toJson),
    ("node_account_id", Json.opt EntityId.toJson r.nodeAccountId),
    ("entity_id", Json.opt EntityId.toJson r.entityId),
    ("result", .int r.result),
    ("valid_start_ns", .int r.validStartNs),
    ("memo", Json.byteArray r.memo),
    ("charged_tx_fee", .int r.chargedTxFee),
    ("max_fee", .int r.maxFee),
    ("nonce", .int r.nonce),
    ("parent_consensus_timestamp", Json.opt .int r.parentConsensusTimestamp),
    ("scheduled", .bool r.scheduled)]

/-- Read field by field: optional fields may be absent, the others are required. -/
def decoder : Decoder Transaction :=
  Decoder.struct "Transaction" <|
    Transaction.mk <$> Fields.req "consensus_timestamp" Decoder.i64
      <*> Fields.req "transaction_type" TransactionType.decoder
      <*> Fields.req "payer_account_id" EntityId.decoder
      <*> Fields.nullable "node_account_id" EntityId.decoder
      <*> Fields.nullable "entity_id" EntityId.decoder
      <*> Fields.req "result" Decoder.i32
      <*> Fields.req "valid_start_ns" Decoder.i64
      <*> Fields.req "memo" Decoder.bytes
      <*> Fields.req "charged_tx_fee" Decoder.i64
      <*> Fields.req "max_fee" Decoder.i64
      <*> Fields.req "nonce" Decoder.i32
      <*> Fields.nullable "parent_consensus_timestamp" Decoder.i64
      <*> Fields.req "scheduled" Decoder.bool

end Transaction

end LedgerProjection
