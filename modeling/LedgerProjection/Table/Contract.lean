import LedgerProjection.Entity.Json

/-!
# Contract execution rows

Results, logs and storage changes of contract executions, and Ethereum transactions.
-/

namespace LedgerProjection

/-- The outcome of a contract execution. -/
structure ContractResult where
  consensusTimestamp : Int := 0
  contractId : EntityId := EntityId.empty
  payerAccountId : EntityId := EntityId.empty
  senderId : Option EntityId := none
  amount : Option Int := none
  bloom : List UInt8 := []
  callResult : List UInt8 := []
  createdContractIds : List EntityId := []
  errorMessage : Option String := none
  functionParameters : List UInt8 := []
  gasLimit : Int := 0
  gasUsed : Int := 0
  transactionResult : Int := 0
  transactionHash : List UInt8 := []
deriving DecidableEq, Repr, Inhabited

namespace ContractResult

/-- Written with every field, absent values as `null`. -/
def toJson (r : ContractResult) : Json :=
  .obj [("consensus_timestamp", .int r.consensusTimestamp),
    ("contract_id", r.contractId.toJson),
    ("payer_account_id", r.payerAccountId.toJson),
    ("sender_id", Json.opt EntityId.toJson r.senderId),
    ("amount", Json.opt .int r.amount),
    ("bloom", Json.byteArray r.bloom),
    ("call_result", Json.byteArray r.callResult),
    ("created_contract_ids", Json.list EntityId.toJson r.createdContractIds),
    ("error_message", Json.opt .str r.errorMessage),
    ("function_parameters", Json.byteArray r.functionParameters),
    ("gas_limit", .int r.gasLimit),
    ("gas_used", .int r.gasUsed),
    ("transaction_result", .int r.transactionResult),
    ("transaction_hash", Json.byteArray r.transactionHash)]

/-- Read field by field: optional fields may be absent, the others are required. -/
def decoder : Decoder ContractResult :=
  Decoder.struct "ContractResult" <|
    ContractResult.mk <$> Fields.req "consensus_timestamp" Decoder.i64
      <*> Fields.req "contract_id" EntityId.decoder
      <*> Fields.req "payer_account_id" EntityId.decoder
      <*> Fields.nullable "sender_id" EntityId.decoder
      <*> Fields.nullable "amount" Decoder.i64
      <*> Fields.req "bloom" Decoder.bytes
      <*> Fields.req "call_result" Decoder.bytes
      <*> Fields.req "created_contract_ids" (Decoder.list EntityId.decoder)
      <*> Fields.nullable "error_message" Decoder.string
      <*> Fields.req "function_parameters" Decoder.bytes
      <*> Fields.req "gas_limit" Decoder.i64
      <*> Fields.req "gas_used" Decoder.i64
      <*> Fields.req "transaction_result" Decoder.i32
      <*> Fields.req "transaction_hash" Decoder.bytes

end ContractResult

/-- An event log of a contract execution, or a synthetic one for a native allowance. -/
structure ContractLog where
  consensusTimestamp : Int := 0
  index : Int := 0
  contractId : EntityId := EntityId.empty
  payerAccountId : EntityId := EntityId.empty
  rootContractId : Option EntityId := none
  bloom : List UInt8 := []
  data : List UInt8 := []
  topic0 : Option (List UInt8) := none
  topic1 : Option (List UInt8) := none
  topic2 : Option (List UInt8) := none
  topic3 : Option (List UInt8) := none
  synthetic : Bool := false
deriving DecidableEq, Repr, Inhabited

namespace ContractLog

/-- Written with every field, absent values as `null`. -/
def toJson (r : ContractLog) : Json :=
  .obj [("consensus_timestamp", .int r.consensusTimestamp),
    ("index", .int r.index),
    ("contract_id", r.contractId.toJson),
    ("payer_account_id", r.payerAccountId.toJson),
    ("root_contract_id", Json.opt EntityId.toJson r.rootContractId),
    ("bloom", Json.byteArray r.bloom),
    ("data", Json.byteArray r.data),
    ("topic0", Json.opt Json.byteArray r.topic0),
    ("topic1", Json.opt Json.byteArray r.topic1),
    ("topic2", Json.opt Json.byteArray r.topic2),
    ("topic3", Json.opt Json.byteArray r.topic3),
    ("synthetic", .bool r.synthetic)]

/-- Read field by field: optional fields may be absent, the others are required. -/
def decoder : Decoder ContractLog :=
  Decoder.struct "ContractLog" <|
    ContractLog.mk <$> Fields.req "consensus_timestamp" Decoder.i64
      <*> Fields.req "index" Decoder.i32
      <*> Fields.req "contract_id" EntityId.decoder
      <*> Fields.req "payer_account_id" EntityId.decoder
      <*> Fields.nullable "root_contract_id" EntityId.decoder
      <*> Fields.req "bloom" Decoder.bytes
      <*> Fields.req "data" Decoder.bytes
      <*> Fields.nullable "topic0" Decoder.bytes
      <*> Fields.nullable "topic1" Decoder.bytes
      <*> Fields.nullable "topic2" Decoder.bytes
      <*> Fields.nullable "topic3" Decoder.bytes
      <*> Fields.req "synthetic" Decoder.bool

end ContractLog

/-- A storage slot read or written by a contract execution. -/
structure ContractStateChange where
  consensusTimestamp : Int := 0
  contractId : EntityId := EntityId.empty
  payerAccountId : EntityId := EntityId.empty
  slot : List UInt8 := []
  valueRead : List UInt8 := []
  valueWritten : Option (List UInt8) := none
  migration : Bool := false
deriving DecidableEq, Repr, Inhabited

namespace ContractStateChange

/-- Written with every field, absent values as `null`. -/
def toJson (r : ContractStateChange) : Json :=
  .obj [("consensus_timestamp", .int r.consensusTimestamp),
    ("contract_id", r.contractId.toJson),
    ("payer_account_id", r.payerAccountId.toJson),
    ("slot", Json.byteArray r.slot),
    ("value_read", Json.byteArray r.valueRead),
    ("value_written", Json.opt Json.byteArray r.valueWritten),
    ("migration", .bool r.migration)]

/-- Read field by field: optional fields may be absent, the others are required. -/
def decoder : Decoder ContractStateChange :=
  Decoder.struct "ContractStateChange" <|
    ContractStateChange.mk <$> Fields.req "consensus_timestamp" Decoder.i64
      <*> Fields.req "contract_id" EntityId.decoder
      <*> Fields.req "payer_account_id" EntityId.decoder
      <*> Fields.req "slot" Decoder.bytes
      <*> Fields.req "value_read" Decoder.bytes
      <*> Fields.nullable "value_written" Decoder.bytes
      <*> Fields.req "migration" Decoder.bool

end ContractStateChange

/-- An Ethereum transaction carried by the network. -/
structure EthereumTransaction where
  consensusTimestamp : Int := 0
  hash : List UInt8 := []
  payerAccountId : EntityId := EntityId.empty
  callDataId : Option EntityId := none
  callData : Option (List UInt8) := none
  chainId : Option (List UInt8) := none
  data : List UInt8 := []
  fromAddress : Option (List UInt8) := none
  gasLimit : Int := 0
  gasPrice : Option (List UInt8) := none
  maxFeePerGas : Option (List UInt8) := none
  maxPriorityFeePerGas : Option (List UInt8) := none
  maxGasAllowance : Int := 0
  nonce : Int := 0
  signatureR : Option (List UInt8) := none
  signatureS : Option (List UInt8) := none
  toAddress : Option (List UInt8) := none
  transactionType : Int := 0
  value : Option (List UInt8) := none
deriving DecidableEq, Repr, Inhabited

namespace EthereumTransaction

/-- Written with every field, absent values as `null`. -/
def toJson (r : EthereumTransaction) : Json :=
  .obj [("consensus_timestamp", .int r.consensusTimestamp),
    ("hash", Json.byteArray r.hash),
    ("payer_account_id", r.payerAccountId.toJson),
    ("call_data_id", Json.opt EntityId.toJson r.callDataId),
    ("call_data", Json.opt Json.byteArray r.callData),
    ("chain_id", Json.opt Json.byteArray r.chainId),
    ("data", Json.byteArray r.data),
    ("from_address", Json.opt Json.byteArray r.fromAddress),
    ("gas_limit", .int r.gasLimit),
    ("gas_price", Json.opt Json.byteArray r.gasPrice),
    ("max_fee_per_gas", Json.opt Json.byteArray r.maxFeePerGas),
    ("max_priority_fee_per_gas", Json.opt Json.byteArray r.maxPriorityFeePerGas),
    ("max_gas_allowance", .int r.maxGasAllowance),
    ("nonce", .int r.nonce),
    ("signature_r", Json.opt Json.byteArray r.signatureR),
    ("signature_s", Json.opt Json.byteArray r.signatureS),
    ("to_address", Json.opt Json.byteArray r.toAddress),
    ("transaction_type", .int r.transactionType),
    ("value", Json.opt Json.byteArray r.value)]

/-- Read field by field: optional fields may be absent, the others are required. -/
def decoder : Decoder EthereumTransaction :=
  Decoder.struct "EthereumTransaction" <|
    EthereumTransaction.mk <$> Fields.req "consensus_timestamp" Decoder.i64
      <*> Fields.req "hash" Decoder.bytes
      <*> Fields.req "payer_account_id" EntityId.decoder
      <*> Fields.nullable "call_data_id" EntityId.decoder
      <*> Fields.nullable "call_data" Decoder.bytes
      <*> Fields.nullable "chain_id" Decoder.bytes
      <*> Fields.req "data" Decoder.bytes
      <*> Fields.nullable "from_address" Decoder.bytes
      <*> Fields.req "gas_limit" Decoder.i64
      <*> Fields.nullable "gas_price" Decoder.bytes
      <*> Fields.nullable "max_fee_per_gas" Decoder.bytes
      <*> Fields.nullable "max_priority_fee_per_gas" Decoder.bytes
      <*> Fields.req "max_gas_allowance" Decoder.i64
      <*> Fields.req "nonce" Decoder.i64
      <*> Fields.nullable "signature_r" Decoder.bytes
      <*> Fields.nullable "signature_s" Decoder.bytes
      <*> Fields.nullable "to_address" Decoder.bytes
      <*> Fields.req "transaction_type" Decoder.i32
      <*> Fields.nullable "value" Decoder.bytes

end EthereumTransaction

end LedgerProjection
