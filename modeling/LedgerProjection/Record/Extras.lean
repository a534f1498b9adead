import LedgerProjection.Record.Kind
import LedgerProjection.Record.Ref

/-!
# Receipts, record extras and sidecars

Everything a transaction record carries beside its body. All parts but signature pairs and
the protocol version take defaults for absent fields.
-/

namespace LedgerProjection

/-- Read from its numeric code. -/
def ResponseCode.decoder : Decoder ResponseCode := fun o j =>
  ResponseCode.mk <$> Decoder.i32 o j

/-- What the network reports back about a transaction: its status and the ids it assigned. -/
structure TransactionReceipt where
  status : ResponseCode := default
  accountId : Option EntityId := none
  contractId : Option EntityId := none
  fileId : Option EntityId := none
  nodeId : Option Int := none
  scheduleId : Option EntityId := none
  tokenId : Option EntityId := none
  topicId : Option EntityId := none
  newTotalSupply : Int := 0
  serialNumbers : List Int := []
  topicRunningHash : List UInt8 := []
  topicRunningHashVersion : Int := 0
  topicSequenceNumber : Int := 0
deriving DecidableEq, Repr, Inhabited

/-- Reads a `TransactionReceipt`, every field optional. -/
def TransactionReceipt.decoder : Decoder TransactionReceipt :=
  Decoder.struct "TransactionReceipt" <|
    TransactionReceipt.mk <$> Fields.withDefault "status" ResponseCode.decoder default
      <*> Fields.opt "account_id" EntityId.decoder
      <*> Fields.opt "contract_id" EntityId.decoder
      <*> Fields.opt "file_id" EntityId.decoder
      <*> Fields.opt "node_id" Decoder.i64
      <*> Fields.opt "schedule_id" EntityId.decoder
      <*> Fields.opt "token_id" EntityId.decoder
      <*> Fields.opt "topic_id" EntityId.decoder
      <*> Fields.withDefault "new_total_supply" Decoder.i64 0
      <*> Fields.withDefault "serial_numbers" (Decoder.list Decoder.i64) []
      <*> Fields.withDefault "topic_running_hash" Decoder.bytes []
      <*> Fields.withDefault "topic_running_hash_version" Decoder.i32 0
      <*> Fields.withDefault "topic_sequence_number" Decoder.i64 0

/-- An hbar or fungible amount credited (positive) or debited (negative). -/
structure AccountAmount where
  accountId : EntityId := EntityId.empty
  amount : Int := 0
  isApproval : Bool := false
deriving DecidableEq, Repr, Inhabited

/-- Reads a `AccountAmount`, every field optional. -/
def AccountAmount.decoder : Decoder AccountAmount :=
  Decoder.struct "AccountAmount" <|
    AccountAmount.mk <$> Fields.withDefault "account_id" EntityId.decoder EntityId.empty
      <*> Fields.withDefault "amount" Decoder.i64 0
      <*> Fields.withDefault "is_approval" Decoder.bool false

/-- A serial moved from one account to another. -/
structure NftTransfer where
  senderAccountId : EntityId := EntityId.empty
  receiverAccountId : EntityId := EntityId.empty
  serialNumber : Int := 0
  isApproval : Bool := false
deriving DecidableEq, Repr, Inhabited

/-- Reads a `NftTransfer`, every field optional. -/
def NftTransfer.decoder : Decoder NftTransfer :=
  Decoder.struct "NftTransfer" <|
    NftTransfer.mk <$> Fields.withDefault "sender_account_id" EntityId.decoder EntityId.empty
      <*> Fields.withDefault "receiver_account_id" EntityId.decoder EntityId.empty
      <*> Fields.withDefault "serial_number" Decoder.i64 0
      <*> Fields.withDefault "is_approval" Decoder.bool false

/-- The moves of one token in a record. -/
structure TokenTransferList where
  tokenId : EntityId := EntityId.empty
  transfers : List AccountAmount := []
  nftTransfers : List NftTransfer := []
deriving DecidableEq, Repr, Inhabited

/-- Reads a `TokenTransferList`, every field optional. -/
def TokenTransferList.decoder : Decoder TokenTransferList :=
  Decoder.struct "TokenTransferList" <|
    TokenTransferList.mk <$> Fields.withDefault "token_id" EntityId.decoder EntityId.empty
      <*> Fields.withDefault "transfers" (Decoder.list AccountAmount.decoder) []
      <*> Fields.withDefault "nft_transfers" (Decoder.list NftTransfer.decoder) []

/-- An account linked to a token by the network. -/
structure TokenAssociation where
  accountId : EntityId := EntityId.empty
  tokenId : EntityId := EntityId.empty
deriving DecidableEq, Repr, Inhabited

/-- Reads a `TokenAssociation`, every field optional. -/
def TokenAssociation.decoder : Decoder TokenAssociation :=
  Decoder.struct "TokenAssociation" <|
    TokenAssociation.mk <$> Fields.withDefault "account_id" EntityId.decoder EntityId.empty
      <*> Fields.withDefault "token_id" EntityId.decoder EntityId.empty

/-- An airdrop left pending: a serial, or an amount when no serial is given. -/
structure PendingAirdropRecord where
  senderAccountId : EntityId := EntityId.empty
  receiverAccountId : EntityId := EntityId.empty
  tokenId : EntityId := EntityId.empty
  serialNumber : Option Int := none
  amount : Int := 0
deriving DecidableEq, Repr, Inhabited

/-- Reads a `PendingAirdropRecord`, every field optional. -/
def PendingAirdropRecord.decoder : Decoder PendingAirdropRecord :=
  Decoder.struct "PendingAirdropRecord" <|
    PendingAirdropRecord.mk <$>
      Fields.withDefault "sender_account_id" EntityId.decoder EntityId.empty
      <*> Fields.withDefault "receiver_account_id" EntityId.decoder EntityId.empty
      <*> Fields.withDefault "token_id" EntityId.decoder EntityId.empty
      <*> Fields.opt "serial_number" Decoder.i64
      <*> Fields.withDefault "amount" Decoder.i64 0

/-- An event log of a contract execution. -/
structure ContractLogInfo where
  contractId : EntityId := EntityId.empty
  bloom : List UInt8 := []
  data : List UInt8 := []
  topics : List (List UInt8) := []
deriving DecidableEq, Repr, Inhabited

/-- Reads a `ContractLogInfo`, every field optional. -/
def ContractLogInfo.decoder : Decoder ContractLogInfo :=
  Decoder.struct "ContractLogInfo" <|
    ContractLogInfo.mk <$> Fields.withDefault "contract_id" EntityId.decoder EntityId.empty
      <*> Fields.withDefault "bloom" Decoder.bytes []
      <*> Fields.withDefault "data" Decoder.bytes []
      <*> Fields.withDefault "topics" (Decoder.list Decoder.bytes) []

/-- What a contract execution returned. -/
structure ContractFunctionResult where
  contractId : Option EntityId := none
  amount : Int := 0
  bloom : List UInt8 := []
  contractCallResult : List UInt8 := []
  createdContractIds : List EntityId := []
  errorMessage : Option String := none
  evmAddress : Option (List UInt8) := none
  functionParameters : List UInt8 := []
  gas : Int := 0
  gasUsed : Int := 0
  logs : List ContractLogInfo := []
  senderId : Option EntityId := none
  signerNonce : Option Int := none
deriving DecidableEq, Repr, Inhabited

/-- Reads a `ContractFunctionResult`, every field optional. -/
def ContractFunctionResult.decoder : Decoder ContractFunctionResult :=
  Decoder.struct "ContractFunctionResult" <|
    ContractFunctionResult.mk <$> Fields.opt "contract_id" EntityId.decoder
      <*> Fields.withDefault "amount" Decoder.i64 0
      <*> Fields.withDefault "bloom" Decoder.bytes []
      <*> Fields.withDefault "contract_call_result" Decoder.bytes []
      <*> Fields.withDefault "created_contract_ids" (Decoder.list EntityId.decoder) []
      <*> Fields.opt "error_message" Decoder.string
      <*> Fields.opt "evm_address" Decoder.bytes
      <*> Fields.withDefault "function_parameters" Decoder.bytes []
      <*> Fields.withDefault "gas" Decoder.i64 0
      <*> Fields.withDefault "gas_used" Decoder.i64 0
      <*> Fields.withDefault "logs" (Decoder.list ContractLogInfo.decoder) []
      <*> Fields.opt "sender_id" EntityId.decoder
      <*> Fields.opt "signer_nonce" Decoder.i64

/-- What the record adds beyond the receipt: transfers, associations, results. -/
structure TransactionRecordExtras where
  «alias» : List UInt8 := []
  automaticTokenAssociations : List TokenAssociation := []
  contractFunctionResult : Option ContractFunctionResult := none
  ethereumHash : List UInt8 := []
  evmAddress : List UInt8 := []
  newPendingAirdrops : List PendingAirdropRecord := []
  prngBytes : Option (List UInt8) := none
  prngNumber : Option Int := none
  scheduleRef : Option EntityId := none
  tokenTransferLists : List TokenTransferList := []
  transferList : List AccountAmount := []
deriving DecidableEq, Repr, Inhabited

/-- Reads a `TransactionRecordExtras`, every field optional. -/
def TransactionRecordExtras.decoder : Decoder TransactionRecordExtras :=
  Decoder.struct "TransactionRecordExtras" <|
    TransactionRecordExtras.mk <$> Fields.withDefault "alias" Decoder.bytes []
      <*> Fields.withDefault "automatic_token_associations"
          (Decoder.list TokenAssociation.decoder) []
      <*> Fields.opt "contract_function_result" ContractFunctionResult.decoder
      <*> Fields.withDefault "ethereum_hash" Decoder.bytes []
      <*> Fields.withDefault "evm_address" Decoder.bytes []
      <*> Fields.withDefault "new_pending_airdrops" (Decoder.list PendingAirdropRecord.decoder) []
      <*> Fields.opt "prng_bytes" Decoder.bytes
      <*> Fields.opt "prng_number" Decoder.i32
      <*> Fields.opt "schedule_ref" EntityId.decoder
      <*> Fields.withDefault "token_transfer_lists" (Decoder.list TokenTransferList.decoder) []
      <*> Fields.withDefault "transfer_list" (Decoder.list AccountAmount.decoder) []

/-- A storage slot read, and written when a value is given. -/
structure StorageChange where
  slot : List UInt8 := []
  valueRead : List UInt8 := []
  valueWritten : Option (List UInt8) := none
deriving DecidableEq, Repr, Inhabited

/-- Reads a `StorageChange`, every field optional. -/
def StorageChange.decoder : Decoder StorageChange :=
  Decoder.struct "StorageChange" <|
    StorageChange.mk <$> Fields.withDefault "slot" Decoder.bytes []
      <*> Fields.withDefault "value_read" Decoder.bytes []
      <*> Fields.opt "value_written" Decoder.bytes

/-- Extra data about contracts that a record carries beside it. -/
inductive SidecarRecord where
  /-- The bytecode of a contract. -/
  | bytecode (contractId : EntityId) (initcode runtimeBytecode : List UInt8)
  /-- Storage read and written by a contract. -/
  | stateChanges (contractId : EntityId) (migration : Bool) (storageChanges : List StorageChange)
deriving DecidableEq, Repr, Inhabited

/-- Read with the variant under `"kind"`: `bytecode` or `state_changes`. -/
def SidecarRecord.decoder : Decoder SidecarRecord :=
  Decoder.tagged "SidecarRecord" "kind" ["bytecode", "state_changes"] (fun name =>
    match name with
    | "bytecode" => some (Decoder.structVariant "SidecarRecord::Bytecode" <|
        SidecarRecord.bytecode <$> Fields.req "contract_id" EntityId.decoder
          <*> Fields.withDefault "initcode" Decoder.bytes []
          <*> Fields.withDefault "runtime_bytecode" Decoder.bytes [])
    | "state_changes" => some (Decoder.structVariant "SidecarRecord::StateChanges" <|
        SidecarRecord.stateChanges <$> Fields.req "contract_id" EntityId.decoder
          <*> Fields.withDefault "migration" Decoder.bool false
          <*> Fields.withDefault "storage_changes" (Decoder.list StorageChange.decoder) [])
    | _ => none) none

/-- The scheme of a signature. -/
inductive SignatureType where
  | contract
  | ed25519
  | rsa3072
  | ecdsa384
  | ecdsaSecp256k1
deriving DecidableEq, Repr, Inhabited

namespace SignatureType

/-- The numeric code of a scheme. -/
def code : SignatureType → Int
  | .contract => 2
  | .ed25519 => 3
  | .rsa3072 => 4
  | .ecdsa384 => 5
  | .ecdsaSecp256k1 => 6

/-- Read from its upper-case name. -/
def decoder : Decoder SignatureType :=
  Decoder.enum [("CONTRACT", .contract), ("ED25519", .ed25519), ("RSA3072", .rsa3072),
    ("ECDSA384", .ecdsa384), ("ECDSA_SECP256K1", .ecdsaSecp256k1)]

end SignatureType

/-- A signature over the transaction and the prefix of the key that made it. -/
structure SignaturePair where
  pubKeyPrefix : List UInt8 := []
  signature : List UInt8 := []
  signatureType : SignatureType := default
deriving DecidableEq, Repr, Inhabited

/-- Reads a `SignaturePair`. -/
def SignaturePair.decoder : Decoder SignaturePair :=
  Decoder.struct "SignaturePair" <|
    SignaturePair.mk <$> Fields.req "pub_key_prefix" Decoder.bytes
      <*> Fields.req "signature" Decoder.bytes
      <*> Fields.req "signature_type" SignatureType.decoder

/-- The protocol version a record was produced under. -/
structure HapiVersion where
  major : Nat := 0
  minor : Nat := 0
  patch : Nat := 0
deriving DecidableEq, Repr, Inhabited

/-- Reads a `HapiVersion`. -/
def HapiVersion.decoder : Decoder HapiVersion :=
  Decoder.struct "HapiVersion" <|
    HapiVersion.mk <$> Fields.req "major" Decoder.u32
      <*> Fields.req "minor" Decoder.u32
      <*> Fields.req "patch" Decoder.u32

end LedgerProjection
