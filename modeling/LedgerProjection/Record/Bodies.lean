import LedgerProjection.Record.Spec

/-!
# Transaction bodies

The body of each kind of transaction, as submitted. Every field may be absent and then takes
its default (empty, zero, false, none, or an unset patch).
-/

namespace LedgerProjection

/-- Creates a topic. -/
structure ConsensusCreateTopicBody where
  adminKey : Option (List UInt8) := none
  autoRenewAccount : Option EntityRef := none
  autoRenewPeriod : Option Int := none
  customFees : List CustomFeeSpec := []
  feeExemptKeyList : Option (List (List UInt8)) := none
  feeScheduleKey : Option (List UInt8) := none
  memo : String := ""
  submitKey : Option (List UInt8) := none
deriving DecidableEq, Repr, Inhabited

/-- Reads a `ConsensusCreateTopicBody`, every field optional. -/
def ConsensusCreateTopicBody.decoder : Decoder ConsensusCreateTopicBody :=
  Decoder.struct "ConsensusCreateTopicBody" <|
    ConsensusCreateTopicBody.mk <$> Fields.opt "admin_key" Decoder.bytes
      <*> Fields.opt "auto_renew_account" EntityRef.decoder
      <*> Fields.opt "auto_renew_period" Decoder.i64
      <*> Fields.withDefault "custom_fees" (Decoder.list CustomFeeSpec.decoder) []
      <*> Fields.opt "fee_exempt_key_list" (Decoder.list Decoder.bytes)
      <*> Fields.opt "fee_schedule_key" Decoder.bytes
      <*> Fields.withDefault "memo" Decoder.string ""
      <*> Fields.opt "submit_key" Decoder.bytes

/-- Updates a topic. -/
structure ConsensusUpdateTopicBody where
  topic : Option EntityRef := none
  adminKey : Patch (List UInt8) := .unset
  autoRenewAccount : Patch EntityRef := .unset
  autoRenewPeriod : Patch Int := .unset
  customFees : Patch (List CustomFeeSpec) := .unset
  expirationTime : Patch Int := .unset
  feeExemptKeyList : Patch (List (List UInt8)) := .unset
  feeScheduleKey : Patch (List UInt8) := .unset
  memo : Patch String := .unset
  submitKey : Patch (List UInt8) := .unset
deriving DecidableEq, Repr, Inhabited

/-- Reads a `ConsensusUpdateTopicBody`, every field optional. -/
def ConsensusUpdateTopicBody.decoder : Decoder ConsensusUpdateTopicBody :=
  Decoder.struct "ConsensusUpdateTopicBody" <|
    ConsensusUpdateTopicBody.mk <$> Fields.opt "topic" EntityRef.decoder
      <*> Fields.patch "admin_key" Decoder.bytes
      <*> Fields.patch "auto_renew_account" EntityRef.decoder
      <*> Fields.patch "auto_renew_period" Decoder.i64
      <*> Fields.patch "custom_fees" (Decoder.list CustomFeeSpec.decoder)
      <*> Fields.patch "expiration_time" Decoder.i64
      <*> Fields.patch "fee_exempt_key_list" (Decoder.list Decoder.bytes)
      <*> Fields.patch "fee_schedule_key" Decoder.bytes
      <*> Fields.patch "memo" Decoder.string
      <*> Fields.patch "submit_key" Decoder.bytes

/-- Names a topic. -/
structure TopicRefBody where
  topic : Option EntityRef := none
deriving DecidableEq, Repr, Inhabited

/-- Reads a `TopicRefBody`, every field optional. -/
def TopicRefBody.decoder : Decoder TopicRefBody :=
  Decoder.struct "TopicRefBody" <|
    TopicRefBody.mk <$> Fields.opt "topic" EntityRef.decoder

/-- Which chunk of a split message this is. -/
structure ChunkInfo where
  initialTransactionValidStart : Int := 0
  number : Int := 0
  total : Int := 0
deriving DecidableEq, Repr, Inhabited

/-- Reads a `ChunkInfo`, every field optional. -/
def ChunkInfo.decoder : Decoder ChunkInfo :=
  Decoder.struct "ChunkInfo" <|
    ChunkInfo.mk <$> Fields.withDefault "initial_transaction_valid_start" Decoder.i64 0
      <*> Fields.withDefault "number" Decoder.i32 0
      <*> Fields.withDefault "total" Decoder.i32 0

/-- Submits a message to a topic. -/
structure ConsensusSubmitMessageBody where
  topic : Option EntityRef := none
  message : List UInt8 := []
  chunkInfo : Option ChunkInfo := none
deriving DecidableEq, Repr, Inhabited

/-- Reads a `ConsensusSubmitMessageBody`, every field optional. -/
def ConsensusSubmitMessageBody.decoder : Decoder ConsensusSubmitMessageBody :=
  Decoder.struct "ConsensusSubmitMessageBody" <|
    ConsensusSubmitMessageBody.mk <$> Fields.opt "topic" EntityRef.decoder
      <*> Fields.withDefault "message" Decoder.bytes []
      <*> Fields.opt "chunk_info" ChunkInfo.decoder

/-- Calls a contract. -/
structure ContractCallBody where
  contract : Option EntityRef := none
  amount : Int := 0
  functionParameters : List UInt8 := []
  gas : Int := 0
deriving DecidableEq, Repr, Inhabited

/-- Reads a `ContractCallBody`, every field optional. -/
def ContractCallBody.decoder : Decoder ContractCallBody :=
  Decoder.struct "ContractCallBody" <|
    ContractCallBody.mk <$> Fields.opt "contract" EntityRef.decoder
      <*> Fields.withDefault "amount" Decoder.i64 0
      <*> Fields.withDefault "function_parameters" Decoder.bytes []
      <*> Fields.withDefault "gas" Decoder.i64 0

/-- Creates a contract. -/
structure ContractCreateBody where
  adminKey : Option (List UInt8) := none
  autoRenewAccount : Option EntityRef := none
  autoRenewPeriod : Option Int := none
  constructorParameters : List UInt8 := []
  declineReward : Bool := false
  fileId : Option EntityId := none
  gas : Int := 0
  hookCreationDetails : List HookCreationDetails := []
  initialBalance : Int := 0
  initcode : Option (List UInt8) := none
  maxAutomaticTokenAssociations : Option Int := none
  memo : String := ""
  stakedAccount : Option EntityRef := none
  stakedNodeId : Option Int := none
deriving DecidableEq, Repr, Inhabited

/-- Reads a `ContractCreateBody`, every field optional. -/
def ContractCreateBody.decoder : Decoder ContractCreateBody :=
  Decoder.struct "ContractCreateBody" <|
    ContractCreateBody.mk <$> Fields.opt "admin_key" Decoder.bytes
      <*> Fields.opt "auto_renew_account" EntityRef.decoder
      <*> Fields.opt "auto_renew_period" Decoder.i64
      <*> Fields.withDefault "constructor_parameters" Decoder.bytes []
      <*> Fields.withDefault "decline_reward" Decoder.bool false
      <*> Fields.opt "file_id" EntityId.decoder
      <*> Fields.withDefault "gas" Decoder.i64 0
      <*> Fields.withDefault "hook_creation_details" (Decoder.list HookCreationDetails.decoder) []
      <*> Fields.withDefault "initial_balance" Decoder.i64 0
      <*> Fields.opt "initcode" Decoder.bytes
      <*> Fields.opt "max_automatic_token_associations" Decoder.i32
      <*> Fields.withDefault "memo" Decoder.string ""
      <*> Fields.opt "staked_account" EntityRef.decoder
      <*> Fields.opt "staked_node_id" Decoder.i64

/-- Updates a contract. -/
structure ContractUpdateBody where
  contract : Option EntityRef := none
  adminKey : Patch (List UInt8) := .unset
  autoRenewAccount : Patch EntityRef := .unset
  autoRenewPeriod : Patch Int := .unset
  declineReward : Patch Bool := .unset
  expirationTime : Patch Int := .unset
  hookCreationDetails : List HookCreationDetails := []
  hookIdsToDelete : List Int := []
  maxAutomaticTokenAssociations : Patch Int := .unset
  memo : Patch String := .unset
  stakedAccount : Patch EntityRef := .unset
  stakedNodeId : Patch Int := .unset
deriving DecidableEq, Repr, Inhabited

/-- Reads a `ContractUpdateBody`, every field optional. -/
def ContractUpdateBody.decoder : Decoder ContractUpdateBody :=
  Decoder.struct "ContractUpdateBody" <|
    ContractUpdateBody.mk <$> Fields.opt "contract" EntityRef.decoder
      <*> Fields.patch "admin_key" Decoder.bytes
      <*> Fields.patch "auto_renew_account" EntityRef.decoder
      <*> Fields.patch "auto_renew_period" Decoder.i64
      <*> Fields.patch "decline_reward" Decoder.bool
      <*> Fields.patch "expiration_time" Decoder.i64
      <*> Fields.withDefault "hook_creation_details" (Decoder.list HookCreationDetails.decoder) []
      <*> Fields.withDefault "hook_ids_to_delete" (Decoder.list Decoder.i64) []
      <*> Fields.patch "max_automatic_token_associations" Decoder.i32
      <*> Fields.patch "memo" Decoder.string
      <*> Fields.patch "staked_account" EntityRef.decoder
      <*> Fields.patch "staked_node_id" Decoder.i64

/-- Deletes a contract. -/
structure ContractDeleteBody where
  contract : Option EntityRef := none
  permanentRemoval : Bool := false
  transferAccount : Option EntityRef := none
  transferContract : Option EntityRef := none
deriving DecidableEq, Repr, Inhabited

/-- Reads a `ContractDeleteBody`, every field optional. -/
def ContractDeleteBody.decoder : Decoder ContractDeleteBody :=
  Decoder.struct "ContractDeleteBody" <|
    ContractDeleteBody.mk <$> Fields.opt "contract" EntityRef.decoder
      <*> Fields.withDefault "permanent_removal" Decoder.bool false
      <*> Fields.opt "transfer_account" EntityRef.decoder
      <*> Fields.opt "transfer_contract" EntityRef.decoder

/-- Carries an Ethereum transaction. -/
structure EthereumTransactionBody where
  ethereumData : List UInt8 := []
  callDataId : Option EntityId := none
  maxGasAllowance : Int := 0
  callData : List UInt8 := []
  chainId : Option (List UInt8) := none
  gasLimit : Int := 0
  gasPrice : Option (List UInt8) := none
  maxFeePerGas : Option (List UInt8) := none
  maxPriorityFeePerGas : Option (List UInt8) := none
  nonce : Int := 0
  signatureR : Option (List UInt8) := none
  signatureS : Option (List UInt8) := none
  toAddress : Option (List UInt8) := none
  transactionType : Int := 0
  value : Option (List UInt8) := none
deriving DecidableEq, Repr, Inhabited

/-- Reads a `EthereumTransactionBody`, every field optional. -/
def EthereumTransactionBody.decoder : Decoder EthereumTransactionBody :=
  Decoder.struct "EthereumTransactionBody" <|
    EthereumTransactionBody.mk <$> Fields.withDefault "ethereum_data" Decoder.bytes []
      <*> Fields.opt "call_data_id" EntityId.decoder
      <*> Fields.withDefault "max_gas_allowance" Decoder.i64 0
      <*> Fields.withDefault "call_data" Decoder.bytes []
      <*> Fields.opt "chain_id" Decoder.bytes
      <*> Fields.withDefault "gas_limit" Decoder.i64 0
      <*> Fields.opt "gas_price" Decoder.bytes
      <*> Fields.opt "max_fee_per_gas" Decoder.bytes
      <*> Fields.opt "max_priority_fee_per_gas" Decoder.bytes
      <*> Fields.withDefault "nonce" Decoder.i64 0
      <*> Fields.opt "signature_r" Decoder.bytes
      <*> Fields.opt "signature_s" Decoder.bytes
      <*> Fields.opt "to_address" Decoder.bytes
      <*> Fields.withDefault "transaction_type" Decoder.i32 0
      <*> Fields.opt "value" Decoder.bytes

/-- Adds or removes a live hash. -/
structure LiveHashBody where
  account : Option EntityRef := none
  hash : List UInt8 := []
deriving DecidableEq, Repr, Inhabited

/-- Reads a `LiveHashBody`, every field optional. -/
def LiveHashBody.decoder : Decoder LiveHashBody :=
  Decoder.struct "LiveHashBody" <|
    LiveHashBody.mk <$> Fields.opt "account" EntityRef.decoder
      <*> Fields.withDefault "hash" Decoder.bytes []

/-- An hbar allowance granted. -/
structure CryptoAllowanceGrant where
  owner : Option EntityRef := none
  spender : Option EntityRef := none
  amount : Int := 0
deriving DecidableEq, Repr, Inhabited

/-- Reads a `CryptoAllowanceGrant`, every field optional. -/
def CryptoAllowanceGrant.decoder : Decoder CryptoAllowanceGrant :=
  Decoder.struct "CryptoAllowanceGrant" <|
    CryptoAllowanceGrant.mk <$> Fields.opt "owner" EntityRef.decoder
      <*> Fields.opt "spender" EntityRef.decoder
      <*> Fields.withDefault "amount" Decoder.i64 0

/-- A fungible token allowance granted. -/
structure TokenAllowanceGrant where
  owner : Option EntityRef := none
  spender : Option EntityRef := none
  tokenId : EntityId := EntityId.empty
  amount : Int := 0
deriving DecidableEq, Repr, Inhabited

/-- Reads a `TokenAllowanceGrant`, every field optional. -/
def TokenAllowanceGrant.decoder : Decoder TokenAllowanceGrant :=
  Decoder.struct "TokenAllowanceGrant" <|
    TokenAllowanceGrant.mk <$> Fields.opt "owner" EntityRef.decoder
      <*> Fields.opt "spender" EntityRef.decoder
      <*> Fields.withDefault "token_id" EntityId.decoder EntityId.empty
      <*> Fields.withDefault "amount" Decoder.i64 0

/-- An allowance over serials of a unique token, or over all of them. -/
structure NftAllowanceGrant where
  owner : Option EntityRef := none
  spender : Option EntityRef := none
  tokenId : EntityId := EntityId.empty
  approvedForAll : Patch Bool := .unset
  delegatingSpender : Option EntityRef := none
  serialNumbers : List Int := []
deriving DecidableEq, Repr, Inhabited

/-- Reads a `NftAllowanceGrant`, every field optional. -/
def NftAllowanceGrant.decoder : Decoder NftAllowanceGrant :=
  Decoder.struct "NftAllowanceGrant" <|
    NftAllowanceGrant.mk <$> Fields.opt "owner" EntityRef.decoder
      <*> Fields.opt "spender" EntityRef.decoder
      <*> Fields.withDefault "token_id" EntityId.decoder EntityId.empty
      <*> Fields.patch "approved_for_all" Decoder.bool
      <*> Fields.opt "delegating_spender" EntityRef.decoder
      <*> Fields.withDefault "serial_numbers" (Decoder.list Decoder.i64) []

/-- Grants allowances. -/
structure CryptoApproveAllowanceBody where
  cryptoAllowances : List CryptoAllowanceGrant := []
  nftAllowances : List NftAllowanceGrant := []
  tokenAllowances : List TokenAllowanceGrant := []
deriving DecidableEq, Repr, Inhabited

/-- Reads a `CryptoApproveAllowanceBody`, every field optional. -/
def CryptoApproveAllowanceBody.decoder : Decoder CryptoApproveAllowanceBody :=
  Decoder.struct "CryptoApproveAllowanceBody" <|
    CryptoApproveAllowanceBody.mk <$>
      Fields.withDefault "crypto_allowances" (Decoder.list CryptoAllowanceGrant.decoder) []
      <*> Fields.withDefault "nft_allowances" (Decoder.list NftAllowanceGrant.decoder) []
      <*> Fields.withDefault "token_allowances" (Decoder.list TokenAllowanceGrant.decoder) []

/-- Serials whose spender approval is withdrawn. -/
structure NftRemoveAllowance where
  owner : Option EntityRef := none
  tokenId : EntityId := EntityId.empty
  serialNumbers : List Int := []
deriving DecidableEq, Repr, Inhabited

/-- Reads a `NftRemoveAllowance`, every field optional. -/
def NftRemoveAllowance.decoder : Decoder NftRemoveAllowance :=
  Decoder.struct "NftRemoveAllowance" <|
    NftRemoveAllowance.mk <$> Fields.opt "owner" EntityRef.decoder
      <*> Fields.withDefault "token_id" EntityId.decoder EntityId.empty
      <*> Fields.withDefault "serial_numbers" (Decoder.list Decoder.i64) []

/-- Withdraws serial approvals. -/
structure CryptoDeleteAllowanceBody where
  nftAllowances : List NftRemoveAllowance := []
deriving DecidableEq, Repr, Inhabited

/-- Reads a `CryptoDeleteAllowanceBody`, every field optional. -/
def CryptoDeleteAllowanceBody.decoder : Decoder CryptoDeleteAllowanceBody :=
  Decoder.struct "CryptoDeleteAllowanceBody" <|
    CryptoDeleteAllowanceBody.mk <$>
      Fields.withDefault "nft_allowances" (Decoder.list NftRemoveAllowance.decoder) []

/-- Creates an account. -/
structure CryptoCreateBody where
  «alias» : List UInt8 := []
  autoRenewPeriod : Option Int := none
  declineReward : Bool := false
  hookCreationDetails : List HookCreationDetails := []
  initialBalance : Int := 0
  key : Option (List UInt8) := none
  maxAutomaticTokenAssociations : Option Int := none
  memo : String := ""
  proxyAccount : Option EntityRef := none
  receiverSigRequired : Bool := false
  stakedAccount : Option EntityRef := none
  stakedNodeId : Option Int := none
deriving DecidableEq, Repr, Inhabited

/-- Reads a `CryptoCreateBody`, every field optional. -/
def CryptoCreateBody.decoder : Decoder CryptoCreateBody :=
  Decoder.struct "CryptoCreateBody" <|
    CryptoCreateBody.mk <$> Fields.withDefault "alias" Decoder.bytes []
      <*> Fields.opt "auto_renew_period" Decoder.i64
      <*> Fields.withDefault "decline_reward" Decoder.bool false
      <*> Fields.withDefault "hook_creation_details" (Decoder.list HookCreationDetails.decoder) []
      <*> Fields.withDefault "initial_balance" Decoder.i64 0
      <*> Fields.opt "key" Decoder.bytes
      <*> Fields.opt "max_automatic_token_associations" Decoder.i32
      <*> Fields.withDefault "memo" Decoder.string ""
      <*> Fields.opt "proxy_account" EntityRef.decoder
      <*> Fields.withDefault "receiver_sig_required" Decoder.bool false
      <*> Fields.opt "staked_account" EntityRef.decoder
      <*> Fields.opt "staked_node_id" Decoder.i64

/-- Updates an account. -/
structure CryptoUpdateBody where
  account : Option EntityRef := none
  autoRenewPeriod : Patch Int := .unset
  declineReward : Patch Bool := .unset
  expirationTime : Patch Int := .unset
  hookCreationDetails : List HookCreationDetails := []
  hookIdsToDelete : List Int := []
  key : Patch (List UInt8) := .unset
  maxAutomaticTokenAssociations : Patch Int := .unset
  memo : Patch String := .unset
  proxyAccount : Patch EntityRef := .unset
  receiverSigRequired : Patch Bool := .unset
  stakedAccount : Patch EntityRef := .unset
  stakedNodeId : Patch Int := .unset
deriving DecidableEq, Repr, Inhabited

/-- Reads a `CryptoUpdateBody`, every field optional. -/
def CryptoUpdateBody.decoder : Decoder CryptoUpdateBody :=
  Decoder.struct "CryptoUpdateBody" <|
    CryptoUpdateBody.mk <$> Fields.opt "account" EntityRef.decoder
      <*> Fields.patch "auto_renew_period" Decoder.i64
      <*> Fields.patch "decline_reward" Decoder.bool
      <*> Fields.patch "expiration_time" Decoder.i64
      <*> Fields.withDefault "hook_creation_details" (Decoder.list HookCreationDetails.decoder) []
      <*> Fields.withDefault "hook_ids_to_delete" (Decoder.list Decoder.i64) []
      <*> Fields.patch "key" Decoder.bytes
      <*> Fields.patch "max_automatic_token_associations" Decoder.i32
      <*> Fields.patch "memo" Decoder.string
      <*> Fields.patch "proxy_account" EntityRef.decoder
      <*> Fields.patch "receiver_sig_required" Decoder.bool
      <*> Fields.patch "staked_account" EntityRef.decoder
      <*> Fields.patch "staked_node_id" Decoder.i64

/-- Deletes an account. -/
structure CryptoDeleteBody where
  account : Option EntityRef := none
  transferAccount : Option EntityRef := none
deriving DecidableEq, Repr, Inhabited

/-- Reads a `CryptoDeleteBody`, every field optional. -/
def CryptoDeleteBody.decoder : Decoder CryptoDeleteBody :=
  Decoder.struct "CryptoDeleteBody" <|
    CryptoDeleteBody.mk <$> Fields.opt "account" EntityRef.decoder
      <*> Fields.opt "transfer_account" EntityRef.decoder

/-- One hbar or fungible amount moved, by reference. -/
structure TransferRef where
  account : Option EntityRef := none
  amount : Int := 0
  isApproval : Bool := false
deriving DecidableEq, Repr, Inhabited

/-- Reads a `TransferRef`, every field optional. -/
def TransferRef.decoder : Decoder TransferRef :=
  Decoder.struct "TransferRef" <|
    TransferRef.mk <$> Fields.opt "account" EntityRef.decoder
      <*> Fields.withDefault "amount" Decoder.i64 0
      <*> Fields.withDefault "is_approval" Decoder.bool false

/-- One serial moved, by reference. -/
structure NftTransferRef where
  sender : Option EntityRef := none
  receiver : Option EntityRef := none
  serialNumber : Int := 0
  isApproval : Bool := false
deriving DecidableEq, Repr, Inhabited

/-- Reads a `NftTransferRef`, every field optional. -/
def NftTransferRef.decoder : Decoder NftTransferRef :=
  Decoder.struct "NftTransferRef" <|
    NftTransferRef.mk <$> Fields.opt "sender" EntityRef.decoder
      <*> Fields.opt "receiver" EntityRef.decoder
      <*> Fields.withDefault "serial_number" Decoder.i64 0
      <*> Fields.withDefault "is_approval" Decoder.bool false

/-- The moves of one token, by reference. -/
structure TokenTransferRefs where
  tokenId : EntityId := EntityId.empty
  transfers : List TransferRef := []
  nftTransfers : List NftTransferRef := []
deriving DecidableEq, Repr, Inhabited

/-- Reads a `TokenTransferRefs`, every field optional. -/
def TokenTransferRefs.decoder : Decoder TokenTransferRefs :=
  Decoder.struct "TokenTransferRefs" <|
    TokenTransferRefs.mk <$> Fields.withDefault "token_id" EntityId.decoder EntityId.empty
      <*> Fields.withDefault "transfers" (Decoder.list TransferRef.decoder) []
      <*> Fields.withDefault "nft_transfers" (Decoder.list NftTransferRef.decoder) []

/-- Moves hbar and tokens. -/
structure CryptoTransferBody where
  transfers : List TransferRef := []
  tokenTransfers : List TokenTransferRefs := []
deriving DecidableEq, Repr, Inhabited

/-- Reads a `CryptoTransferBody`, every field optional. -/
def CryptoTransferBody.decoder : Decoder CryptoTransferBody :=
  Decoder.struct "CryptoTransferBody" <|
    CryptoTransferBody.mk <$> Fields.withDefault "transfers" (Decoder.list TransferRef.decoder) []
      <*> Fields.withDefault "token_transfers" (Decoder.list TokenTransferRefs.decoder) []

/-- Creates a file. -/
structure FileCreateBody where
  contents : List UInt8 := []
  expirationTime : Option Int := none
  keys : Option (List (List UInt8)) := none
  memo : String := ""
deriving DecidableEq, Repr, Inhabited

/-- Reads a `FileCreateBody`, every field optional. -/
def FileCreateBody.decoder : Decoder FileCreateBody :=
  Decoder.struct "FileCreateBody" <|
    FileCreateBody.mk <$> Fields.withDefault "contents" Decoder.bytes []
      <*> Fields.opt "expiration_time" Decoder.i64
      <*> Fields.opt "keys" (Decoder.list Decoder.bytes)
      <*> Fields.withDefault "memo" Decoder.string ""

/-- Updates a file. -/
structure FileUpdateBody where
  file : Option EntityId := none
  contents : Patch (List UInt8) := .unset
  expirationTime : Patch Int := .unset
  keys : Patch (List (List UInt8)) := .unset
  memo : Patch String := .unset
deriving DecidableEq, Repr, Inhabited

/-- Reads a `FileUpdateBody`, every field optional. -/
def FileUpdateBody.decoder : Decoder FileUpdateBody :=
  Decoder.struct "FileUpdateBody" <|
    FileUpdateBody.mk <$> Fields.opt "file" EntityId.decoder
      <*> Fields.patch "contents" Decoder.bytes
      <*> Fields.patch "expiration_time" Decoder.i64
      <*> Fields.patch "keys" (Decoder.list Decoder.bytes)
      <*> Fields.patch "memo" Decoder.string

/-- Appends to a file. -/
structure FileAppendBody where
  file : Option EntityId := none
  contents : List UInt8 := []
deriving DecidableEq, Repr, Inhabited

/-- Reads a `FileAppendBody`, every field optional. -/
def FileAppendBody.decoder : Decoder FileAppendBody :=
  Decoder.struct "FileAppendBody" <|
    FileAppendBody.mk <$> Fields.opt "file" EntityId.decoder
      <*> Fields.withDefault "contents" Decoder.bytes []

/-- Names a file. -/
structure FileRefBody where
  file : Option EntityId := none
deriving DecidableEq, Repr, Inhabited

/-- Reads a `FileRefBody`, every field optional. -/
def FileRefBody.decoder : Decoder FileRefBody :=
  Decoder.struct "FileRefBody" <|
    FileRefBody.mk <$> Fields.opt "file" EntityId.decoder

/-- Deletes a file or contract by administrative action. -/
structure SystemDeleteBody where
  contract : Option EntityRef := none
  file : Option EntityId := none
  expirationTime : Option Int := none
deriving DecidableEq, Repr, Inhabited

/-- Reads a `SystemDeleteBody`, every field optional. -/
def SystemDeleteBody.decoder : Decoder SystemDeleteBody :=
  Decoder.struct "SystemDeleteBody" <|
    SystemDeleteBody.mk <$> Fields.opt "contract" EntityRef.decoder
      <*> Fields.opt "file" EntityId.decoder
      <*> Fields.opt "expiration_time" Decoder.i64

/-- Restores a file or contract by administrative action. -/
structure SystemUndeleteBody where
  contract : Option EntityRef := none
  file : Option EntityId := none
deriving DecidableEq, Repr, Inhabited

/-- Reads a `SystemUndeleteBody`, every field optional. -/
def SystemUndeleteBody.decoder : Decoder SystemUndeleteBody :=
  Decoder.struct "SystemUndeleteBody" <|
    SystemUndeleteBody.mk <$> Fields.opt "contract" EntityRef.decoder
      <*> Fields.opt "file" EntityId.decoder

/-- Schedules a network freeze. -/
structure FreezeBody where
  fileHash : List UInt8 := []
  fileId : Option EntityId := none
  freezeType : Int := 0
  startTime : Option Int := none
deriving DecidableEq, Repr, Inhabited

/-- Reads a `FreezeBody`, every field optional. -/
def FreezeBody.decoder : Decoder FreezeBody :=
  Decoder.struct "FreezeBody" <|
    FreezeBody.mk <$> Fields.withDefault "file_hash" Decoder.bytes []
      <*> Fields.opt "file_id" EntityId.decoder
      <*> Fields.withDefault "freeze_type" Decoder.i32 0
      <*> Fields.opt "start_time" Decoder.i64

/-- Adds a consensus node. -/
structure NodeCreateBody where
  account : Option EntityRef := none
  adminKey : Option (List UInt8) := none
  declineReward : Bool := false
  description : String := ""
deriving DecidableEq, Repr, Inhabited

/-- Reads a `NodeCreateBody`, every field optional. -/
def NodeCreateBody.decoder : Decoder NodeCreateBody :=
  Decoder.struct "NodeCreateBody" <|
    NodeCreateBody.mk <$> Fields.opt "account" EntityRef.decoder
      <*> Fields.opt "admin_key" Decoder.bytes
      <*> Fields.withDefault "decline_reward" Decoder.bool false
      <*> Fields.withDefault "description" Decoder.string ""

/-- Updates a consensus node. -/
structure NodeUpdateBody where
  nodeId : Int := 0
  account : Patch EntityRef := .unset
  adminKey : Patch (List UInt8) := .unset
  declineReward : Patch Bool := .unset
  description : Patch String := .unset
deriving DecidableEq, Repr, Inhabited

/-- Reads a `NodeUpdateBody`, every field optional. -/
def NodeUpdateBody.decoder : Decoder NodeUpdateBody :=
  Decoder.struct "NodeUpdateBody" <|
    NodeUpdateBody.mk <$> Fields.withDefault "node_id" Decoder.i64 0
      <*> Fields.patch "account" EntityRef.decoder
      <*> Fields.patch "admin_key" Decoder.bytes
      <*> Fields.patch "decline_reward" Decoder.bool
      <*> Fields.patch "description" Decoder.string

/-- Removes a consensus node. -/
structure NodeDeleteBody where
  nodeId : Int := 0
deriving DecidableEq, Repr, Inhabited

/-- Reads a `NodeDeleteBody`, every field optional. -/
def NodeDeleteBody.decoder : Decoder NodeDeleteBody :=
  Decoder.struct "NodeDeleteBody" <|
    NodeDeleteBody.mk <$> Fields.withDefault "node_id" Decoder.i64 0

/-- One node's staking figures. -/
structure NodeStakeEntry where
  nodeId : Int := 0
  maxStake : Int := 0
  minStake : Int := 0
  rewardRate : Int := 0
  stake : Int := 0
  stakeNotRewarded : Int := 0
  stakeRewarded : Int := 0
deriving DecidableEq, Repr, Inhabited

/-- Reads a `NodeStakeEntry`, every field optional. -/
def NodeStakeEntry.decoder : Decoder NodeStakeEntry :=
  Decoder.struct "NodeStakeEntry" <|
    NodeStakeEntry.mk <$> Fields.withDefault "node_id" Decoder.i64 0
      <*> Fields.withDefault "max_stake" Decoder.i64 0
      <*> Fields.withDefault "min_stake" Decoder.i64 0
      <*> Fields.withDefault "reward_rate" Decoder.i64 0
      <*> Fields.withDefault "stake" Decoder.i64 0
      <*> Fields.withDefault "stake_not_rewarded" Decoder.i64 0
      <*> Fields.withDefault "stake_rewarded" Decoder.i64 0

/-- Reports the staking figures at the end of a period. -/
structure NodeStakeUpdateBody where
  endOfStakingPeriod : Int := 0
  nodeStakes : List NodeStakeEntry := []
  stakingPeriod : Int := 0
deriving DecidableEq, Repr, Inhabited

/-- Reads a `NodeStakeUpdateBody`, every field optional. -/
def NodeStakeUpdateBody.decoder : Decoder NodeStakeUpdateBody :=
  Decoder.struct "NodeStakeUpdateBody" <|
    NodeStakeUpdateBody.mk <$> Fields.withDefault "end_of_staking_period" Decoder.i64 0
      <*> Fields.withDefault "node_stakes" (Decoder.list NodeStakeEntry.decoder) []
      <*> Fields.withDefault "staking_period" Decoder.i64 0

/-- Asks for a pseudo-random value, in a range when positive. -/
structure UtilPrngBody where
  range : Int := 0
deriving DecidableEq, Repr, Inhabited

/-- Reads a `UtilPrngBody`, every field optional. -/
def UtilPrngBody.decoder : Decoder UtilPrngBody :=
  Decoder.struct "UtilPrngBody" <|
    UtilPrngBody.mk <$> Fields.withDefault "range" Decoder.i32 0

/-- A transaction carried as bytes. -/
structure OpaqueBody where
  transactionBytes : List UInt8 := []
deriving DecidableEq, Repr, Inhabited

/-- Reads a `OpaqueBody`, every field optional. -/
def OpaqueBody.decoder : Decoder OpaqueBody :=
  Decoder.struct "OpaqueBody" <|
    OpaqueBody.mk <$> Fields.withDefault "transaction_bytes" Decoder.bytes []

/-- Transactions executed together. -/
structure AtomicBatchBody where
  transactions : List (List UInt8) := []
deriving DecidableEq, Repr, Inhabited

/-- Reads a `AtomicBatchBody`, every field optional. -/
def AtomicBatchBody.decoder : Decoder AtomicBatchBody :=
  Decoder.struct "AtomicBatchBody" <|
    AtomicBatchBody.mk <$> Fields.withDefault "transactions" (Decoder.list Decoder.bytes) []

/-- Creates a scheduled transaction. -/
structure ScheduleCreateBody where
  adminKey : Option (List UInt8) := none
  expirationTime : Option Int := none
  memo : String := ""
  payerAccount : Option EntityRef := none
  scheduledTransactionBody : List UInt8 := []
  waitForExpiry : Bool := false
deriving DecidableEq, Repr, Inhabited

/-- Reads a `ScheduleCreateBody`, every field optional. -/
def ScheduleCreateBody.decoder : Decoder ScheduleCreateBody :=
  Decoder.struct "ScheduleCreateBody" <|
    ScheduleCreateBody.mk <$> Fields.opt "admin_key" Decoder.bytes
      <*> Fields.opt "expiration_time" Decoder.i64
      <*> Fields.withDefault "memo" Decoder.string ""
      <*> Fields.opt "payer_account" EntityRef.decoder
      <*> Fields.withDefault "scheduled_transaction_body" Decoder.bytes []
      <*> Fields.withDefault "wait_for_expiry" Decoder.bool false

/-- Names a schedule. -/
structure ScheduleRefBody where
  schedule : Option EntityId := none
deriving DecidableEq, Repr, Inhabited

/-- Reads a `ScheduleRefBody`, every field optional. -/
def ScheduleRefBody.decoder : Decoder ScheduleRefBody :=
  Decoder.struct "ScheduleRefBody" <|
    ScheduleRefBody.mk <$> Fields.opt "schedule" EntityId.decoder

/-- Creates a token. -/
structure TokenCreateBody where
  adminKey : Option (List UInt8) := none
  autoRenewAccount : Option EntityRef := none
  autoRenewPeriod : Option Int := none
  customFees : List CustomFeeSpec := []
  decimals : Int := 0
  expirationTime : Option Int := none
  feeScheduleKey : Option (List UInt8) := none
  freezeDefault : Bool := false
  freezeKey : Option (List UInt8) := none
  initialSupply : Int := 0
  kycKey : Option (List UInt8) := none
  maxSupply : Int := 0
  memo : String := ""
  metadata : List UInt8 := []
  metadataKey : Option (List UInt8) := none
  name : String := ""
  pauseKey : Option (List UInt8) := none
  supplyKey : Option (List UInt8) := none
  supplyType : TokenSupplyType := default
  symbol : String := ""
  tokenType : TokenType := default
  treasury : Option EntityRef := none
  wipeKey : Option (List UInt8) := none
deriving DecidableEq, Repr, Inhabited

/-- Reads a `TokenCreateBody`, every field optional. -/
def TokenCreateBody.decoder : Decoder TokenCreateBody :=
  Decoder.struct "TokenCreateBody" <|
    TokenCreateBody.mk <$> Fields.opt "admin_key" Decoder.bytes
      <*> Fields.opt "auto_renew_account" EntityRef.decoder
      <*> Fields.opt "auto_renew_period" Decoder.i64
      <*> Fields.withDefault "custom_fees" (Decoder.list CustomFeeSpec.decoder) []
      <*> Fields.withDefault "decimals" Decoder.i32 0
      <*> Fields.opt "expiration_time" Decoder.i64
      <*> Fields.opt "fee_schedule_key" Decoder.bytes
      <*> Fields.withDefault "freeze_default" Decoder.bool false
      <*> Fields.opt "freeze_key" Decoder.bytes
      <*> Fields.withDefault "initial_supply" Decoder.i64 0
      <*> Fields.opt "kyc_key" Decoder.bytes
      <*> Fields.withDefault "max_supply" Decoder.i64 0
      <*> Fields.withDefault "memo" Decoder.string ""
      <*> Fields.withDefault "metadata" Decoder.bytes []
      <*> Fields.opt "metadata_key" Decoder.bytes
      <*> Fields.withDefault "name" Decoder.string ""
      <*> Fields.opt "pause_key" Decoder.bytes
      <*> Fields.opt "supply_key" Decoder.bytes
      <*> Fields.withDefault "supply_type" TokenSupplyType.decoder default
      <*> Fields.withDefault "symbol" Decoder.string ""
      <*> Fields.withDefault "token_type" TokenType.decoder default
      <*> Fields.opt "treasury" EntityRef.decoder
      <*> Fields.opt "wipe_key" Decoder.bytes

/-- Updates a token. -/
structure TokenUpdateBody where
  token : Option EntityId := none
  adminKey : Patch (List UInt8) := .unset
  autoRenewAccount : Patch EntityRef := .unset
  autoRenewPeriod : Patch Int := .unset
  expirationTime : Patch Int := .unset
  feeScheduleKey : Patch (List UInt8) := .unset
  freezeKey : Patch (List UInt8) := .unset
  kycKey : Patch (List UInt8) := .unset
  memo : Patch String := .unset
  metadata : Patch (List UInt8) := .unset
  metadataKey : Patch (List UInt8) := .unset
  name : Patch String := .unset
  pauseKey : Patch (List UInt8) := .unset
  supplyKey : Patch (List UInt8) := .unset
  symbol : Patch String := .unset
  treasury : Patch EntityRef := .unset
  wipeKey : Patch (List UInt8) := .unset
deriving DecidableEq, Repr, Inhabited

/-- Reads a `TokenUpdateBody`, every field optional. -/
def TokenUpdateBody.decoder : Decoder TokenUpdateBody :=
  Decoder.struct "TokenUpdateBody" <|
    TokenUpdateBody.mk <$> Fields.opt "token" EntityId.decoder
      <*> Fields.patch "admin_key" Decoder.bytes
      <*> Fields.patch "auto_renew_account" EntityRef.decoder
      <*> Fields.patch "auto_renew_period" Decoder.i64
      <*> Fields.patch "expiration_time" Decoder.i64
      <*> Fields.patch "fee_schedule_key" Decoder.bytes
      <*> Fields.patch "freeze_key" Decoder.bytes
      <*> Fields.patch "kyc_key" Decoder.bytes
      <*> Fields.patch "memo" Decoder.string
      <*> Fields.patch "metadata" Decoder.bytes
      <*> Fields.patch "metadata_key" Decoder.bytes
      <*> Fields.patch "name" Decoder.string
      <*> Fields.patch "pause_key" Decoder.bytes
      <*> Fields.patch "supply_key" Decoder.bytes
      <*> Fields.patch "symbol" Decoder.string
      <*> Fields.patch "treasury" EntityRef.decoder
      <*> Fields.patch "wipe_key" Decoder.bytes

/-- Names a token. -/
structure TokenRefBody where
  token : Option EntityId := none
deriving DecidableEq, Repr, Inhabited

/-- Reads a `TokenRefBody`, every field optional. -/
def TokenRefBody.decoder : Decoder TokenRefBody :=
  Decoder.struct "TokenRefBody" <|
    TokenRefBody.mk <$> Fields.opt "token" EntityId.decoder

/-- Replaces a token's fee schedule. -/
structure TokenFeeScheduleUpdateBody where
  token : Option EntityId := none
  customFees : List CustomFeeSpec := []
deriving DecidableEq, Repr, Inhabited

/-- Reads a `TokenFeeScheduleUpdateBody`, every field optional. -/
def TokenFeeScheduleUpdateBody.decoder : Decoder TokenFeeScheduleUpdateBody :=
  Decoder.struct "TokenFeeScheduleUpdateBody" <|
    TokenFeeScheduleUpdateBody.mk <$> Fields.opt "token" EntityId.decoder
      <*> Fields.withDefault "custom_fees" (Decoder.list CustomFeeSpec.decoder) []

/-- Names a token and an account holding it. -/
structure TokenAccountBody where
  token : Option EntityId := none
  account : Option EntityRef := none
deriving DecidableEq, Repr, Inhabited

/-- Reads a `TokenAccountBody`, every field optional. -/
def TokenAccountBody.decoder : Decoder TokenAccountBody :=
  Decoder.struct "TokenAccountBody" <|
    TokenAccountBody.mk <$> Fields.opt "token" EntityId.decoder
      <*> Fields.opt "account" EntityRef.decoder

/-- Links or unlinks an account and tokens. -/
structure TokenAssociationBody where
  account : Option EntityRef := none
  tokens : List EntityId := []
deriving DecidableEq, Repr, Inhabited

/-- Reads a `TokenAssociationBody`, every field optional. -/
def TokenAssociationBody.decoder : Decoder TokenAssociationBody :=
  Decoder.struct "TokenAssociationBody" <|
    TokenAssociationBody.mk <$> Fields.opt "account" EntityRef.decoder
      <*> Fields.withDefault "tokens" (Decoder.list EntityId.decoder) []

/-- Mints a token. -/
structure TokenMintBody where
  token : Option EntityId := none
  amount : Int := 0
  metadata : List (List UInt8) := []
deriving DecidableEq, Repr, Inhabited

/-- Reads a `TokenMintBody`, every field optional. -/
def TokenMintBody.decoder : Decoder TokenMintBody :=
  Decoder.struct "TokenMintBody" <|
    TokenMintBody.mk <$> Fields.opt "token" EntityId.decoder
      <*> Fields.withDefault "amount" Decoder.i64 0
      <*> Fields.withDefault "metadata" (Decoder.list Decoder.bytes) []

/-- Burns a token. -/
structure TokenBurnBody where
  token : Option EntityId := none
  amount : Int := 0
  serialNumbers : List Int := []
deriving DecidableEq, Repr, Inhabited

/-- Reads a `TokenBurnBody`, every field optional. -/
def TokenBurnBody.decoder : Decoder TokenBurnBody :=
  Decoder.struct "TokenBurnBody" <|
    TokenBurnBody.mk <$> Fields.opt "token" EntityId.decoder
      <*> Fields.withDefault "amount" Decoder.i64 0
      <*> Fields.withDefault "serial_numbers" (Decoder.list Decoder.i64) []

/-- Wipes a token from an account. -/
structure TokenWipeBody where
  token : Option EntityId := none
  account : Option EntityRef := none
  amount : Int := 0
  serialNumbers : List Int := []
deriving DecidableEq, Repr, Inhabited

/-- Reads a `TokenWipeBody`, every field optional. -/
def TokenWipeBody.decoder : Decoder TokenWipeBody :=
  Decoder.struct "TokenWipeBody" <|
    TokenWipeBody.mk <$> Fields.opt "token" EntityId.decoder
      <*> Fields.opt "account" EntityRef.decoder
      <*> Fields.withDefault "amount" Decoder.i64 0
      <*> Fields.withDefault "serial_numbers" (Decoder.list Decoder.i64) []

/-- A token, or one serial of it, given back. -/
structure TokenRejection where
  tokenId : EntityId := EntityId.empty
  serialNumber : Option Int := none
deriving DecidableEq, Repr, Inhabited

/-- Reads a `TokenRejection`, every field optional. -/
def TokenRejection.decoder : Decoder TokenRejection :=
  Decoder.struct "TokenRejection" <|
    TokenRejection.mk <$> Fields.withDefault "token_id" EntityId.decoder EntityId.empty
      <*> Fields.opt "serial_number" Decoder.i64

/-- Gives tokens back to their treasuries. -/
structure TokenRejectBody where
  owner : Option EntityRef := none
  rejections : List TokenRejection := []
deriving DecidableEq, Repr, Inhabited

/-- Reads a `TokenRejectBody`, every field optional. -/
def TokenRejectBody.decoder : Decoder TokenRejectBody :=
  Decoder.struct "TokenRejectBody" <|
    TokenRejectBody.mk <$> Fields.opt "owner" EntityRef.decoder
      <*> Fields.withDefault "rejections" (Decoder.list TokenRejection.decoder) []

/-- Updates the metadata of serials. -/
structure TokenUpdateNftsBody where
  token : Option EntityId := none
  metadata : Patch (List UInt8) := .unset
  serialNumbers : List Int := []
deriving DecidableEq, Repr, Inhabited

/-- Reads a `TokenUpdateNftsBody`, every field optional. -/
def TokenUpdateNftsBody.decoder : Decoder TokenUpdateNftsBody :=
  Decoder.struct "TokenUpdateNftsBody" <|
    TokenUpdateNftsBody.mk <$> Fields.opt "token" EntityId.decoder
      <*> Fields.patch "metadata" Decoder.bytes
      <*> Fields.withDefault "serial_numbers" (Decoder.list Decoder.i64) []

/-- Sends tokens, as pending airdrops when they cannot be delivered. -/
structure TokenAirdropBody where
  tokenTransfers : List TokenTransferRefs := []
deriving DecidableEq, Repr, Inhabited

/-- Reads a `TokenAirdropBody`, every field optional. -/
def TokenAirdropBody.decoder : Decoder TokenAirdropBody :=
  Decoder.struct "TokenAirdropBody" <|
    TokenAirdropBody.mk <$>
      Fields.withDefault "token_transfers" (Decoder.list TokenTransferRefs.decoder) []

/-- Names a pending airdrop. -/
structure PendingAirdropId where
  sender : Option EntityRef := none
  receiver : Option EntityRef := none
  tokenId : EntityId := EntityId.empty
  serialNumber : Option Int := none
deriving DecidableEq, Repr, Inhabited

/-- Reads a `PendingAirdropId`, every field optional. -/
def PendingAirdropId.decoder : Decoder PendingAirdropId :=
  Decoder.struct "PendingAirdropId" <|
    PendingAirdropId.mk <$> Fields.opt "sender" EntityRef.decoder
      <*> Fields.opt "receiver" EntityRef.decoder
      <*> Fields.withDefault "token_id" EntityId.decoder EntityId.empty
      <*> Fields.opt "serial_number" Decoder.i64

/-- Cancels or claims pending airdrops. -/
structure PendingAirdropsBody where
  pendingAirdrops : List PendingAirdropId := []
deriving DecidableEq, Repr, Inhabited

/-- Reads a `PendingAirdropsBody`, every field optional. -/
def PendingAirdropsBody.decoder : Decoder PendingAirdropsBody :=
  Decoder.struct "PendingAirdropsBody" <|
    PendingAirdropsBody.mk <$>
      Fields.withDefault "pending_airdrops" (Decoder.list PendingAirdropId.decoder) []

/-- Writes to the storage of a hook. -/
structure HookStoreBody where
  owner : Option EntityRef := none
  hookId : Int := 0
  storageUpdates : List HookStorageUpdate := []
deriving DecidableEq, Repr, Inhabited

/-- Reads a `HookStoreBody`, every field optional. -/
def HookStoreBody.decoder : Decoder HookStoreBody :=
  Decoder.struct "HookStoreBody" <|
    HookStoreBody.mk <$> Fields.opt "owner" EntityRef.decoder
      <*> Fields.withDefault "hook_id" Decoder.i64 0
      <*> Fields.withDefault "storage_updates" (Decoder.list HookStorageUpdate.decoder) []

end LedgerProjection
