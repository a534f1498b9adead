import LedgerProjection.Entity.Json
import LedgerProjection.Table.Status

/-!
# Token rows

Token definitions, holdings, serials, airdrops, fee schedules and allowances.
-/

namespace LedgerProjection

/-- A version of a token's definition. -/
structure Token where
  tokenId : EntityId := EntityId.empty
  timestampRange : Option TimestampRange := none
  createdTimestamp : Option Int := none
  decimals : Option Int := none
  feeScheduleKey : Option (List UInt8) := none
  freezeDefault : Option Bool := none
  freezeKey : Option (List UInt8) := none
  initialSupply : Option Int := none
  kycKey : Option (List UInt8) := none
  maxSupply : Option Int := none
  metadata : Option (List UInt8) := none
  metadataKey : Option (List UInt8) := none
  name : Option String := none
  pauseKey : Option (List UInt8) := none
  pauseStatus : Option TokenPauseStatus := none
  supplyKey : Option (List UInt8) := none
  supplyType : Option TokenSupplyType := none
  symbol : Option String := none
  tokenType : Option TokenType := none
  totalSupply : Option Int := none
  treasuryAccountId : Option EntityId := none
  wipeKey : Option (List UInt8) := none
deriving DecidableEq, Repr, Inhabited

namespace Token

/-- Written with every field, absent values as `null`. -/
def toJson (r : Token) : Json :=
  .obj [("token_id", r.tokenId.toJson),
    ("timestamp_range", Json.opt TimestampRange.toJson r.timestampRange),
    ("created_timestamp", Json.opt .int r.createdTimestamp),
    ("decimals", Json.opt .int r.decimals),
    ("fee_schedule_key", Json.opt Json.byteArray r.feeScheduleKey),
    ("freeze_default", Json.opt .bool r.freezeDefault),
    ("freeze_key", Json.opt Json.byteArray r.freezeKey),
    ("initial_supply", Json.opt .int r.initialSupply),
    ("kyc_key", Json.opt Json.byteArray r.kycKey),
    ("max_supply", Json.opt .int r.maxSupply),
    ("metadata", Json.opt Json.byteArray r.metadata),
    ("metadata_key", Json.opt Json.byteArray r.metadataKey),
    ("name", Json.opt .str r.name),
    ("pause_key", Json.opt Json.byteArray r.pauseKey),
    ("pause_status", Json.opt TokenPauseStatus.toJson r.pauseStatus),
    ("supply_key", Json.opt Json.byteArray r.supplyKey),
    ("supply_type", Json.opt TokenSupplyType.toJson r.supplyType),
    ("symbol", Json.opt .str r.symbol),
    ("token_type", Json.opt TokenType.toJson r.tokenType),
    ("total_supply", Json.opt .int r.totalSupply),
    ("treasury_account_id", Json.opt EntityId.toJson r.treasuryAccountId),
    ("wipe_key", Json.opt Json.byteArray r.wipeKey)]

/-- Read field by field: optional fields may be absent, the others are required. -/
def decoder : Decoder Token :=
  Decoder.struct "Token" <|
    Token.mk <$> Fields.req "token_id" EntityId.decoder
      <*> Fields.nullable "timestamp_range" TimestampRange.decoder
      <*> Fields.nullable "created_timestamp" Decoder.i64
      <*> Fields.nullable "decimals" Decoder.i32
      <*> Fields.nullable "fee_schedule_key" Decoder.bytes
      <*> Fields.nullable "freeze_default" Decoder.bool
      <*> Fields.nullable "freeze_key" Decoder.bytes
      <*> Fields.nullable "initial_supply" Decoder.i64
      <*> Fields.nullable "kyc_key" Decoder.bytes
      <*> Fields.nullable "max_supply" Decoder.i64
      <*> Fields.nullable "metadata" Decoder.bytes
      <*> Fields.nullable "metadata_key" Decoder.bytes
      <*> Fields.nullable "name" Decoder.string
      <*> Fields.nullable "pause_key" Decoder.bytes
      <*> Fields.nullable "pause_status" TokenPauseStatus.decoder
      <*> Fields.nullable "supply_key" Decoder.bytes
      <*> Fields.nullable "supply_type" TokenSupplyType.decoder
      <*> Fields.nullable "symbol" Decoder.string
      <*> Fields.nullable "token_type" TokenType.decoder
      <*> Fields.nullable "total_supply" Decoder.i64
      <*> Fields.nullable "treasury_account_id" EntityId.decoder
      <*> Fields.nullable "wipe_key" Decoder.bytes

end Token

/-- A version of an account's relationship with a token. In a mutation `balance` is a change. -/
structure TokenAccount where
  accountId : EntityId := EntityId.empty
  tokenId : EntityId := EntityId.empty
  timestampRange : Option TimestampRange := none
  associated : Option Bool := none
  automaticAssociation : Option Bool := none
  balance : Option Int := none
  balanceTimestamp : Option Int := none
  createdTimestamp : Option Int := none
  freezeStatus : Option TokenFreezeStatus := none
  kycStatus : Option TokenKycStatus := none
deriving DecidableEq, Repr, Inhabited

namespace TokenAccount

/-- Written with every field, absent values as `null`. -/
def toJson (r : TokenAccount) : Json :=
  .obj [("account_id", r.accountId.toJson),
    ("token_id", r.tokenId.toJson),
    ("timestamp_range", Json.opt TimestampRange.toJson r.timestampRange),
    ("associated", Json.opt .bool r.associated),
    ("automatic_association", Json.opt .bool r.automaticAssociation),
    ("balance", Json.opt .int r.balance),
    ("balance_timestamp", Json.opt .int r.balanceTimestamp),
    ("created_timestamp", Json.opt .int r.createdTimestamp),
    ("freeze_status", Json.opt TokenFreezeStatus.toJson r.freezeStatus),
    ("kyc_status", Json.opt TokenKycStatus.toJson r.kycStatus)]

/-- Read field by field: optional fields may be absent, the others are required. -/
def decoder : Decoder TokenAccount :=
  Decoder.struct "TokenAccount" <|
    TokenAccount.mk <$> Fields.req "account_id" EntityId.decoder
      <*> Fields.req "token_id" EntityId.decoder
      <*> Fields.nullable "timestamp_range" TimestampRange.decoder
      <*> Fields.nullable "associated" Decoder.bool
      <*> Fields.nullable "automatic_association" Decoder.bool
      <*> Fields.nullable "balance" Decoder.i64
      <*> Fields.nullable "balance_timestamp" Decoder.i64
      <*> Fields.nullable "created_timestamp" Decoder.i64
      <*> Fields.nullable "freeze_status" TokenFreezeStatus.decoder
      <*> Fields.nullable "kyc_status" TokenKycStatus.decoder

end TokenAccount

/-- A version of one serial of a unique token. -/
structure Nft where
  tokenId : EntityId := EntityId.empty
  serialNumber : Int := 0
  timestampRange : Option TimestampRange := none
  accountId : Option EntityId := none
  createdTimestamp : Option Int := none
  deleted : Option Bool := none
  delegatingSpender : Option EntityId := none
  metadata : Option (List UInt8) := none
  spender : Option EntityId := none
deriving DecidableEq, Repr, Inhabited

namespace Nft

/-- Written with every field, absent values as `null`. -/
def toJson (r : Nft) : Json :=
  .obj [("token_id", r.tokenId.toJson),
    ("serial_number", .int r.serialNumber),
    ("timestamp_range", Json.opt TimestampRange.toJson r.timestampRange),
    ("account_id", Json.opt EntityId.toJson r.accountId),
    ("created_timestamp", Json.opt .int r.createdTimestamp),
    ("deleted", Json.opt .bool r.deleted),
    ("delegating_spender", Json.opt EntityId.toJson r.delegatingSpender),
    ("metadata", Json.opt Json.byteArray r.metadata),
    ("spender", Json.opt EntityId.toJson r.spender)]

/-- Read field by field: optional fields may be absent, the others are required. -/
def decoder : Decoder Nft :=
  Decoder.struct "Nft" <|
    Nft.mk <$> Fields.req "token_id" EntityId.decoder
      <*> Fields.req "serial_number" Decoder.i64
      <*> Fields.nullable "timestamp_range" TimestampRange.decoder
      <*> Fields.nullable "account_id" EntityId.decoder
      <*> Fields.nullable "created_timestamp" Decoder.i64
      <*> Fields.nullable "deleted" Decoder.bool
      <*> Fields.nullable "delegating_spender" EntityId.decoder
      <*> Fields.nullable "metadata" Decoder.bytes
      <*> Fields.nullable "spender" EntityId.decoder

end Nft

/-- A version of an airdrop that waits for its receiver. -/
structure TokenAirdrop where
  senderAccountId : EntityId := EntityId.empty
  receiverAccountId : EntityId := EntityId.empty
  tokenId : EntityId := EntityId.empty
  serialNumber : Int := 0
  timestampRange : Option TimestampRange := none
  amount : Option Int := none
  state : TokenAirdropState := default
deriving DecidableEq, Repr, Inhabited

namespace TokenAirdrop

/-- Written with every field, absent values as `null`. -/
def toJson (r : TokenAirdrop) : Json :=
  .obj [("sender_account_id", r.senderAccountId.toJson),
    ("receiver_account_id", r.receiverAccountId.toJson),
    ("token_id", r.tokenId.toJson),
    ("serial_number", .int r.serialNumber),
    ("timestamp_range", Json.opt TimestampRange.toJson r.timestampRange),
    ("amount", Json.opt .int r.amount),
    ("state", r.state.toJson)]

/-- Read field by field: optional fields may be absent, the others are required. -/
def decoder : Decoder TokenAirdrop :=
  Decoder.struct "TokenAirdrop" <|
    TokenAirdrop.mk <$> Fields.req "sender_account_id" EntityId.decoder
      <*> Fields.req "receiver_account_id" EntityId.decoder
      <*> Fields.req "token_id" EntityId.decoder
      <*> Fields.req "serial_number" Decoder.i64
      <*> Fields.nullable "timestamp_range" TimestampRange.decoder
      <*> Fields.nullable "amount" Decoder.i64
      <*> Fields.req "state" TokenAirdropState.decoder

end TokenAirdrop

/-- A fixed fee, in hbar or in a denominating token. -/
structure FixedFee where
  amount : Int := 0
  collectorAccountId : EntityId := EntityId.empty
  denominatingTokenId : Option EntityId := none
  allCollectorsAreExempt : Bool := false
deriving DecidableEq, Repr, Inhabited

namespace FixedFee

/-- Written with every field, absent values as `null`. -/
def toJson (r : FixedFee) : Json :=
  .obj [("amount", .int r.amount),
    ("collector_account_id", r.collectorAccountId.toJson),
    ("denominating_token_id", Json.opt EntityId.toJson r.denominatingTokenId),
    ("all_collectors_are_exempt", .bool r.allCollectorsAreExempt)]

/-- Read field by field: optional fields may be absent, the others are required. -/
def decoder : Decoder FixedFee :=
  Decoder.struct "FixedFee" <|
    FixedFee.mk <$> Fields.req "amount" Decoder.i64
      <*> Fields.req "collector_account_id" EntityId.decoder
      <*> Fields.nullable "denominating_token_id" EntityId.decoder
      <*> Fields.req "all_collectors_are_exempt" Decoder.bool

end FixedFee

/-- A fee taken as a fraction of each transfer. -/
structure FractionalFee where
  numerator : Int := 0
  denominator : Int := 0
  minimumAmount : Int := 0
  maximumAmount : Option Int := none
  netOfTransfers : Bool := false
  collectorAccountId : EntityId := EntityId.empty
  allCollectorsAreExempt : Bool := false
deriving DecidableEq, Repr, Inhabited

namespace FractionalFee

/-- Written with every field, absent values as `null`. -/
def toJson (r : FractionalFee) : Json :=
  .obj [("numerator", .int r.numerator),
    ("denominator", .int r.denominator),
    ("minimum_amount", .int r.minimumAmount),
    ("maximum_amount", Json.opt .int r.maximumAmount),
    ("net_of_transfers", .bool r.netOfTransfers),
    ("collector_account_id", r.collectorAccountId.toJson),
    ("all_collectors_are_exempt", .bool r.allCollectorsAreExempt)]

/-- Read field by field: optional fields may be absent, the others are required. -/
def decoder : Decoder FractionalFee :=
  Decoder.struct "FractionalFee" <|
    FractionalFee.mk <$> Fields.req "numerator" Decoder.i64
      <*> Fields.req "denominator" Decoder.i64
      <*> Fields.req "minimum_amount" Decoder.i64
      <*> Fields.nullable "maximum_amount" Decoder.i64
      <*> Fields.req "net_of_transfers" Decoder.bool
      <*> Fields.req "collector_account_id" EntityId.decoder
      <*> Fields.req "all_collectors_are_exempt" Decoder.bool

end FractionalFee

/-- The fixed fee a royalty falls back to when no value is exchanged. -/
structure FallbackFee where
  amount : Int := 0
  denominatingTokenId : Option EntityId := none
deriving DecidableEq, Repr, Inhabited

namespace FallbackFee

/-- Written with every field, absent values as `null`. -/
def toJson (r : FallbackFee) : Json :=
  .obj [("amount", .int r.amount),
    ("denominating_token_id", Json.opt EntityId.toJson r.denominatingTokenId)]

/-- Read field by field: optional fields may be absent, the others are required. -/
def decoder : Decoder FallbackFee :=
  Decoder.struct "FallbackFee" <|
    FallbackFee.mk <$> Fields.req "amount" Decoder.i64
      <*> Fields.nullable "denominating_token_id" EntityId.decoder

end FallbackFee

/-- A fee taken as a fraction of the value exchanged for a unique token. -/
structure RoyaltyFee where
  numerator : Int := 0
  denominator : Int := 0
  fallbackFee : Option FallbackFee := none
  collectorAccountId : EntityId := EntityId.empty
  allCollectorsAreExempt : Bool := false
deriving DecidableEq, Repr, Inhabited

namespace RoyaltyFee

/-- Written with every field, absent values as `null`. -/
def toJson (r : RoyaltyFee) : Json :=
  .obj [("numerator", .int r.numerator),
    ("denominator", .int r.denominator),
    ("fallback_fee", Json.opt FallbackFee.toJson r.fallbackFee),
    ("collector_account_id", r.collectorAccountId.toJson),
    ("all_collectors_are_exempt", .bool r.allCollectorsAreExempt)]

/-- Read field by field: optional fields may be absent, the others are required. -/
def decoder : Decoder RoyaltyFee :=
  Decoder.struct "RoyaltyFee" <|
    RoyaltyFee.mk <$> Fields.req "numerator" Decoder.i64
      <*> Fields.req "denominator" Decoder.i64
      <*> Fields.nullable "fallback_fee" FallbackFee.decoder
      <*> Fields.req "collector_account_id" EntityId.decoder
      <*> Fields.req "all_collectors_are_exempt" Decoder.bool

end RoyaltyFee

/-- A version of the fee schedule of a token or topic; all three lists absent means "no custom
fees". -/
structure CustomFee where
  entityId : EntityId := EntityId.empty
  timestampRange : Option TimestampRange := none
  fixedFees : Option (List FixedFee) := none
  fractionalFees : Option (List FractionalFee) := none
  royaltyFees : Option (List RoyaltyFee) := none
deriving DecidableEq, Repr, Inhabited

namespace CustomFee

/-- Written with every field, absent values as `null`. -/
def toJson (r : CustomFee) : Json :=
  .obj [("entity_id", r.entityId.toJson),
    ("timestamp_range", Json.opt TimestampRange.toJson r.timestampRange),
    ("fixed_fees", Json.opt (Json.list FixedFee.toJson) r.fixedFees),
    ("fractional_fees", Json.opt (Json.list FractionalFee.toJson) r.fractionalFees),
    ("royalty_fees", Json.opt (Json.list RoyaltyFee.toJson) r.royaltyFees)]

/-- Read field by field: optional fields may be absent, the others are required. -/
def decoder : Decoder CustomFee :=
  Decoder.struct "CustomFee" <|
    CustomFee.mk <$> Fields.req "entity_id" EntityId.decoder
      <*> Fields.nullable "timestamp_range" TimestampRange.decoder
      <*> Fields.nullable "fixed_fees" (Decoder.list FixedFee.decoder)
      <*> Fields.nullable "fractional_fees" (Decoder.list FractionalFee.decoder)
      <*> Fields.nullable "royalty_fees" (Decoder.list RoyaltyFee.decoder)

end CustomFee

/-- A version of an hbar allowance from an owner to a spender. -/
structure CryptoAllowance where
  owner : EntityId := EntityId.empty
  spender : EntityId := EntityId.empty
  timestampRange : Option TimestampRange := none
  amount : Int := 0
  amountGranted : Int := 0
  payerAccountId : EntityId := EntityId.empty
deriving DecidableEq, Repr, Inhabited

namespace CryptoAllowance

/-- Written with every field, absent values as `null`. -/
def toJson (r : CryptoAllowance) : Json :=
  .obj [("owner", r.owner.toJson),
    ("spender", r.spender.toJson),
    ("timestamp_range", Json.opt TimestampRange.toJson r.timestampRange),
    ("amount", .int r.amount),
    ("amount_granted", .int r.amountGranted),
    ("payer_account_id", r.payerAccountId.toJson)]

/-- Read field by field: optional fields may be absent, the others are required. -/
def decoder : Decoder CryptoAllowance :=
  Decoder.struct "CryptoAllowance" <|
    CryptoAllowance.mk <$> Fields.req "owner" EntityId.decoder
      <*> Fields.req "spender" EntityId.decoder
      <*> Fields.nullable "timestamp_range" TimestampRange.decoder
      <*> Fields.req "amount" Decoder.i64
      <*> Fields.req "amount_granted" Decoder.i64
      <*> Fields.req "payer_account_id" EntityId.decoder

end CryptoAllowance

/-- A version of a fungible token allowance. -/
structure TokenAllowance where
  owner : EntityId := EntityId.empty
  spender : EntityId := EntityId.empty
  tokenId : EntityId := EntityId.empty
  timestampRange : Option TimestampRange := none
  amount : Int := 0
  amountGranted : Int := 0
  payerAccountId : EntityId := EntityId.empty
deriving DecidableEq, Repr, Inhabited

namespace TokenAllowance

/-- Written with every field, absent values as `null`. -/
def toJson (r : TokenAllowance) : Json :=
  .obj [("owner", r.owner.toJson),
    ("spender", r.spender.toJson),
    ("token_id", r.tokenId.toJson),
    ("timestamp_range", Json.opt TimestampRange.toJson r.timestampRange),
    ("amount", .int r.amount),
    ("amount_granted", .int r.amountGranted),
    ("payer_account_id", r.payerAccountId.toJson)]

/-- Read field by field: optional fields may be absent, the others are required. -/
def decoder : Decoder TokenAllowance :=
  Decoder.struct "TokenAllowance" <|
    TokenAllowance.mk <$> Fields.req "owner" EntityId.decoder
      <*> Fields.req "spender" EntityId.decoder
      <*> Fields.req "token_id" EntityId.decoder
      <*> Fields.nullable "timestamp_range" TimestampRange.decoder
      <*> Fields.req "amount" Decoder.i64
      <*> Fields.req "amount_granted" Decoder.i64
      <*> Fields.req "payer_account_id" EntityId.decoder

end TokenAllowance

/-- A version of an allowance over all serials of a unique token. -/
structure NftAllowance where
  owner : EntityId := EntityId.empty
  spender : EntityId := EntityId.empty
  tokenId : EntityId := EntityId.empty
  timestampRange : Option TimestampRange := none
  approvedForAll : Bool := false
  payerAccountId : EntityId := EntityId.empty
deriving DecidableEq, Repr, Inhabited

namespace NftAllowance

/-- Written with every field, absent values as `null`. -/
def toJson (r : NftAllowance) : Json :=
  .obj [("owner", r.owner.toJson),
    ("spender", r.spender.toJson),
    ("token_id", r.tokenId.toJson),
    ("timestamp_range", Json.opt TimestampRange.toJson r.timestampRange),
    ("approved_for_all", .bool r.approvedForAll),
    ("payer_account_id", r.payerAccountId.toJson)]

/-- Read field by field: optional fields may be absent, the others are required. -/
def decoder : Decoder NftAllowance :=
  Decoder.struct "NftAllowance" <|
    NftAllowance.mk <$> Fields.req "owner" EntityId.decoder
      <*> Fields.req "spender" EntityId.decoder
      <*> Fields.req "token_id" EntityId.decoder
      <*> Fields.nullable "timestamp_range" TimestampRange.decoder
      <*> Fields.req "approved_for_all" Decoder.bool
      <*> Fields.req "payer_account_id" EntityId.decoder

end NftAllowance

end LedgerProjection
