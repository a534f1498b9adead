import LedgerProjection.Json.Decode

/-!
# Status values of ledger rows

Closed sets of values that rows carry, each written by its upper-case wire name.
-/

namespace LedgerProjection

/-- The kind of ledger object an entity row describes. -/
inductive EntityType where
  | account
  | contract
  | file
  | schedule
  | token
  | topic
deriving DecidableEq, Repr, Inhabited

namespace EntityType

/-- The wire name. -/
def wireName : EntityType → String
  | .account => "ACCOUNT"
  | .contract => "CONTRACT"
  | .file => "FILE"
  | .schedule => "SCHEDULE"
  | .token => "TOKEN"
  | .topic => "TOPIC"

/-- Written as its wire name. -/
def toJson (v : EntityType) : Json := .str v.wireName

/-- Read from its wire name. -/
def decoder : Decoder EntityType :=
  Decoder.enum
    [("ACCOUNT", .account),
     ("CONTRACT", .contract),
     ("FILE", .file),
     ("SCHEDULE", .schedule),
     ("TOKEN", .token),
     ("TOPIC", .topic)]

end EntityType

/-- Whether an account's holding of a token is frozen. -/
inductive TokenFreezeStatus where
  | notApplicable
  | frozen
  | unfrozen
deriving DecidableEq, Repr, Inhabited

namespace TokenFreezeStatus

/-- The wire name. -/
def wireName : TokenFreezeStatus → String
  | .notApplicable => "NOT_APPLICABLE"
  | .frozen => "FROZEN"
  | .unfrozen => "UNFROZEN"

/-- Written as its wire name. -/
def toJson (v : TokenFreezeStatus) : Json := .str v.wireName

/-- Read from its wire name. -/
def decoder : Decoder TokenFreezeStatus :=
  Decoder.enum [("NOT_APPLICABLE", .notApplicable), ("FROZEN", .frozen), ("UNFROZEN", .unfrozen)]

end TokenFreezeStatus

/-- Whether an account holding a token has passed KYC. -/
inductive TokenKycStatus where
  | notApplicable
  | granted
  | revoked
deriving DecidableEq, Repr, Inhabited

namespace TokenKycStatus

/-- The wire name. -/
def wireName : TokenKycStatus → String
  | .notApplicable => "NOT_APPLICABLE"
  | .granted => "GRANTED"
  | .revoked => "REVOKED"

/-- Written as its wire name. -/
def toJson (v : TokenKycStatus) : Json := .str v.wireName

/-- Read from its wire name. -/
def decoder : Decoder TokenKycStatus :=
  Decoder.enum [("NOT_APPLICABLE", .notApplicable), ("GRANTED", .granted), ("REVOKED", .revoked)]

end TokenKycStatus

/-- Whether a token is paused. -/
inductive TokenPauseStatus where
  | notApplicable
  | paused
  | unpaused
deriving DecidableEq, Repr, Inhabited

namespace TokenPauseStatus

/-- The wire name. -/
def wireName : TokenPauseStatus → String
  | .notApplicable => "NOT_APPLICABLE"
  | .paused => "PAUSED"
  | .unpaused => "UNPAUSED"

/-- Written as its wire name. -/
def toJson (v : TokenPauseStatus) : Json := .str v.wireName

/-- Read from its wire name. -/
def decoder : Decoder TokenPauseStatus :=
  Decoder.enum [("NOT_APPLICABLE", .notApplicable), ("PAUSED", .paused), ("UNPAUSED", .unpaused)]

end TokenPauseStatus

/-- Fungible or unique tokens; fungible by default. -/
inductive TokenType where
  | fungibleCommon
  | nonFungibleUnique
deriving DecidableEq, Repr, Inhabited

namespace TokenType

/-- The wire name. -/
def wireName : TokenType → String
  | .fungibleCommon => "FUNGIBLE_COMMON"
  | .nonFungibleUnique => "NON_FUNGIBLE_UNIQUE"

/-- Written as its wire name. -/
def toJson (v : TokenType) : Json := .str v.wireName

/-- Read from its wire name. -/
def decoder : Decoder TokenType :=
  Decoder.enum [("FUNGIBLE_COMMON", .fungibleCommon), ("NON_FUNGIBLE_UNIQUE", .nonFungibleUnique)]

end TokenType

/-- Whether a token's supply is capped; uncapped by default. -/
inductive TokenSupplyType where
  | infinite
  | finite
deriving DecidableEq, Repr, Inhabited

namespace TokenSupplyType

/-- The wire name. -/
def wireName : TokenSupplyType → String
  | .infinite => "INFINITE"
  | .finite => "FINITE"

/-- Written as its wire name. -/
def toJson (v : TokenSupplyType) : Json := .str v.wireName

/-- Read from its wire name. -/
def decoder : Decoder TokenSupplyType :=
  Decoder.enum [("INFINITE", .infinite), ("FINITE", .finite)]

end TokenSupplyType

/-- The life of an airdrop that could not be delivered at once. -/
inductive TokenAirdropState where
  | pending
  | cancelled
  | claimed
deriving DecidableEq, Repr, Inhabited

namespace TokenAirdropState

/-- The wire name. -/
def wireName : TokenAirdropState → String
  | .pending => "PENDING"
  | .cancelled => "CANCELLED"
  | .claimed => "CLAIMED"

/-- Written as its wire name. -/
def toJson (v : TokenAirdropState) : Json := .str v.wireName

/-- Read from its wire name. -/
def decoder : Decoder TokenAirdropState :=
  Decoder.enum [("PENDING", .pending), ("CANCELLED", .cancelled), ("CLAIMED", .claimed)]

end TokenAirdropState

/-- Where a hook attaches. -/
inductive HookExtensionPoint where
  | accountAllowanceHook
deriving DecidableEq, Repr, Inhabited

namespace HookExtensionPoint

/-- The wire name. -/
def wireName : HookExtensionPoint → String
  | .accountAllowanceHook => "ACCOUNT_ALLOWANCE_HOOK"

/-- Written as its wire name. -/
def toJson (v : HookExtensionPoint) : Json := .str v.wireName

/-- Read from its wire name. -/
def decoder : Decoder HookExtensionPoint :=
  Decoder.enum [("ACCOUNT_ALLOWANCE_HOOK", .accountAllowanceHook)]

end HookExtensionPoint

/-- How a hook runs. -/
inductive HookType where
  | lambda
  | pure
deriving DecidableEq, Repr, Inhabited

namespace HookType

/-- The wire name. -/
def wireName : HookType → String
  | .lambda => "LAMBDA"
  | .pure => "PURE"

/-- Written as its wire name. -/
def toJson (v : HookType) : Json := .str v.wireName

/-- Read from its wire name. -/
def decoder : Decoder HookType :=
  Decoder.enum [("LAMBDA", .lambda), ("PURE", .pure)]

end HookType

end LedgerProjection
