import LedgerProjection.Record.Ref
import LedgerProjection.Table.Status

/-!
# Fee and hook specifications

What bodies submit about custom fees and hooks: fee terms with an optional collector, hook
declarations with their initial storage, and storage writes.
-/

namespace LedgerProjection

/-- A fixed fee as submitted. -/
structure FixedFeeSpec where
  amount : Int := 0
  denominatingTokenId : Option EntityId := none
deriving DecidableEq, Repr, Inhabited

/-- Reads a `FixedFeeSpec`, every field optional. -/
def FixedFeeSpec.decoder : Decoder FixedFeeSpec :=
  Decoder.struct "FixedFeeSpec" <|
    FixedFeeSpec.mk <$> Fields.withDefault "amount" Decoder.i64 0
      <*> Fields.opt "denominating_token_id" EntityId.decoder

/-- A fractional fee as submitted; a maximum of zero means none. -/
structure FractionalFeeSpec where
  numerator : Int := 0
  denominator : Int := 0
  minimumAmount : Int := 0
  maximumAmount : Int := 0
  netOfTransfers : Bool := false
deriving DecidableEq, Repr, Inhabited

/-- Reads a `FractionalFeeSpec`, every field optional. -/
def FractionalFeeSpec.decoder : Decoder FractionalFeeSpec :=
  Decoder.struct "FractionalFeeSpec" <|
    FractionalFeeSpec.mk <$> Fields.withDefault "numerator" Decoder.i64 0
      <*> Fields.withDefault "denominator" Decoder.i64 0
      <*> Fields.withDefault "minimum_amount" Decoder.i64 0
      <*> Fields.withDefault "maximum_amount" Decoder.i64 0
      <*> Fields.withDefault "net_of_transfers" Decoder.bool false

/-- A royalty fee as submitted. -/
structure RoyaltyFeeSpec where
  numerator : Int := 0
  denominator : Int := 0
  fallbackFee : Option FixedFeeSpec := none
deriving DecidableEq, Repr, Inhabited

/-- Reads a `RoyaltyFeeSpec`, every field optional. -/
def RoyaltyFeeSpec.decoder : Decoder RoyaltyFeeSpec :=
  Decoder.struct "RoyaltyFeeSpec" <|
    RoyaltyFeeSpec.mk <$> Fields.withDefault "numerator" Decoder.i64 0
      <*> Fields.withDefault "denominator" Decoder.i64 0
      <*> Fields.opt "fallback_fee" FixedFeeSpec.decoder

/-- The kind of a custom fee and its terms. -/
inductive CustomFeeKind where
  | fixed (spec : FixedFeeSpec)
  | fractional (spec : FractionalFeeSpec)
  | royalty (spec : RoyaltyFeeSpec)
deriving DecidableEq, Repr, Inhabited

/-- Read as `{"fixed": …}`, `{"fractional": …}` or `{"royalty": …}`. -/
def CustomFeeKind.decoder : Decoder CustomFeeKind :=
  Decoder.external ["fixed", "fractional", "royalty"] fun name =>
    match name with
    | "fixed" => some (.newtype fun o j => CustomFeeKind.fixed <$> FixedFeeSpec.decoder o j)
    | "fractional" =>
      some (.newtype fun o j => CustomFeeKind.fractional <$> FractionalFeeSpec.decoder o j)
    | "royalty" => some (.newtype fun o j => CustomFeeKind.royalty <$> RoyaltyFeeSpec.decoder o j)
    | _ => none

/-- One custom fee as submitted: its terms, who collects it, and whether collectors are exempt
from fees. -/
structure CustomFeeSpec where
  fee : CustomFeeKind := default
  collector : Option EntityId := none
  allCollectorsAreExempt : Bool := false
deriving DecidableEq, Repr, Inhabited

/-- Reads a `CustomFeeSpec`. -/
def CustomFeeSpec.decoder : Decoder CustomFeeSpec :=
  Decoder.struct "CustomFeeSpec" <|
    CustomFeeSpec.mk <$> Fields.req "fee" CustomFeeKind.decoder
      <*> Fields.opt "collector" EntityId.decoder
      <*> Fields.withDefault "all_collectors_are_exempt" Decoder.bool false

/-- An entry of a mapping write: the key itself or its preimage, and the value. -/
structure MappingEntry where
  key : Option (List UInt8) := none
  preimage : Option (List UInt8) := none
  value : List UInt8 := []
deriving DecidableEq, Repr, Inhabited

/-- Reads a `MappingEntry`, every field optional. -/
def MappingEntry.decoder : Decoder MappingEntry :=
  Decoder.struct "MappingEntry" <|
    MappingEntry.mk <$> Fields.opt "key" Decoder.bytes
      <*> Fields.opt "preimage" Decoder.bytes
      <*> Fields.withDefault "value" Decoder.bytes []

/-- A write to hook storage as submitted: one slot by key, or entries of a mapping. -/
inductive HookStorageUpdate where
  | storageSlot (key value : List UInt8)
  | mappingEntries (mappingSlot : List UInt8) (entries : List MappingEntry)
deriving DecidableEq, Repr, Inhabited

/-- Read as `{"storage_slot": {"key", "value"?}}` or
`{"mapping_entries": {"mapping_slot", "entries"}}`. -/
def HookStorageUpdate.decoder : Decoder HookStorageUpdate :=
  Decoder.external ["storage_slot", "mapping_entries"] fun name =>
    match name with
    | "storage_slot" => some (.record (Decoder.structVariant "HookStorageUpdate::StorageSlot" <|
        HookStorageUpdate.storageSlot <$> Fields.req "key" Decoder.bytes
          <*> Fields.withDefault "value" Decoder.bytes []))
    | "mapping_entries" =>
      some (.record (Decoder.structVariant "HookStorageUpdate::MappingEntries" <|
        HookStorageUpdate.mappingEntries <$> Fields.req "mapping_slot" Decoder.bytes
          <*> Fields.req "entries" (Decoder.list MappingEntry.decoder)))
    | _ => none

/-- The EVM side of a hook: its contract and initial storage. -/
structure LambdaEvmHook where
  contractId : Option EntityId := none
  storageUpdates : List HookStorageUpdate := []
deriving DecidableEq, Repr, Inhabited

/-- Reads a `LambdaEvmHook`, every field optional. -/
def LambdaEvmHook.decoder : Decoder LambdaEvmHook :=
  Decoder.struct "LambdaEvmHook" <|
    LambdaEvmHook.mk <$> Fields.opt "contract_id" EntityId.decoder
      <*> Fields.withDefault "storage_updates" (Decoder.list HookStorageUpdate.decoder) []

/-- A hook declared on an account or contract. -/
structure HookCreationDetails where
  hookId : Int := 0
  adminKey : Option (List UInt8) := none
  extensionPoint : HookExtensionPoint := default
  lambdaEvmHook : Option LambdaEvmHook := none
deriving DecidableEq, Repr, Inhabited

/-- Reads a `HookCreationDetails`, every field optional. -/
def HookCreationDetails.decoder : Decoder HookCreationDetails :=
  Decoder.struct "HookCreationDetails" <|
    HookCreationDetails.mk <$> Fields.withDefault "hook_id" Decoder.i64 0
      <*> Fields.opt "admin_key" Decoder.bytes
      <*> Fields.withDefault "extension_point" HookExtensionPoint.decoder default
      <*> Fields.opt "lambda_evm_hook" LambdaEvmHook.decoder

end LedgerProjection
