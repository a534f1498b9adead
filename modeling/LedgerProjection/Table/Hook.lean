import LedgerProjection.Entity.Json
import LedgerProjection.Table.Status

/-!
# Hook rows

Hooks attached to accounts and contracts, and writes to their storage.
-/

namespace LedgerProjection

/-- A version of a hook attached to an account or contract. -/
structure Hook where
  hookId : Int := 0
  ownerId : EntityId := EntityId.empty
  timestampRange : Option TimestampRange := none
  createdTimestamp : Option Int := none
  adminKey : Option (List UInt8) := none
  contractId : Option EntityId := none
  deleted : Option Bool := none
  extensionPoint : Option HookExtensionPoint := none
  hookType : Option HookType := none
deriving DecidableEq, Repr, Inhabited

namespace Hook

/-- Written with every field, absent values as `null`. -/
def toJson (r : Hook) : Json :=
  .obj [("hook_id", .int r.hookId),
    ("owner_id", r.ownerId.toJson),
    ("timestamp_range", Json.opt TimestampRange.toJson r.timestampRange),
    ("created_timestamp", Json.opt .int r.createdTimestamp),
    ("admin_key", Json.opt Json.byteArray r.adminKey),
    ("contract_id", Json.opt EntityId.toJson r.contractId),
    ("deleted", Json.opt .bool r.deleted),
    ("extension_point", Json.opt HookExtensionPoint.toJson r.extensionPoint),
    ("hook_type", Json.opt HookType.toJson r.hookType)]

/-- Read field by field: optional fields may be absent, the others are required. -/
def decoder : Decoder Hook :=
  Decoder.struct "Hook" <|
    Hook.mk <$> Fields.req "hook_id" Decoder.i64
      <*> Fields.req "owner_id" EntityId.decoder
      <*> Fields.nullable "timestamp_range" TimestampRange.decoder
      <*> Fields.nullable "created_timestamp" Decoder.i64
      <*> Fields.nullable "admin_key" Decoder.bytes
      <*> Fields.nullable "contract_id" EntityId.decoder
      <*> Fields.nullable "deleted" Decoder.bool
      <*> Fields.nullable "extension_point" HookExtensionPoint.decoder
      <*> Fields.nullable "hook_type" HookType.decoder

end Hook

/-- A write to one storage slot of a hook; an empty value clears the slot. -/
structure HookStorageChange where
  consensusTimestamp : Int := 0
  hookId : Int := 0
  ownerId : EntityId := EntityId.empty
  key : List UInt8 := []
  valueRead : List UInt8 := []
  valueWritten : List UInt8 := []
deriving DecidableEq, Repr, Inhabited

namespace HookStorageChange

/-- Written with every field, absent values as `null`. -/
def toJson (r : HookStorageChange) : Json :=
  .obj [("consensus_timestamp", .int r.consensusTimestamp),
    ("hook_id", .int r.hookId),
    ("owner_id", r.ownerId.toJson),
    ("key", Json.byteArray r.key),
    ("value_read", Json.byteArray r.valueRead),
    ("value_written", Json.byteArray r.valueWritten)]

/-- Read field by field: optional fields may be absent, the others are required. -/
def decoder : Decoder HookStorageChange :=
  Decoder.struct "HookStorageChange" <|
    HookStorageChange.mk <$> Fields.req "consensus_timestamp" Decoder.i64
      <*> Fields.req "hook_id" Decoder.i64
      <*> Fields.req "owner_id" EntityId.decoder
      <*> Fields.req "key" Decoder.bytes
      <*> Fields.req "value_read" Decoder.bytes
      <*> Fields.req "value_written" Decoder.bytes

end HookStorageChange

end LedgerProjection
