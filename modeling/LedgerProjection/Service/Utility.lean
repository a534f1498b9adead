import LedgerProjection.Service.Request
import LedgerProjection.Bytes.Word
import LedgerProjection.Hash.Keccak
import LedgerProjection.Wire.KeyList
import LedgerProjection.Time.Instant
import LedgerProjection.Record.Ref
import LedgerProjection.Record.Kind
import LedgerProjection.Config
import LedgerProjection.Resolver
import LedgerProjection.Projection.Hooks
import LedgerProjection.Projection.Allowances
import LedgerProjection.Projection.FeeSchedule

/-!
# Utility operations

Stateless operations over words, hashes, key lists, instants, ids and fee schedules. Bytes go
in and out as hexadecimal text without a prefix.
-/

namespace LedgerProjection

namespace Utility

open Request

/-- Bytes as hexadecimal text. -/
def hexJson (bytes : List UInt8) : Json := .str (Hex.encode bytes)

/-- An answer of one field. -/
def single (key : String) (value : Json) : Json := .obj [(key, value)]

/-- `left_pad_32`: the word of a short byte string. -/
def leftPad32 (req : Json) : Answer := do
  return single "word" (Json.opt hexJson (Word.leftPad32 (← hex req "bytes")))

/-- `i64_to_word`: a signed integer as a word. -/
def i64ToWord (req : Json) : Answer := do
  return single "word" (hexJson (Word.ofInt (← field req "value" Decoder.i64)))

/-- `bool_to_word`: a boolean as a word. -/
def boolToWord (req : Json) : Answer := do
  return single "word" (hexJson (Word.ofBool (← field req "value" Decoder.bool)))

/-- `trim_leading_zeros`. -/
def trimLeadingZeros (req : Json) : Answer := do
  return single "bytes" (hexJson (Word.trimLeadingZeros (← hex req "bytes")))

/-- `keccak256`. -/
def keccak256 (req : Json) : Answer := do
  return single "hash" (hexJson (Keccak.hash (← hex req "bytes")))

/-- `keccak256_concat`. -/
def keccak256Concat (req : Json) : Answer := do
  return single "hash" (hexJson (Keccak.hashConcat (← hexList req "parts")))

/-- `long_zero_address`. -/
def longZeroAddress (req : Json) : Answer := do
  let shard ← field req "shard" Decoder.i64
  let realm ← field req "realm" Decoder.i64
  let num ← field req "num" Decoder.i64
  return single "address" (hexJson (EntityId.longZeroAddress shard realm num))

/-- `decode_long_zero_address`. -/
def decodeLongZeroAddress (req : Json) : Answer := do
  let decoded := EntityId.decodeLongZero (← hex req "bytes")
  return single "decoded" (Json.opt (fun (s, r, n) =>
    .obj [("shard", .int s), ("realm", .int r), ("num", .int n)]) decoded)

/-- `encode_key_list`. -/
def encodeKeyList (req : Json) : Answer := do
  return single "bytes" (hexJson (KeyList.encode (← hexList req "keys")))

/-- `decode_key_list`. -/
def decodeKeyList (req : Json) : Answer := do
  return single "keys" (Json.opt (Json.list hexJson) (KeyList.decode (← hex req "bytes")))

/-- `to_hex`. -/
def toHex (req : Json) : Answer := do
  return single "text" (.str (Hex.prefixed (← hex req "bytes")))

/-- `format_timestamp`. -/
def formatTimestamp (req : Json) : Answer := do
  return single "text" (.str (Instant.format (← field req "nanos" Decoder.i64)))

/-- `epoch_day`. -/
def epochDay (req : Json) : Answer := do
  return single "day" (.int (Instant.epochDay (← field req "nanos" Decoder.i64)))

/-- `timestamp_to_nanos`. -/
def timestampToNanos (req : Json) : Answer := do
  let seconds ← field req "seconds" Decoder.i64
  let nanos ← field req "nanos" Decoder.i32
  return single "nanos" (.int (Instant.ofSecondsNanos seconds nanos))

/-- `mapping_slot`. -/
def mappingSlot (req : Json) : Answer := do
  let key ← hex req "key"
  let slot ← hex req "mapping_slot"
  return single "slot" (Json.opt hexJson (HookStorage.mappingSlot key slot))

/-- `approval_topics`. -/
def approvalTopics (_ : Json) : Answer :=
  return .obj [("approval", hexJson Allowance.approvalTopic),
               ("approval_for_all", hexJson Allowance.approvalForAllTopic)]

/-- `parse_entity_id`: the parts, text and addresses of an id. -/
def parseEntityId (req : Json) : Answer := do
  let text ← field req "text" Decoder.string
  match EntityId.parse text with
  | .error message => throw ⟨"invalid_entity_id", message⟩
  | .ok id =>
    return .obj [("shard", .int id.shard), ("realm", .int id.realm), ("num", .int id.num),
                 ("display", .str id.text), ("is_empty", .bool id.isEmpty),
                 ("evm_address", hexJson id.evmAddress), ("evm_word", hexJson id.evmWord)]

/-- `response_code`. -/
def responseCode (req : Json) : Answer := do
  let r : ResponseCode := ⟨← field req "code" Decoder.i32⟩
  return .obj [("code", .int r.code), ("is_successful", .bool r.isSuccessful),
               ("debug", .str r.debugName)]

/-- `transaction_type`. -/
def transactionType (req : Json) : Answer := do
  let t := TransactionType.ofCode (← field req "code" Decoder.i32)
  return .obj [("type", .str t.wireName), ("name", .str t.name), ("display", .str t.name),
               ("code", .int t.code)]

/-- `entity_ref`. -/
def entityRef (req : Json) : Answer := do
  let r ← field req "ref" EntityRef.decoder
  return .obj [("display", .str r.text), ("is_unset", .bool r.isUnset),
               ("as_id", Json.opt EntityId.toJson r.asId),
               ("noop_lookup", Json.opt EntityId.toJson (Resolver.lookupVia {} .noop r))]

/-- `timestamp_range`. -/
def timestampRange (req : Json) : Answer := do
  let a ← field req "a" TimestampRange.decoder
  let b ← field req "b" TimestampRange.decoder
  let t ← field req "t" Decoder.i64
  return .obj [("overlaps", .bool (a.overlaps b)), ("contains", .bool (a.contains t)),
               ("is_current", .bool a.isCurrent)]

/-- `parse_custom_fees`. -/
def parseCustomFeesOp (req : Json) : Answer := do
  let specs ← field req "specs" (Decoder.list CustomFeeSpec.decoder)
  let entityId ← field req "entity_id" EntityId.decoder
  let enclosing ← optional req "enclosing_token" EntityId.decoder
  let ts ← field req "consensus_timestamp" Decoder.i64
  let parsed := parseCustomFees specs entityId enclosing ts
  let fee := parsed.customFee
  return .obj [("custom_fee", fee.toJson),
               ("is_empty", .bool (fee.fixedFees.isNone && fee.fractionalFees.isNone &&
                 fee.royaltyFees.isNone)),
               ("in_token_collectors", Json.list EntityId.toJson parsed.inTokenCollectors)]

/-- `is_system_file`. -/
def isSystemFile (req : Json) : Answer := do
  let props := (← optional req "properties" Properties.decoder).getD {}
  let shard ← field req "shard" Decoder.i64
  let realm ← field req "realm" Decoder.i64
  let num ← field req "num" Decoder.i64
  return single "is_system_file" (.bool (props.isSystemFile shard realm num))

end Utility

end LedgerProjection
