import LedgerProjection.Service.Utility
import LedgerProjection.Service.Stream
import LedgerProjection.Handlers.Registry
import LedgerProjection.Json.Text

/-!
# Answering requests

A request line is read as JSON, its operation is looked up by name and run, and the answer is
written as one JSON line. A line that is not JSON, a request without an operation and an
operation of an unknown name are answered with failures.
-/

namespace LedgerProjection

namespace Service

open Request

/-- `registry`: builds a registry from the built-in handlers without the dropped kinds and with
a second copy of each duplicated kind, and looks kinds up in it. -/
def registry (req : Json) : Answer := do
  let drop ← listOrEmpty req "drop" TransactionType.decoder
  let duplicate ← listOrEmpty req "duplicate" TransactionType.decoder
  let handlers := Registry.defaultKinds.filter (· ∉ drop) ++
    duplicate.filter (· ∈ Registry.defaultKinds)
  match Registry.build id .unknown handlers with
  | .error e => throw ⟨e.kind, e.message⟩
  | .ok r =>
    let lookup ← listOrEmpty req "lookup" TransactionType.decoder
    return .obj [("len", .int r.size), ("is_empty", .bool r.kinds.isEmpty),
                 ("types", Json.list TransactionType.toJson r.kinds),
                 ("lookup", Json.list (fun t => TransactionType.toJson (r.get t)) lookup)]

/-- The operation of a given name. -/
def operation? : String → Option (Json → Answer)
  | "left_pad_32" => some Utility.leftPad32
  | "i64_to_word" => some Utility.i64ToWord
  | "bool_to_word" => some Utility.boolToWord
  | "trim_leading_zeros" => some Utility.trimLeadingZeros
  | "keccak256" => some Utility.keccak256
  | "keccak256_concat" => some Utility.keccak256Concat
  | "long_zero_address" => some Utility.longZeroAddress
  | "decode_long_zero_address" => some Utility.decodeLongZeroAddress
  | "encode_key_list" => some Utility.encodeKeyList
  | "decode_key_list" => some Utility.decodeKeyList
  | "to_hex" => some Utility.toHex
  | "format_timestamp" => some Utility.formatTimestamp
  | "epoch_day" => some Utility.epochDay
  | "timestamp_to_nanos" => some Utility.timestampToNanos
  | "mapping_slot" => some Utility.mappingSlot
  | "approval_topics" => some Utility.approvalTopics
  | "parse_entity_id" => some Utility.parseEntityId
  | "response_code" => some Utility.responseCode
  | "transaction_type" => some Utility.transactionType
  | "entity_ref" => some Utility.entityRef
  | "timestamp_range" => some Utility.timestampRange
  | "parse_custom_fees" => some Utility.parseCustomFeesOp
  | "is_system_file" => some Utility.isSystemFile
  | "project" => some Stream.project
  | "project_logged" => some Stream.projectLogged
  | "ledger_apply" => some Stream.ledgerApply
  | "registry" => some registry
  | _ => none

/-- The answer to a request. -/
def answer (req : Json) : Json :=
  match req.field? "op" with
  | some (.str op) =>
    match operation? op with
    | none => Failed.toJson ⟨"unknown_op", "unknown op `" ++ op ++ "`"⟩
    | some run =>
      match run req with
      | .ok j => j
      | .error f => f.toJson
  | _ => Failed.toJson (.badRequest "missing field `op`")

/-- The answer line to a request line. -/
def respond (line : String) : String :=
  match Json.parse line with
  | .error message => Json.render (Failed.toJson ⟨"invalid_json", message⟩)
  | .ok req => Json.render (answer req)

end Service

end LedgerProjection
