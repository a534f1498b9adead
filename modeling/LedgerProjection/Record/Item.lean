import LedgerProjection.Record.Body
import LedgerProjection.Record.Extras

/-!
# Transaction records

A record item is one transaction as the network reported it: when it reached consensus, who
paid, the body, the receipt and record extras, sidecars, signatures, and the record of the
parent transaction when this one was triggered by another.

Only the consensus timestamp, the payer and the body are required. A parent is itself a
record item; the nesting is bounded by the nesting a JSON text may have.
-/

namespace LedgerProjection

/-- One transaction as reported by the network. -/
structure RecordItem where
  consensusTimestamp : Int
  payerAccountId : EntityId
  nodeAccountId : Option EntityId := none
  validStartNs : Int := 0
  memo : List UInt8 := []
  chargedTxFee : Int := 0
  maxFee : Int := 0
  nonce : Int := 0
  scheduled : Bool := false
  body : TransactionBody
  receipt : TransactionReceipt := {}
  record : TransactionRecordExtras := {}
  sidecars : List SidecarRecord := []
  signatureMap : List SignaturePair := []
  hapiVersion : HapiVersion := {}
  parent : Option RecordItem := none

namespace RecordItem

/-- The kind of the transaction. -/
def kind (item : RecordItem) : TransactionType := item.body.kind

/-- The transaction succeeded (fully or partly). -/
def isSuccessful (item : RecordItem) : Bool := item.receipt.status.isSuccessful

/-- The initcode and runtime bytecode of the first bytecode sidecar for a contract. -/
def bytecodeSidecar (item : RecordItem) (contractId : EntityId) :
    Option (List UInt8 × List UInt8) :=
  item.sidecars.findSome? fun s =>
    match s with
    | .bytecode id initcode runtime => if id = contractId then some (initcode, runtime) else none
    | _ => none

/-- Reads a record item whose parents nest at most `depth` deep. -/
def decoderWith : Nat → Decoder RecordItem
  | 0 => fun _ _ => .error (.custom "recursion limit exceeded")
  | depth + 1 =>
    Decoder.struct "RecordItem" <|
      RecordItem.mk <$> Fields.req "consensus_timestamp" Decoder.i64
        <*> Fields.req "payer_account_id" EntityId.decoder
        <*> Fields.opt "node_account_id" EntityId.decoder
        <*> Fields.withDefault "valid_start_ns" Decoder.i64 0
        <*> Fields.withDefault "memo" Decoder.bytes []
        <*> Fields.withDefault "charged_tx_fee" Decoder.i64 0
        <*> Fields.withDefault "max_fee" Decoder.i64 0
        <*> Fields.withDefault "nonce" Decoder.i32 0
        <*> Fields.withDefault "scheduled" Decoder.bool false
        <*> Fields.req "body" TransactionBody.decoder
        <*> Fields.withDefault "receipt" TransactionReceipt.decoder {}
        <*> Fields.withDefault "record" TransactionRecordExtras.decoder {}
        <*> Fields.withDefault "sidecars" (Decoder.list SidecarRecord.decoder) []
        <*> Fields.withDefault "signature_map" (Decoder.list SignaturePair.decoder) []
        <*> Fields.withDefault "hapi_version" HapiVersion.decoder {}
        <*> Fields.opt "parent" (decoderWith depth)

/-- Reads a record item. -/
def decoder : Decoder RecordItem := decoderWith 128

end RecordItem

end LedgerProjection
