import LedgerProjection.Service.Request
import LedgerProjection.Service.Report
import LedgerProjection.Projection.Process

/-!
# Stateful operations

`project` reads records one after another and projects each into one shared sink (ledger and
resolver); a record that does not read becomes a failed step and the stream goes on, as it does
after a record whose projection failed, on the ledger as that record left it.
`project_logged` also keeps a bounded log of the mutations the ledger accepted. `ledger_apply`
applies mutations directly to a fresh ledger.
-/

namespace LedgerProjection

/-- Ids, addresses and token keys known before the stream starts. -/
structure KnownIds where
  aliases : List (List UInt8 × EntityId) := []
  evmAddresses : List (List UInt8 × EntityId) := []
  tokenKeys : List (EntityId × Option Bool × Option Bool) := []

namespace KnownIds

/-- A byte string and the id it names. -/
def idPair : Decoder (List UInt8 × EntityId) := Decoder.pair Decoder.bytes EntityId.decoder

/-- A token and whether its freeze and KYC keys are set. -/
def tokenKeyTriple : Decoder (EntityId × Option Bool × Option Bool) :=
  Decoder.triple EntityId.decoder (Decoder.option Decoder.bool) (Decoder.option Decoder.bool)

/-- Reads the `known` argument of a request. Anything but an object there is ignored; in an
object each list may be absent (empty), and a fault names the list as `known.<list>`. -/
def read (req : Json) : Except Failed KnownIds :=
  match req.field? "known" with
  | some (.obj kvs) =>
    let known : Json := .obj kvs
    let lists : Except Failed KnownIds := do
      let aliases ← Request.listOrEmpty known "aliases" idPair
      let evmAddresses ← Request.listOrEmpty known "evm_addresses" idPair
      let tokenKeys ← Request.listOrEmpty known "token_keys" tokenKeyTriple
      return ⟨aliases, evmAddresses, tokenKeys⟩
    lists.mapError fun f => { f with message := "known." ++ f.message }
  | _ => .ok {}

/-- A resolver that knows them. -/
def resolver (k : KnownIds) : Resolver :=
  let r := k.aliases.foldl (fun r (a, id) => r.registerAlias a id) {}
  let r := k.evmAddresses.foldl (fun r (a, id) => r.registerEvmAddress a id) r
  k.tokenKeys.foldl (fun r (t, f, y) => r.registerTokenKeys t f y) r

end KnownIds

namespace Stream

/-- The step of a failed projection. -/
def failureJson (f : Failure) (mutations : List Mutation) : Json :=
  let (kind, message) := match f with
    | .refused ⟨_, .overflow o⟩ => ("panic", o.message)
    | .refused ⟨k, .outOfOrder ..⟩ =>
      ("Sink", "Sink error: Failed to apply " ++ k ++ " mutation")
    | .overflow o => ("panic", o.message)
  .obj [("error", .str kind), ("message", .str message),
        ("mutations", Json.list Mutation.toJson mutations)]

/-- The step of one record. -/
def stepJson : Outcome → Json
  | .done tx ms touched =>
    .obj [("transaction", tx.toJson), ("mutations", Json.list Mutation.toJson ms),
          ("entity_ids", Json.list EntityId.toJson touched)]
  | .failed f ms => failureJson f ms

/-- Projects records in order; returns the sink left and the steps. -/
def projectAll (props : Properties) (via : ResolverKind) : Sink → List Json → Sink × List Json
  | sink, [] => (sink, [])
  | sink, r :: rest =>
    match RecordItem.decoder.run r with
    | .error e =>
      let (sink, steps) := projectAll props via sink rest
      (sink, .obj [("error", .str "invalid_record"), ("message", .str e.message)] :: steps)
    | .ok item =>
      let (sink, outcome) := projectRecord props via sink item
      let (sink, steps) := projectAll props via sink rest
      (sink, stepJson outcome :: steps)

/-- The resolver a request asks for. -/
def resolverKind (req : Json) : Except Failed ResolverKind :=
  match Request.text? req "resolver" with
  | none => .ok .memory
  | some "memory" => .ok .memory
  | some "noop" => .ok .noop
  | some other => .error (.badRequest ("unknown resolver `" ++ other ++ "`"))

/-- The arguments shared by both projecting operations. -/
structure Setup where
  records : List Json
  props : Properties
  via : ResolverKind
  known : KnownIds

/-- Reads the arguments shared by both projecting operations. -/
def setup (req : Json) : Except Failed Setup := do
  let props := (← Request.optional req "properties" Properties.decoder).getD {}
  let records ← Request.field req "records" (Decoder.list fun _ j => .ok j)
  let via ← resolverKind req
  let known ← KnownIds.read req
  return ⟨records, props, via, known⟩

/-- The answer fields of a projection. -/
def projectionFields (s : Setup) (log : Option MutationLog) : Sink × List (String × Json) :=
  let sink : Sink := { resolver := s.known.resolver, log := log }
  let (sink, steps) := projectAll s.props s.via sink s.records
  (sink, [("steps", .arr steps), ("resolver_len", .int sink.resolver.size),
          ("ledger", sink.ledger.report)])

/-- `project`. -/
def project (req : Json) : Answer := do
  let s ← setup req
  return .obj (projectionFields s none).2

/-- The log's fields of the answer. -/
def logFields (log : MutationLog) (limit : Option Nat) : List (String × Json) :=
  [("log_counts", .obj (log.counts.entries.map fun (k, n) => (k, .int n))),
   ("log_len", .int log.entries.length),
   ("log_recent", Json.list (fun (e : LogEntry) =>
      .obj [("id", .int e.id), ("kind", .str e.kind), ("record", e.record)])
      (match limit with
       | some n => log.recent n
       | none => log.entries))]

/-- `project_logged`. -/
def projectLogged (req : Json) : Answer := do
  let s ← setup req
  let maxEntries ← Request.field req "max_entries" Decoder.usize
  let kindFilter := Request.text? req "kind_filter"
  let limit ← Request.present req "limit" Decoder.usize
  let log : MutationLog := { maxEntries := maxEntries, kindFilter := kindFilter }
  let (sink, fields) := projectionFields s (some log)
  let log := sink.log.getD { maxEntries := maxEntries }
  return .obj (fields ++ logFields log limit)

/-- Reads one mutation of `ledger_apply`. -/
def readMutation (j : Json) : Except String Mutation :=
  let kind := (Request.text? j "kind").getD ""
  match Mutation.decoderOf? kind with
  | some d => (d.run ((j.field? "record").getD .null)).mapError (·.message)
  | none => .error ("unknown kind `" ++ kind ++ "`")

/-- Applies mutations in order; returns the ledger left and the steps. -/
def applyAll : Ledger → List Json → Ledger × List Json
  | l, [] => (l, [])
  | l, j :: rest =>
    match readMutation j with
    | .error message =>
      let (l, steps) := applyAll l rest
      (l, .obj [("error", .str "invalid_record"), ("message", .str message)] :: steps)
    | .ok m =>
      let (l', fault) := l.apply m
      let step := match fault with
        | none => .str "ok"
        | some (.overflow o) => .obj [("error", .str "panic"), ("message", .str o.message)]
        | some f =>
          let message := "Failed to apply " ++ m.kind ++ " mutation: " ++ f.message
          .obj [("error", .str "Sink"), ("message", .str message)]
      let (l', steps) := applyAll l' rest
      (l', step :: steps)

/-- `ledger_apply`. -/
def ledgerApply (req : Json) : Answer := do
  let mutations ← Request.field req "mutations" (Decoder.list fun _ j => .ok j)
  let (l, steps) := applyAll {} mutations
  return .obj [("steps", .arr steps), ("ledger", l.report)]

end Stream

end LedgerProjection
