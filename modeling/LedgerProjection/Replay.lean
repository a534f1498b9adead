import LedgerProjection.Projection.Process
import LedgerProjection.Json.Text

/-!
# Replaying a record file

A record file holds record items as a JSON array, or as an object whose `records` field is
that array. The records are ordered by consensus timestamp (records sharing one keep their
file order) and projected one after another with the in-memory resolver, every accepted
mutation also going to a mutation log. The first record whose projection fails stops the
replay. The summary counts the records, the ids they touched, the resolver's mappings, the
logged mutations by kind and the current rows of the main tables.
-/

namespace LedgerProjection

namespace Replay

/-- The replay's settings. -/
structure Options where
  maxLogs : Nat := 100
  kind : Option String := none
  validate : Bool := false

/-- The records of a record file's text, ordered by consensus timestamp. -/
def loadRecords (text : String) : Except String (List RecordItem) := do
  let j ← Json.parse text |>.mapError fun e => "Failed to parse record file: " ++ e
  let items ← match j with
    | .arr items => pure items
    | .obj _ =>
      match j.field? "records" with
      | some (.arr items) => pure items
      | _ => throw "Failed to parse record file: no array of records"
    | _ => throw "Failed to parse record file: no array of records"
  let records ← items.mapM fun r =>
    (RecordItem.decoder.run r).mapError fun e => "Failed to parse record file: " ++ e.message
  return records.mergeSort fun a b => a.consensusTimestamp ≤ b.consensusTimestamp

/-- The text of a failed projection. -/
def failureText : Failure → String
  | .refused ⟨_, .overflow o⟩ => o.message
  | .refused ⟨k, .outOfOrder ..⟩ => "Sink error: Failed to apply " ++ k ++ " mutation"
  | .overflow o => o.message

/-- Projects records in order, stopping at the first failure; returns the sink and the number
of ids each record touched. -/
def projectAll (props : Properties) : Sink → List RecordItem → Except String (Sink × Nat)
  | sink, [] => .ok (sink, 0)
  | sink, item :: rest =>
    match projectRecord props .memory sink item with
    | (sink, .done _ _ touched) => do
      let (sink, n) ← projectAll props sink rest
      return (sink, touched.length + n)
    | (_, .failed f _) => .error (failureText f)

/-- `text` padded with blanks on the right to `width` characters. -/
def padRight (text : String) (width : Nat) : String :=
  text ++ String.ofList (List.replicate (width - text.length) ' ')

/-- Replays records and returns the summary lines. -/
def run (props : Properties) (opts : Options) (records : List RecordItem) :
    Except String (List String) := do
  let sink : Sink := { log := some { maxEntries := opts.maxLogs, kindFilter := opts.kind } }
  let (sink, touched) ← projectAll props sink records
  if opts.validate then
    if let some f := sink.ledger.validate then throw f.message
  let l := sink.ledger
  let counts := (sink.log.map (·.counts.entries)).getD []
  return [s!"Processed {records.length} record(s), {touched} touched id(s)",
          s!"Resolver knows {sink.resolver.size} alias/address mapping(s)",
          "Mutations by kind:"] ++
    counts.map (fun (k, n) => "  " ++ padRight k 24 ++ " " ++ toString n) ++
    [s!"Current rows: {l.entities.rows.size} entities, {l.tokens.rows.size} tokens, " ++
      s!"{l.tokenAccounts.rows.size} token accounts, {l.nfts.rows.size} nfts"]

end Replay

end LedgerProjection
