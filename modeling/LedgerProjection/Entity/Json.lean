import LedgerProjection.Entity.Id
import LedgerProjection.Entity.Range
import LedgerProjection.Json.Decode

/-!
# Ids and ranges in records

An id is written as its `shard.realm.num` text; reading one accepts what `EntityId.parse`
accepts and reports its fault text. A range is an object `{"lower", "upper"}`.
-/

namespace LedgerProjection

namespace EntityId

/-- An id as a record field. -/
def toJson (id : EntityId) : Json := .str id.text

/-- Reads an id from its text. -/
def decoder : Decoder EntityId := fun o j => do
  let s ← Decoder.string o j
  match EntityId.parse s with
  | .ok id => pure id
  | .error e => .error (.custom e)

end EntityId

namespace TimestampRange

/-- A range as a record field. -/
def toJson (r : TimestampRange) : Json :=
  .obj [("lower", .int r.lower), ("upper", Json.opt .int r.upper)]

/-- Reads a range: `lower` is required, `upper` may be absent or `null`. -/
def decoder : Decoder TimestampRange :=
  Decoder.struct "TimestampRange" <|
    TimestampRange.mk <$> Fields.req "lower" Decoder.i64 <*> Fields.nullable "upper" Decoder.i64

end TimestampRange

end LedgerProjection
