import LedgerProjection.Entity.Id

/-!
# Row keys

A history table is keyed by a tuple of ids and numbers: an entity id, a node number, an
(account, token) pair, a (token, serial) pair, and so on. A `RowKey` is that tuple as a list
of parts; keys of one table all have the same shape, and they are ordered part by part.

Fault reports show a key in debugging form: a lone part as itself, a tuple in parentheses.

Byte strings are ordered lexicographically, a proper prefix first.
-/

namespace LedgerProjection

/-- One component of a row key. -/
inductive KeyPart where
  | id (id : EntityId)
  | num (n : Int)
deriving DecidableEq, Repr

/-- The identity of a row in a history table. -/
abbrev RowKey := List KeyPart

namespace KeyPart

/-- Ids before numbers (never compared in practice: a table's keys share one shape). -/
def compare : KeyPart → KeyPart → Ordering
  | .id a, .id b => EntityId.compare a b
  | .num a, .num b => Ord.compare a b
  | .id _, .num _ => .lt
  | .num _, .id _ => .gt

/-- The debugging form of a part. -/
def debug : KeyPart → String
  | .id a => a.debug
  | .num n => toString n

end KeyPart

namespace RowKey

/-- Part-by-part order. -/
def compare : RowKey → RowKey → Ordering
  | [], [] => .eq
  | [], _ :: _ => .lt
  | _ :: _, [] => .gt
  | a :: as, b :: bs => (KeyPart.compare a b).then (compare as bs)

/-- The debugging form: a lone part as itself, a tuple in parentheses. -/
def debug : RowKey → String
  | [p] => p.debug
  | ps => "(" ++ ", ".intercalate (ps.map KeyPart.debug) ++ ")"

end RowKey

namespace Bytes

/-- Lexicographic order of byte strings. -/
def compare : List UInt8 → List UInt8 → Ordering
  | [], [] => .eq
  | [], _ :: _ => .lt
  | _ :: _, [] => .gt
  | a :: as, b :: bs => (Ord.compare a b).then (compare as bs)

end Bytes

end LedgerProjection
