import LedgerProjection.Numeric.Binary64

/-!
# JSON values

The documents that requests, transaction records and answers are written in. A number is
kept the way a reader of the wire format classifies it: an integer literal that fits a
64-bit word (signed or unsigned) is an `int`; any other number (a fraction, an exponent, an
integer beyond both ranges) is a `float`, kept as the double a reader of the wire format
makes of it.

Objects are lists of entries in the order they were written or built; readers that need the
sorted view of an object ask for `Json.entries`.
-/

namespace LedgerProjection

/-- A JSON document. -/
inductive Json where
  | null
  | bool (value : Bool)
  | int (value : Int)
  | float (value : Binary64)
  | str (value : String)
  | arr (items : List Json)
  | obj (fields : List (String × Json))
deriving Inhabited

namespace Json

/-- The text of a double in a fault report or a document. -/
def floatText (x : Binary64) : String := x.text

/-- The value an object holds under `key`: the last entry of that name wins, as when the
entries are inserted into a map one after another. -/
def lookup (fields : List (String × Json)) (key : String) : Option Json :=
  fields.foldl (fun found entry => if entry.1 = key then some entry.2 else found) none

/-- Inserts an entry into a list sorted by key, replacing an entry of the same key. -/
def insertEntry (entry : String × Json) : List (String × Json) → List (String × Json)
  | [] => [entry]
  | e :: rest =>
    if entry.1 < e.1 then entry :: e :: rest
    else if entry.1 = e.1 then entry :: rest
    else e :: insertEntry entry rest

/-- The entries of an object as a map holds them: sorted by key (byte order), one per key,
the later of two equal keys winning. -/
def entries (fields : List (String × Json)) : List (String × Json) :=
  fields.foldl (fun acc entry => insertEntry entry acc) []

/-- A field of an object, or `none` for any other value. -/
def field? (j : Json) (key : String) : Option Json :=
  match j with
  | .obj fields => lookup fields key
  | _ => none

/-- `none` becomes `null`; a value is written with `f`. -/
def opt {α : Type} (f : α → Json) : Option α → Json
  | none => .null
  | some a => f a

/-- Bytes in record form: an array of integers 0 to 255. -/
def byteArray (bytes : List UInt8) : Json :=
  .arr (bytes.map fun b => .int b.toNat)

/-- A list written element by element. -/
def list {α : Type} (f : α → Json) (xs : List α) : Json :=
  .arr (xs.map f)

end Json

end LedgerProjection
