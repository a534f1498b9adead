import LedgerProjection.Text.Debug
import LedgerProjection.Json.Value

/-!
# Reading typed values out of JSON

A `Decoder α` reads an `α` from a `Json` value or says why it cannot, as a `DecodeError`
whose `message` is the text the protocol reports for malformed records and requests.

Records are read field by field with the applicative `Fields`. When several fields are wrong,
the one reported is the one a reader walking the object's keys in sorted order meets first:
a bad value under the smallest key wins over every other fault, and a missing required field
is only reported when every present value is good, the first missing one in declaration
order. `Verdict.seq` keeps that choice, so the order in which a record's fields are listed
decides nothing but the missing-field order.

A record is read from an object by its keys or from a sequence by position, its fields in
declaration order. In a sequence a field without a default must be present, even one holding
an optional value; elements left over after the last field are a fault.

Tagged choices come in two forms: *internally tagged* (a `"type"` or `"kind"` key names the
variant and the other keys are its fields, or a sequence starts with the name and holds the
fields after it) and *externally tagged* (an object with one key, the variant's name, holding
its content; or just the name, for a variant without content). Inside an internally tagged
value the reader works on a buffered copy of the content, which differs from the document in
two ways, recorded by `Origin`: leftover elements of a sequence are counted against the
elements read, and an empty object may stand for a variant's missing content.
-/

namespace LedgerProjection

namespace Json

/-- What a reader met where it expected something else. -/
inductive Found where
  | null
  | bool (value : Bool)
  | int (value : Int)
  | float (value : Binary64)
  | str (value : String)
  | seq
  | map
  | unitVariant
deriving Inhabited

/-- The kind of a value, as a fault report names it. -/
def Found.of : Json → Found
  | .null => .null
  | .bool b => .bool b
  | .int n => .int n
  | .float x => .float x
  | .str s => .str s
  | .arr _ => .seq
  | .obj _ => .map

/-- How a fault report describes what it met. -/
def Found.describe : Found → String
  | .null => "null"
  | .bool b => "boolean `" ++ (if b then "true" else "false") ++ "`"
  | .int n => "integer `" ++ toString n ++ "`"
  | .float x => "floating point `" ++ floatText x ++ "`"
  | .str s => "string " ++ Debug.string s
  | .seq => "sequence"
  | .map => "map"
  | .unitVariant => "unit variant"

/-- Why a value could not be read as the type asked for. -/
inductive DecodeError where
  /-- A value of the wrong kind. -/
  | invalidType (found : Found) (expected : String)
  /-- A value of the right kind outside the accepted ones. -/
  | invalidValue (found : Found) (expected : String)
  /-- A sequence of the wrong length. -/
  | invalidLength (length : Nat) (expected : String)
  /-- A variant name that the choice does not have. -/
  | unknownVariant (name : String) (expected : List String)
  /-- A required field that is absent. -/
  | missingField (name : String)
  /-- A fault reported by the type's own reading rule, with its text. -/
  | custom (text : String)
deriving Inhabited

/-- Names in backticks, joined with commas. -/
def ticked (names : List String) : String :=
  ", ".intercalate (names.map fun n => "`" ++ n ++ "`")

/-- The text of a fault. -/
def DecodeError.message : DecodeError → String
  | .invalidType found expected =>
    "invalid type: " ++ found.describe ++ ", expected " ++ expected
  | .invalidValue found expected =>
    "invalid value: " ++ found.describe ++ ", expected " ++ expected
  | .invalidLength n expected => "invalid length " ++ toString n ++ ", expected " ++ expected
  | .unknownVariant name expected =>
    "unknown variant `" ++ name ++ "`, " ++
      match expected with
      | [] => "there are no variants"
      | [a] => "expected `" ++ a ++ "`"
      | [a, b] => "expected `" ++ a ++ "` or `" ++ b ++ "`"
      | names => "expected one of " ++ ticked names
  | .missingField name => "missing field `" ++ name ++ "`"
  | .custom text => text

/-- `n` elements, in words. -/
def elementCount (n : Nat) : String :=
  if n = 1 then "1 element" else toString n ++ " elements"

end Json

/-- Where a value is read from: the parsed document itself, or the buffered copy of an
internally tagged value's content. -/
inductive Origin where
  | document
  | buffered
deriving DecidableEq, Inhabited

namespace Origin

/-- The fault for `extra` elements left in a sequence after `read` of them were taken. -/
def leftover (o : Origin) (read extra : Nat) : Json.DecodeError :=
  match o with
  | .document => .invalidLength (read + extra) "fewer elements in array"
  | .buffered => .invalidLength (read + extra) (Json.elementCount read ++ " in sequence")

/-- `a`, when no element is left after `read` were taken; the leftover fault otherwise. -/
def finish {α : Type} (o : Origin) (read : Nat) (rest : List Json) (a : α) :
    Except Json.DecodeError α :=
  if rest.isEmpty then .ok a else .error (o.leftover read rest.length)

end Origin

/-- A reader of `α` values, from a value met in the document or in buffered content. -/
abbrev Decoder (α : Type) := Origin → Json → Except Json.DecodeError α

namespace Decoder

open Json

/-- Reads a value of the document. -/
def run {α : Type} (d : Decoder α) (j : Json) : Except DecodeError α := d .document j

/-- An integer in `[lo, hi)`, named `name` in faults. -/
def intIn (lo hi : Int) (name : String) : Decoder Int
  | _, .int n => if lo ≤ n ∧ n < hi then .ok n else .error (.invalidValue (.int n) name)
  | _, j => .error (.invalidType (Found.of j) name)

/-- A signed 64-bit integer. -/
def i64 : Decoder Int := intIn (-9223372036854775808) 9223372036854775808 "i64"

/-- A signed 32-bit integer. -/
def i32 : Decoder Int := intIn (-2147483648) 2147483648 "i32"

/-- An unsigned 32-bit integer. -/
def u32 : Decoder Nat := fun o j => (intIn 0 4294967296 "u32" o j).map Int.toNat

/-- An unsigned 64-bit size. -/
def usize : Decoder Nat := fun o j => (intIn 0 18446744073709551616 "usize" o j).map Int.toNat

/-- A byte. -/
def u8 : Decoder UInt8 := fun o j => (intIn 0 256 "u8" o j).map fun n => n.toNat.toUInt8

/-- A boolean. -/
def bool : Decoder Bool
  | _, .bool b => .ok b
  | _, j => .error (.invalidType (Found.of j) "a boolean")

/-- A string. -/
def string : Decoder String
  | _, .str s => .ok s
  | _, j => .error (.invalidType (Found.of j) "a string")

/-- Reads every element in order; the first fault wins. -/
def elements {α : Type} (d : Decoder α) (o : Origin) : List Json → Except DecodeError (List α)
  | [] => .ok []
  | j :: rest => do
    let a ← d o j
    let as ← elements d o rest
    pure (a :: as)

/-- A sequence of values. -/
def list {α : Type} (d : Decoder α) : Decoder (List α)
  | o, .arr items => elements d o items
  | _, j => .error (.invalidType (Found.of j) "a sequence")

/-- Bytes in record form: a sequence of integers 0 to 255. -/
def bytes : Decoder (List UInt8) := list u8

/-- `null` is `none`; anything else is read by `d`. -/
def option {α : Type} (d : Decoder α) : Decoder (Option α)
  | _, .null => .ok none
  | o, j => (d o j).map some

/-- A pair written as a two-element sequence. -/
def pair {α β : Type} (da : Decoder α) (db : Decoder β) : Decoder (α × β)
  | o, .arr items =>
    let expected := "a tuple of size 2"
    match items with
    | [] => .error (.invalidLength 0 expected)
    | [a] => do let _ ← da o a; .error (.invalidLength 1 expected)
    | a :: b :: rest => do
      let x ← da o a
      let y ← db o b
      o.finish 2 rest (x, y)
  | _, j => .error (.invalidType (Found.of j) "a tuple of size 2")

/-- A triple written as a three-element sequence. -/
def triple {α β γ : Type} (da : Decoder α) (db : Decoder β) (dc : Decoder γ) :
    Decoder (α × β × γ)
  | o, .arr items =>
    let expected := "a tuple of size 3"
    match items with
    | [] => .error (.invalidLength 0 expected)
    | [a] => do let _ ← da o a; .error (.invalidLength 1 expected)
    | [a, b] => do let _ ← da o a; let _ ← db o b; .error (.invalidLength 2 expected)
    | a :: b :: c :: rest => do
      let x ← da o a
      let y ← db o b
      let z ← dc o c
      o.finish 3 rest (x, y, z)
  | _, j => .error (.invalidType (Found.of j) "a tuple of size 3")

end Decoder

/-! ### Records field by field -/

/-- Which of two faults of a record is reported: a bad value under a smaller key first, then
bad values under larger keys, then missing fields. -/
inductive Rank where
  | badValue (key : String)
  | absent

/-- `r` is reported before `s`. -/
def Rank.before : Rank → Rank → Bool
  | .badValue a, .badValue b => a < b
  | .badValue _, .absent => true
  | .absent, _ => false

/-- The outcome of reading part of a record from an object: its value, or the fault reported
first. -/
inductive Verdict (α : Type) where
  | ok (value : α)
  | fault (rank : Rank) (error : Json.DecodeError)

namespace Verdict

/-- Applies a read function to a read argument, keeping the fault reported first. -/
def seq {α β : Type} : Verdict (α → β) → Verdict α → Verdict β
  | .ok f, .ok a => .ok (f a)
  | .ok _, .fault r e => .fault r e
  | .fault r e, .ok _ => .fault r e
  | .fault r₁ e₁, .fault r₂ e₂ =>
    if r₂.before r₁ then .fault r₂ e₂ else .fault r₁ e₁

/-- Applies a function to the value. -/
def map {α β : Type} (f : α → β) : Verdict α → Verdict β
  | .ok a => .ok (f a)
  | .fault r e => .fault r e

end Verdict

/-- Why reading a record's fields from a sequence stopped. -/
inductive SeqStop where
  /-- The elements ran out at the field in this position, which has no default. -/
  | short (index : Nat)
  /-- An element could not be read. -/
  | fault (error : Json.DecodeError)

/-- A reader of (part of) a record: from the entries of an object, or from the elements of a
sequence, one element a field, in declaration order. -/
structure Fields (α : Type) where
  /-- How many fields, and so how many elements of a sequence, the reader takes. -/
  width : Nat
  /-- Reads the fields from an object's entries. -/
  fromMap : Origin → List (String × Json) → Verdict α
  /-- Reads the fields from the front of a sequence, the first of them in position `index`;
  gives the value and the elements after them. -/
  fromSeq : Origin → (index : Nat) → List Json → Except SeqStop (α × List Json)

namespace Fields

instance : Functor Fields where
  map f r := ⟨r.width, fun o kvs => (r.fromMap o kvs).map f,
    fun o i items => (r.fromSeq o i items).map fun p => (f p.1, p.2)⟩

instance : Applicative Fields where
  pure a := ⟨0, fun _ _ => .ok a, fun _ _ items => .ok (a, items)⟩
  seq rf ra :=
    let rb := ra ()
    ⟨rf.width + rb.width, fun o kvs => Verdict.seq (rf.fromMap o kvs) (rb.fromMap o kvs),
      fun o i items => do
        let (f, rest) ← rf.fromSeq o i items
        let (a, rest) ← rb.fromSeq o (i + rf.width) rest
        pure (f a, rest)⟩

/-- One field: the entry `name` of an object, or the next element of a sequence.
`whenAbsent` is the value when the object has no such entry, and `whenShort` when the
sequence has no element left; `none` makes either a fault. -/
def field {α : Type} (name : String) (d : Decoder α) (whenAbsent whenShort : Option α) :
    Fields α where
  width := 1
  fromMap o kvs :=
    match Json.lookup kvs name with
    | none =>
      match whenAbsent with
      | some a => .ok a
      | none => .fault .absent (.missingField name)
    | some v =>
      match d o v with
      | .ok a => .ok a
      | .error e => .fault (.badValue name) e
  fromSeq o i items :=
    match items with
    | [] =>
      match whenShort with
      | some a => .ok (a, [])
      | none => .error (.short i)
    | v :: rest =>
      match d o v with
      | .ok a => .ok (a, rest)
      | .error e => .error (.fault e)

/-- A required field. -/
def req {α : Type} (name : String) (d : Decoder α) : Fields α := field name d none none

/-- A field that takes `dflt` when absent, from an object or from the end of a sequence. -/
def withDefault {α : Type} (name : String) (d : Decoder α) (dflt : α) : Fields α :=
  field name d (some dflt) (some dflt)

/-- An optional field with a default: absent or `null` is `none`. -/
def opt {α : Type} (name : String) (d : Decoder α) : Fields (Option α) :=
  withDefault name (Decoder.option d) none

/-- An optional field without a default: `null` is `none`, and so is an absent entry of an
object, but a sequence must hold it. -/
def nullable {α : Type} (name : String) (d : Decoder α) : Fields (Option α) :=
  field name (Decoder.option d) (some none) none

end Fields

namespace Decoder

open Json

/-- A record read by `fields` from an object or a sequence; `what` is how faults name the
record type (`struct Name`, or `struct variant Choice::Name`). -/
def record {α : Type} (what : String) (fields : Fields α) : Decoder α
  | o, .obj kvs =>
    match fields.fromMap o kvs with
    | .ok a => .ok a
    | .fault _ e => .error e
  | o, .arr items =>
    match fields.fromSeq o 0 items with
    | .ok (a, rest) => o.finish fields.width rest a
    | .error (.short i) =>
      .error (.invalidLength i (what ++ " with " ++ elementCount fields.width))
    | .error (.fault e) => .error e
  | _, j => .error (.invalidType (Found.of j) what)

/-- A record type named `name`. -/
def struct {α : Type} (name : String) (fields : Fields α) : Decoder α :=
  record ("struct " ++ name) fields

/-- A variant with named fields, `name` written `Choice::Variant`. -/
def structVariant {α : Type} (name : String) (fields : Fields α) : Decoder α :=
  record ("struct variant " ++ name) fields

/-- A variant without content of an internally tagged choice: any other keys of the object
are ignored, but a sequence must hold nothing after the name. -/
def bareVariant {α : Type} (a : α) : Decoder α
  | o, .arr items => o.finish 0 items a
  | _, _ => .ok a

/-- An internally tagged choice: the key `tag` of an object, or the first element of a
sequence, names the variant, and the variant's decoder reads the rest on a buffered copy.
`variant` gives the decoder of each known name; `fallback`, when present, reads every other
name (a catch-all variant). -/
def tagged {α : Type} (enumName tag : String) (names : List String)
    (variant : String → Option (Decoder α)) (fallback : Option (Decoder α)) : Decoder α
  | _, j =>
    let dispatch : String → Json → Except DecodeError α := fun name content =>
      match variant name, fallback with
      | some d, _ => d .buffered content
      | none, some d => d .buffered content
      | none, none => .error (.unknownVariant name names)
    match j with
    | .obj kvs =>
      match Json.lookup kvs tag with
      | none => .error (.missingField tag)
      | some (.str name) => dispatch name (.obj (kvs.filter fun kv => kv.1 ≠ tag))
      | some other => .error (.invalidType (Found.of other) "variant identifier")
    | .arr [] => .error (.missingField tag)
    | .arr (.str name :: rest) => dispatch name (.arr rest)
    | .arr (other :: _) => .error (.invalidType (Found.of other) "variant identifier")
    | j => .error (.invalidType (Found.of j) ("internally tagged enum " ++ enumName))

/-- The shape of a variant of an externally tagged choice. -/
inductive Shape (α : Type) where
  /-- A variant without content. -/
  | unit (value : α)
  /-- A variant holding one value. -/
  | newtype (d : Decoder α)
  /-- A variant holding named fields. -/
  | record (d : Decoder α)

/-- The content of a variant without content: `null`, or in buffered content also an empty
object. -/
def unitContent {α : Type} (a : α) : Decoder α
  | _, .null => .ok a
  | .buffered, .obj [] => .ok a
  | _, j => .error (.invalidType (Found.of j) "unit")

/-- An externally tagged choice: a one-key object naming the variant and holding its content,
or a bare name for a variant without content. -/
def external {α : Type} (names : List String) (variant : String → Option (Shape α)) :
    Decoder α
  | o, .obj kvs =>
    match Json.entries kvs with
    | [(name, content)] =>
      match variant name with
      | none => .error (.unknownVariant name names)
      | some (.unit a) => unitContent a o content
      | some (.newtype d) => d o content
      | some (.record d) => d o content
    | _ => .error (.invalidValue .map "map with a single key")
  | _, .str name =>
    match variant name with
    | none => .error (.unknownVariant name names)
    | some (.unit a) => .ok a
    | some (.newtype _) => .error (.invalidType .unitVariant "newtype variant")
    | some (.record _) => .error (.invalidType .unitVariant "struct variant")
  | _, j => .error (.invalidType (Found.of j) "string or map")

/-- A choice among named constants, written as the name. -/
def enum {α : Type} (table : List (String × α)) : Decoder α :=
  external (table.map Prod.fst) fun name =>
    (table.find? fun p => p.1 = name).map fun p => .unit p.2

end Decoder

end LedgerProjection
