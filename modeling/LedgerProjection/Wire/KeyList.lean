/-!
# Key lists in protocol-buffer wire form

A key list is a message whose field 1 repeats: each entry is an already serialized key,
written as the tag byte `0x0a`, the length as a base-128 varint, and the bytes.

Reading accepts exactly the well-formed messages: every field header is a varint of at most
32 bits with a field number of at least 1 and a wire type among varint, 64-bit,
length-delimited, group start and 32-bit; field 1 must be length-delimited; other fields are
skipped by their wire type; nothing may run past the end. Skipping has a depth budget of 100:
a field is skipped at the message's top level with the whole budget, inside a group with one
less than the group had, and no field is skipped once the budget is spent.
-/

namespace LedgerProjection

namespace KeyList

/-- The base-128 varint of `n`, low groups first; `fuel` bounds the number of bytes. -/
def varintWith (fuel : Nat) (n : Nat) : List UInt8 :=
  match fuel with
  | 0 => []
  | fuel + 1 =>
    if n < 128 then [n.toUInt8] else (n % 128 + 128).toUInt8 :: varintWith fuel (n / 128)

/-- The varint of `n`. -/
def varint (n : Nat) : List UInt8 := varintWith (n + 1) n

/-- The message holding `keys` in field 1. -/
def encode (keys : List (List UInt8)) : List UInt8 :=
  keys.flatMap fun k => 0x0a :: varint k.length ++ k

/-- Reads a varint of at most ten bytes that fits 64 bits. -/
def readVarint (bytes : List UInt8) : Option (Nat × List UInt8) :=
  let rec go : Nat → Nat → List UInt8 → Option (Nat × List UInt8)
    | _, _, [] => none
    | i, acc, b :: rest =>
      let acc := acc + (b.toNat % 128) * Nat.pow 2 (7 * i)
      if b.toNat < 128 then
        if i = 9 && b.toNat > 1 then none else some (acc, rest)
      else if i = 9 then none
      else go (i + 1) acc rest
  go 0 0 bytes

/-- `n` bytes taken from the front, when there are that many. -/
def takeExactly (n : Nat) (bytes : List UInt8) : Option (List UInt8 × List UInt8) :=
  if n ≤ bytes.length then some (bytes.take n, bytes.drop n) else none

/-- Reads a field header: field number and wire type. -/
def readKey (bytes : List UInt8) : Option ((Nat × Nat) × List UInt8) := do
  let (key, rest) ← readVarint bytes
  if key ≥ 4294967296 then none
  else
    let wire := key % 8
    let field := key / 8
    if wire ≥ 6 || field = 0 then none else some ((field, wire), rest)

/-- Skips the value of field `field` of the given wire type. `fuel` bounds the steps and
`depth` is the remaining depth budget; a group ends at the end mark of its own field. -/
def skip (fuel depth : Nat) (field wire : Nat) (bytes : List UInt8) : Option (List UInt8) :=
  match fuel with
  | 0 => none
  | fuel + 1 =>
    if depth = 0 then none else
    match wire with
    | 0 => (readVarint bytes).map Prod.snd
    | 1 => (takeExactly 8 bytes).map Prod.snd
    | 2 => do
      let (len, rest) ← readVarint bytes
      (takeExactly len rest).map Prod.snd
    | 3 =>
      let rec groupBody : Nat → List UInt8 → Option (List UInt8)
        | 0, _ => none
        | steps + 1, bytes => do
          let ((f, w), rest) ← readKey bytes
          if w = 4 then
            if f = field then some rest else none
          else
            let rest ← skip fuel (depth - 1) f w rest
            groupBody steps rest
      groupBody (bytes.length + 1) bytes
    | 5 => (takeExactly 4 bytes).map Prod.snd
    | _ => none

/-- Reads the message's fields in order; `fuel` bounds the number of fields. -/
def readFields (fuel : Nat) (bytes : List UInt8) (acc : List (List UInt8)) :
    Option (List (List UInt8)) :=
  match fuel with
  | 0 => if bytes.isEmpty then some acc.reverse else none
  | fuel + 1 =>
    match bytes with
    | [] => some acc.reverse
    | _ => do
      let ((field, wire), rest) ← readKey bytes
      if field = 1 then
        if wire ≠ 2 then none
        else
          let (len, rest) ← readVarint rest
          let (key, rest) ← takeExactly len rest
          readFields fuel rest (key :: acc)
      else
        let rest ← skip (rest.length + 2) 100 field wire rest
        readFields fuel rest acc

/-- The keys of a key list, or `none` when the bytes are not a well-formed message. -/
def decode (bytes : List UInt8) : Option (List (List UInt8)) :=
  readFields (bytes.length + 1) bytes []

end KeyList

end LedgerProjection
