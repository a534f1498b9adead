import LedgerProjection.Text.Debug

/-!
# Hexadecimal text of byte strings

Byte strings are `List UInt8`. `Hex.encode` writes two lower-case digits per byte;
`Hex.decode` reads them back, accepting either case, and reports the first fault: an odd
number of characters, or the first character that is no hexadecimal digit (with its byte
position).
-/

namespace LedgerProjection

namespace Hex

/-- The lower-case digit of a value below 16. -/
def digit (n : Nat) : Char :=
  if n < 10 then Char.ofNat ('0'.toNat + n) else Char.ofNat ('a'.toNat + n - 10)

/-- The two digits of a byte. -/
def byteDigits (b : UInt8) : List Char := [digit (b.toNat / 16), digit (b.toNat % 16)]

/-- Lower-case hexadecimal text of a byte string. -/
def encode (bytes : List UInt8) : String := String.ofList (bytes.flatMap byteDigits)

/-- Hexadecimal text with a `0x` prefix. -/
def prefixed (bytes : List UInt8) : String := "0x" ++ encode bytes

/-- Why a text is not hexadecimal bytes. -/
inductive Fault where
  | oddLength
  | invalidCharacter (c : Char) (position : Nat)

/-- The wording of each fault. -/
def Fault.text : Fault → String
  | .oddLength => "Odd number of digits"
  | .invalidCharacter c i => "Invalid character " ++ Debug.char c ++ " at position " ++ toString i

/-- The value of a hexadecimal digit byte. -/
def value? (b : UInt8) : Option Nat :=
  let n := b.toNat
  if 48 ≤ n ∧ n ≤ 57 then some (n - 48)
  else if 97 ≤ n ∧ n ≤ 102 then some (n - 87)
  else if 65 ≤ n ∧ n ≤ 70 then some (n - 55)
  else none

/-- Reads pairs of digit bytes; `pos` is the position of the first. -/
def pairs : Nat → List UInt8 → Except Fault (List UInt8)
  | _, [] => .ok []
  | pos, [b] => .error (.invalidCharacter (Char.ofNat b.toNat) pos)
  | pos, hi :: lo :: rest =>
    match value? hi, value? lo with
    | some h, some l => (pairs (pos + 2) rest).map fun tail => (h * 16 + l).toUInt8 :: tail
    | none, _ => .error (.invalidCharacter (Char.ofNat hi.toNat) pos)
    | some _, none => .error (.invalidCharacter (Char.ofNat lo.toNat) (pos + 1))

/-- Reads hexadecimal text into bytes. -/
def decode (text : String) : Except Fault (List UInt8) :=
  let raw := text.toUTF8.toList
  if raw.length % 2 ≠ 0 then .error .oddLength else pairs 0 raw

end Hex

end LedgerProjection
