import LedgerProjection.Numeric.Checked

/-!
# Decimal integer text

Reading a signed 64-bit integer from text: an optional `+` or `-`, then one or more ASCII
digits, nothing else. Digits are read from the left and the first fault met wins, so in
`"99999999999999999999x"` the overflow is reported, not the letter.
-/

namespace LedgerProjection

/-- Why a text is not a signed 64-bit integer. -/
inductive IntTextFault where
  | empty
  | invalidDigit
  | tooLarge
  | tooSmall
deriving DecidableEq, Repr

/-- The wording of each fault. -/
def IntTextFault.text : IntTextFault → String
  | .empty => "cannot parse integer from empty string"
  | .invalidDigit => "invalid digit found in string"
  | .tooLarge => "number too large to fit in target type"
  | .tooSmall => "number too small to fit in target type"

namespace IntText

/-- Accumulates digits into a magnitude that may not exceed `bound`. -/
def digitsUpTo (bound : Nat) (tooBig : IntTextFault) : Nat → List Char → Except IntTextFault Nat
  | acc, [] => .ok acc
  | acc, c :: rest =>
    if c.isDigit then
      let next := acc * 10 + (c.toNat - '0'.toNat)
      if next ≤ bound then digitsUpTo bound tooBig next rest else .error tooBig
    else .error .invalidDigit

/-- Reads a signed 64-bit integer. -/
def parseI64 (s : String) : Except IntTextFault Int :=
  match s.toList with
  | [] => .error .empty
  | ['+'] | ['-'] => .error .invalidDigit
  | '-' :: ds => (digitsUpTo 9223372036854775808 .tooSmall 0 ds).map fun n => -(n : Int)
  | '+' :: ds => (digitsUpTo 9223372036854775807 .tooLarge 0 ds).map fun n => (n : Int)
  | ds => (digitsUpTo 9223372036854775807 .tooLarge 0 ds).map fun n => (n : Int)

end IntText

end LedgerProjection
