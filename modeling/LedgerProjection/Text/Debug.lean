import LedgerProjection.Text.CharClass

/-!
# Debugging views of text

Fault reports show the text they met the way a debugging view writes it: a string in double
quotes, a character in single quotes, with the characters that would not read back escaped.

* The quote that delimits the view, the backslash, and the null, tab, carriage return and
  line feed characters are escaped by letter (`\"`, `\'`, `\\`, `\0`, `\t`, `\r`, `\n`).
* A character that extends the grapheme before it, or prints as nothing visible, is written
  as its code point in lowercase hexadecimal, `\u{..}`, without leading zeros.
* Every other character stands for itself, the other quote included.
-/

namespace LedgerProjection

namespace Debug

/-- Where an escaped character stands: in a string view or in a character view. -/
inductive Quote where
  | string
  | char
deriving DecidableEq

/-- The code point of a character, escaped. -/
def codePoint (ch : Char) : String :=
  "\\u\x7b" ++ String.ofList (Nat.toDigits 16 ch.toNat) ++ "\x7d"

/-- A character as a view quoted by `q` shows it. -/
def escape (q : Quote) (ch : Char) : String :=
  if ch = '\x00' then "\\0"
  else if ch = '\t' then "\\t"
  else if ch = '\r' then "\\r"
  else if ch = '\n' then "\\n"
  else if ch = '\\' then "\\\\"
  else if ch = '"' ∧ q = .string then "\\\""
  else if ch = '\'' ∧ q = .char then "\\'"
  else if CharClass.isGraphemeExtend ch || !CharClass.isPrintable ch then codePoint ch
  else ch.toString

/-- A string in double quotes, each character escaped. -/
def string (s : String) : String :=
  "\"" ++ String.join (s.toList.map (escape .string)) ++ "\""

/-- A character in single quotes, escaped. -/
def char (ch : Char) : String := "'" ++ escape .char ch ++ "'"

end Debug

end LedgerProjection
