import LedgerProjection.Json.Value

/-!
# JSON text

Reading a line of JSON text into a `Json` value and writing a value back as compact text.

The reader follows the strict grammar of RFC 8259 and reports the first fault the way a
streaming reader meets it: a cause (`SyntaxFault`) and the line and column where it was
noticed. Columns count bytes. A fault found while looking at the next character is placed on
that character; a fault found after consuming a character is placed on the last consumed one.
Nesting is limited to 127 open containers.

Numbers are classified as the reading side of the protocol needs them (see `Json`): integer
literals of at most 64 bits are exact integers, `-0` and everything else are doubles. A double
is made the way a fast reader makes it rather than correctly rounded: at most a 64-bit
significand is kept (later digits are dropped, not rounded), and it is scaled by a power of
ten in double arithmetic; a result too large for a double is out of range.
-/

namespace LedgerProjection

namespace Json

/-- Why a text is not a JSON document. -/
inductive SyntaxFault where
  | eofWhileParsingValue
  | eofWhileParsingList
  | eofWhileParsingObject
  | eofWhileParsingString
  | expectedColon
  | expectedListCommaOrEnd
  | expectedObjectCommaOrEnd
  | expectedSomeIdent
  | expectedSomeValue
  | invalidEscape
  | invalidNumber
  | numberOutOfRange
  | controlCharacter
  | keyMustBeAString
  | trailingCharacters
  | trailingComma
  | recursionLimitExceeded
  | loneLeadingSurrogate
  | unexpectedEndOfHexEscape
deriving DecidableEq, Repr

/-- The wording of each fault. -/
def SyntaxFault.text : SyntaxFault → String
  | .eofWhileParsingValue => "EOF while parsing a value"
  | .eofWhileParsingList => "EOF while parsing a list"
  | .eofWhileParsingObject => "EOF while parsing an object"
  | .eofWhileParsingString => "EOF while parsing a string"
  | .expectedColon => "expected `:`"
  | .expectedListCommaOrEnd => "expected `,` or `]`"
  | .expectedObjectCommaOrEnd => "expected `,` or `\x7d`"
  | .expectedSomeIdent => "expected ident"
  | .expectedSomeValue => "expected value"
  | .invalidEscape => "invalid escape"
  | .invalidNumber => "invalid number"
  | .numberOutOfRange => "number out of range"
  | .controlCharacter => "control character (\\u0000-\\u001F) found while parsing a string"
  | .keyMustBeAString => "key must be a string"
  | .trailingCharacters => "trailing characters"
  | .trailingComma => "trailing comma"
  | .recursionLimitExceeded => "recursion limit exceeded"
  | .loneLeadingSurrogate => "lone leading surrogate in hex escape"
  | .unexpectedEndOfHexEscape => "unexpected end of hex escape"

/-- A fault and the byte offset it is reported at. -/
structure ReadError where
  fault : SyntaxFault
  offset : Nat

/-- A reading position: the characters still to read and the number of bytes read. -/
structure Cursor where
  rest : List Char
  used : Nat

namespace Cursor

/-- The position after the next character. -/
def advance (c : Cursor) : Cursor :=
  match c.rest with
  | [] => c
  | ch :: rest => ⟨rest, c.used + ch.utf8Size⟩

/-- The next character, if any. -/
def peek (c : Cursor) : Option Char := c.rest.head?

/-- Skips blanks: space, tab, line feed and carriage return. -/
def skipBlanks (c : Cursor) : Cursor :=
  let blank : Char → Bool := fun ch => ch = ' ' || ch = '\n' || ch = '\t' || ch = '\r'
  let skipped := c.rest.takeWhile blank
  ⟨c.rest.dropWhile blank, c.used + skipped.length⟩

/-- A fault placed on the last consumed character. -/
def fail {α : Type} (c : Cursor) (fault : SyntaxFault) : Except ReadError α :=
  .error ⟨fault, c.used⟩

/-- A fault placed on the next character (or at the end, when there is none). -/
def failAhead {α : Type} (c : Cursor) (fault : SyntaxFault) : Except ReadError α :=
  .error ⟨fault, if c.rest.isEmpty then c.used else c.used + 1⟩

end Cursor

/-- The value of a hexadecimal digit. -/
def hexDigit? (ch : Char) : Option Nat :=
  if '0' ≤ ch ∧ ch ≤ '9' then some (ch.toNat - '0'.toNat)
  else if 'a' ≤ ch ∧ ch ≤ 'f' then some (ch.toNat - 'a'.toNat + 10)
  else if 'A' ≤ ch ∧ ch ≤ 'F' then some (ch.toNat - 'A'.toNat + 10)
  else none

/-- Reads the four hexadecimal digits of a `\u` escape. -/
def hexQuad (c : Cursor) : Except ReadError (Nat × Cursor) :=
  let step : Except ReadError (Nat × Cursor) → Unit → Except ReadError (Nat × Cursor) :=
    fun acc _ => do
      let (n, c) ← acc
      match c.peek with
      | none => c.advance.fail .eofWhileParsingString
      | some ch =>
        match hexDigit? ch with
        | some d => pure (n * 16 + d, c.advance)
        | none => c.advance.fail .invalidEscape
  [(), (), (), ()].foldl step (.ok (0, c))

/-- Reads what follows `\u`: one code unit, or a surrogate pair written as two escapes. -/
def unicodeEscape (c : Cursor) : Except ReadError (Char × Cursor) := do
  let (n, c) ← hexQuad c
  if 0xDC00 ≤ n ∧ n ≤ 0xDFFF then
    c.fail .loneLeadingSurrogate
  else if n < 0xD800 ∨ 0xDBFF < n then
    pure (Char.ofNat n, c)
  else
    match c.rest with
    | '\\' :: 'u' :: _ =>
      let (low, c') ← hexQuad c.advance.advance
      if low < 0xDC00 ∨ 0xDFFF < low then c'.fail .loneLeadingSurrogate
      else pure (Char.ofNat (((n - 0xD800) * 0x400 + (low - 0xDC00)) + 0x10000), c')
    | '\\' :: [] => c.advance.failAhead .eofWhileParsingString
    | '\\' :: _ :: _ => c.advance.advance.fail .unexpectedEndOfHexEscape
    | [] => c.failAhead .eofWhileParsingString
    | _ :: _ => c.advance.fail .unexpectedEndOfHexEscape

/-- Reads one escape, the backslash already consumed. -/
def escape (c : Cursor) : Except ReadError (Char × Cursor) :=
  match c.peek with
  | none => c.fail .eofWhileParsingString
  | some '"' => pure ('"', c.advance)
  | some '\\' => pure ('\\', c.advance)
  | some '/' => pure ('/', c.advance)
  | some 'b' => pure ('\x08', c.advance)
  | some 'f' => pure ('\x0c', c.advance)
  | some 'n' => pure ('\n', c.advance)
  | some 'r' => pure ('\r', c.advance)
  | some 't' => pure ('\t', c.advance)
  | some 'u' => unicodeEscape c.advance
  | some _ => c.advance.fail .invalidEscape

/-- Reads the body of a string, the opening quote already consumed; `fuel` bounds the number
of characters read. -/
def stringBody (fuel : Nat) (c : Cursor) (acc : List Char) : Except ReadError (String × Cursor) :=
  match fuel with
  | 0 => c.fail .eofWhileParsingString
  | fuel + 1 =>
    match c.peek with
    | none => c.fail .eofWhileParsingString
    | some '"' => pure (String.ofList acc.reverse, c.advance)
    | some '\\' => do
      let (ch, c) ← escape c.advance
      stringBody fuel c (ch :: acc)
    | some ch =>
      if ch.toNat < 0x20 then c.advance.fail .controlCharacter
      else stringBody fuel c.advance (ch :: acc)

/-- The digits at the start of the input. -/
def digitsAt (c : Cursor) : List Char := c.rest.takeWhile Char.isDigit

/-- The largest 64-bit unsigned word. -/
def u64Max : Nat := 18446744073709551615

/-- The largest 32-bit signed word. -/
def i32Max : Nat := 2147483647

/-- The value of a decimal digit. -/
def digitValue (ch : Char) : Nat := ch.toNat - '0'.toNat

/-- Takes digits into a significand while it stays a 64-bit word: the significand, and the
digits left from the first one that would overflow it. -/
def takeSignificand (sig : Nat) : List Char → Nat × List Char
  | [] => (sig, [])
  | d :: ds =>
    if sig * 10 + digitValue d > u64Max then (sig, d :: ds)
    else takeSignificand (sig * 10 + digitValue d) ds

/-- Reads exponent digits while the value stays a 32-bit signed word: the value, or else the
number of digits read up to and including the one that overflows it. -/
def takeExponent (exp count : Nat) : List Char → Except Nat Nat
  | [] => .ok exp
  | d :: ds =>
    if exp * 10 + digitValue d > i32Max then .error (count + 1)
    else takeExponent (exp * 10 + digitValue d) (count + 1) ds

/-- Clamps to the 32-bit signed range, as a saturating sum does. -/
def saturate32 (n : Int) : Int := max (-2147483648) (min 2147483647 n)

/-- The double a reader makes of `f · 10 ^ exponent`, `f` being the significand already
rounded to a double: it multiplies by the double nearest `10 ^ exponent`, or divides by the
one nearest `10 ^ -exponent`, each step rounded. Beyond `10 ^ ±308` a zero stays zero, a
positive exponent is out of range (`none`), and a negative one divides by `1e308` first. Each
such division takes a 64-bit significand down by more than `10 ^ 288`, so three of them reach
zero and eight rounds of fuel always suffice. -/
def scaleByTen : Nat → Binary64 → Int → Option Binary64
  | 0, f, _ => some f
  | fuel + 1, f, exponent =>
    if exponent.natAbs ≤ 308 then
      if 0 ≤ exponent then (Binary64.powerOfTen exponent.toNat).bind f.mul
      else (Binary64.powerOfTen exponent.natAbs).bind f.div
    else if f.isZero then some f
    else if 0 ≤ exponent then none
    else ((Binary64.powerOfTen 308).bind f.div).bind fun g => scaleByTen fuel g (exponent + 308)

/-- The signed double of `sig · 10 ^ exponent` read up to the cursor, or the out-of-range
fault placed on its last character. -/
def fromParts (c : Cursor) (positive : Bool) (sig : Nat) (exponent : Int) :
    Except ReadError (Json × Cursor) :=
  match (Binary64.ofNat (!positive) sig).bind fun f => scaleByTen 8 f exponent with
  | some x => .ok (.float x, c)
  | none => c.fail .numberOutOfRange

/-- Reads an exponent, the cursor on the `e`, after a significand `sig` whose decimal exponent
so far is `start`. An exponent beyond the 32-bit range is out of range, placed on the digit
that overflows it, when positive and the significand is not zero; otherwise it makes a zero. -/
def exponentPart (c : Cursor) (positive : Bool) (sig : Nat) (start : Int) :
    Except ReadError (Json × Cursor) :=
  let c4 := c.advance
  let (expPositive, c5) :=
    match c4.peek with
    | some '+' => (true, c4.advance)
    | some '-' => (false, c4.advance)
    | _ => (true, c4)
  match c5.peek with
  | none => c5.fail .eofWhileParsingValue
  | some e0 =>
    if !e0.isDigit then c5.advance.fail .invalidNumber
    else
      let ed := digitsAt c5
      let after : Cursor := ⟨c5.rest.drop ed.length, c5.used + ed.length⟩
      match takeExponent 0 0 ed with
      | .error n =>
        let overflowing : Cursor := ⟨c5.rest.drop n, c5.used + n⟩
        if sig != 0 && expPositive then overflowing.fail .numberOutOfRange
        else .ok (.float (Binary64.zero (!positive)), after)
      | .ok exp =>
        fromParts after positive sig (saturate32 (if expPositive then start + exp else start - exp))

/-- Reads a fraction, the cursor on the point, after a significand `sig` whose decimal
exponent so far is `start`. Digits that would overflow the significand are skipped. -/
def fractionPart (c : Cursor) (positive : Bool) (sig : Nat) (start : Int) :
    Except ReadError (Json × Cursor) :=
  let c2 := c.advance
  let fd := digitsAt c2
  let c3 : Cursor := ⟨c2.rest.drop fd.length, c2.used + fd.length⟩
  let (sig, left) := takeSignificand sig fd
  let exponent := start - ((fd.length - left.length : Nat) : Int)
  if fd.isEmpty then
    if c2.rest.isEmpty then c2.failAhead .eofWhileParsingValue else c2.failAhead .invalidNumber
  else
    match c3.peek with
    | some 'e' | some 'E' => exponentPart c3 positive sig exponent
    | _ => fromParts c3 positive sig exponent

/-- Reads a number, the sign already consumed (`positive` tells which). Integer digits that
would overflow a 64-bit significand are dropped, each raising the decimal exponent by one. -/
def number (c : Cursor) (positive : Bool) : Except ReadError (Json × Cursor) :=
  match c.peek with
  | none => c.fail .eofWhileParsingValue
  | some ch =>
    if !ch.isDigit then c.advance.fail .invalidNumber
    else
      let intDigits := if ch = '0' then ['0'] else digitsAt c
      let c1 : Cursor := ⟨c.rest.drop intDigits.length, c.used + intDigits.length⟩
      if ch = '0' && (c1.peek.map Char.isDigit).getD false then c1.failAhead .invalidNumber
      else
        let (sig, left) := takeSignificand 0 intDigits
        match c1.peek with
        | some '.' => fractionPart c1 positive sig left.length
        | some 'e' | some 'E' => exponentPart c1 positive sig left.length
        | _ =>
          if !left.isEmpty then fromParts c1 positive sig left.length
          else if positive then .ok (.int sig, c1)
          else if sig = 0 then .ok (.float (Binary64.zero true), c1)
          else if sig ≤ 9223372036854775808 then .ok (.int (-(sig : Int)), c1)
          else fromParts c1 positive sig 0

/-- Reads a literal name (`null`, `true`, `false`) whose first letter is already consumed. -/
def ident (c : Cursor) (tail : List Char) (result : Json) : Except ReadError (Json × Cursor) :=
  let step : Except ReadError Cursor → Char → Except ReadError Cursor := fun acc expected => do
    let c ← acc
    match c.peek with
    | none => c.fail .eofWhileParsingValue
    | some ch => if ch = expected then pure c.advance else c.advance.fail .expectedSomeIdent
  (tail.foldl step (.ok c)).map fun c => (result, c)

mutual

/-- Reads one value after optional blanks. `fuel` bounds the number of steps, `depth` the
containers that may still be opened, and `limit` (the length of the whole text) the
characters of a string. -/
def readValue (fuel depth limit : Nat) (c : Cursor) : Except ReadError (Json × Cursor) :=
  match fuel with
  | 0 => c.failAhead .recursionLimitExceeded
  | fuel + 1 =>
    let c := c.skipBlanks
    match c.peek with
    | none => c.failAhead .eofWhileParsingValue
    | some 'n' => ident c.advance ['u', 'l', 'l'] .null
    | some 't' => ident c.advance ['r', 'u', 'e'] (.bool true)
    | some 'f' => ident c.advance ['a', 'l', 's', 'e'] (.bool false)
    | some '-' => number c.advance false
    | some '"' => (stringBody limit c.advance []).map fun (s, c) => (.str s, c)
    | some '[' =>
      if depth ≤ 1 then c.failAhead .recursionLimitExceeded
      else (readElements fuel (depth - 1) limit c.advance [] true).map fun (items, c) =>
        (.arr items, c)
    | some '{' =>
      if depth ≤ 1 then c.failAhead .recursionLimitExceeded
      else (readMembers fuel (depth - 1) limit c.advance [] true).map fun (fields, c) =>
        (.obj fields, c)
    | some ch =>
      if ch.isDigit then number c true else c.failAhead .expectedSomeValue

/-- Reads the elements of an array up to its closing bracket. -/
def readElements (fuel depth limit : Nat) (c : Cursor) (acc : List Json) (first : Bool) :
    Except ReadError (List Json × Cursor) :=
  match fuel with
  | 0 => c.failAhead .recursionLimitExceeded
  | fuel + 1 =>
    let c := c.skipBlanks
    match c.peek with
    | some ']' => pure (acc.reverse, c.advance)
    | none => c.failAhead .eofWhileParsingList
    | some ch =>
      let next : Except ReadError Cursor :=
        if first then .ok c
        else if ch = ',' then .ok c.advance.skipBlanks
        else c.failAhead .expectedListCommaOrEnd
      match next with
      | .error e => .error e
      | .ok c =>
        match c.peek with
        | some ']' => c.failAhead .trailingComma
        | none => c.failAhead .eofWhileParsingValue
        | some _ => do
          let (v, c) ← readValue fuel depth limit c
          readElements fuel depth limit c (v :: acc) false

/-- Reads the members of an object up to its closing brace. -/
def readMembers (fuel depth limit : Nat) (c : Cursor) (acc : List (String × Json))
    (first : Bool) :
    Except ReadError (List (String × Json) × Cursor) :=
  match fuel with
  | 0 => c.failAhead .recursionLimitExceeded
  | fuel + 1 =>
    let c := c.skipBlanks
    match c.peek with
    | some '}' => pure (acc.reverse, c.advance)
    | none => c.failAhead .eofWhileParsingObject
    | some ch =>
      let next : Except ReadError Cursor :=
        if first then .ok c
        else if ch = ',' then .ok c.advance.skipBlanks
        else c.failAhead .expectedObjectCommaOrEnd
      match next with
      | .error e => .error e
      | .ok c =>
        match c.peek with
        | some '"' => do
          let (key, c) ← stringBody limit c.advance []
          let c := c.skipBlanks
          match c.peek with
          | some ':' =>
            let (v, c) ← readValue fuel depth limit c.advance
            readMembers fuel depth limit c ((key, v) :: acc) false
          | some _ => c.failAhead .expectedColon
          | none => c.failAhead .eofWhileParsingObject
        | some '}' => c.failAhead .trailingComma
        | some _ => c.failAhead .keyMustBeAString
        | none => c.failAhead .eofWhileParsingValue

end

/-- Line (from 1) and column (bytes into the line) of a byte offset in `text`. -/
def lineColumn (text : String) (offset : Nat) : Nat × Nat :=
  let step : (Nat × Nat × Nat) → Char → (Nat × Nat × Nat) := fun (line, col, used) ch =>
    if used ≥ offset then (line, col, used)
    else if ch = '\n' then (line + 1, 0, used + 1)
    else (line, col + ch.utf8Size, used + ch.utf8Size)
  let (line, col, _) := text.toList.foldl step (1, 0, 0)
  (line, col)

/-- The message of a reading fault: its wording and where it was noticed. -/
def ReadError.message (text : String) (e : ReadError) : String :=
  let (line, col) := lineColumn text e.offset
  e.fault.text ++ " at line " ++ toString line ++ " column " ++ toString col

/-- Reads a whole text as one JSON document; anything but blanks after it is a fault. -/
def parse (text : String) : Except String Json :=
  let chars := text.toList
  let start : Cursor := ⟨chars, 0⟩
  match readValue (chars.length + 2) 128 chars.length start with
  | .error e => .error (e.message text)
  | .ok (v, c) =>
    let c := c.skipBlanks
    if c.rest.isEmpty then .ok v
    else .error ((ReadError.mk .trailingCharacters (c.used + 1)).message text)

/-! ### Writing -/

/-- Four hexadecimal digits, lower case. -/
def hex4 (n : Nat) : String :=
  let d := Nat.toDigits 16 n
  String.ofList (List.replicate (4 - d.length) '0' ++ d)

/-- A character as it is written inside a JSON string. -/
def escapeChar (ch : Char) : String :=
  if ch = '"' then "\\\""
  else if ch = '\\' then "\\\\"
  else if ch = '\n' then "\\n"
  else if ch = '\r' then "\\r"
  else if ch = '\t' then "\\t"
  else if ch = '\x08' then "\\b"
  else if ch = '\x0c' then "\\f"
  else if ch.toNat < 0x20 then "\\u" ++ hex4 ch.toNat
  else ch.toString

/-- Appends a string as a JSON string literal. -/
def writeQuoted (out s : String) : String :=
  (s.foldl (fun acc ch => acc ++ escapeChar ch) (out.push '"')).push '"'

/-- A string as a JSON string literal. -/
def quote (s : String) : String := writeQuoted "" s

mutual

/-- Appends the compact text of a value to `out`. Every piece is appended once, left to
right, so writing takes time linear in the text written. -/
def write (out : String) : Json → String
  | .null => out ++ "null"
  | .bool b => out ++ (if b then "true" else "false")
  | .int n => out ++ toString n
  | .float x => out ++ floatText x
  | .str s => writeQuoted out s
  | .arr items => (writeItems (out.push '[') true items).push ']'
  | .obj fields => (writeFields (out.push '\x7b') true fields).push '\x7d'

/-- Appends the elements of an array, comma separated. -/
def writeItems (out : String) (first : Bool) : List Json → String
  | [] => out
  | j :: rest => writeItems (write (if first then out else out.push ',') j) false rest

/-- Appends the members of an object, comma separated. -/
def writeFields (out : String) (first : Bool) : List (String × Json) → String
  | [] => out
  | (k, v) :: rest =>
    let out := writeQuoted (if first then out else out.push ',') k
    writeFields (write (out.push ':') v) false rest

end

/-- The compact text of a value. -/
def render (j : Json) : String := write "" j

end Json

end LedgerProjection
