/-!
# Double-precision values

The finite values of IEEE 754 binary64 ("doubles"), held exactly as a sign, an integer
significand and a power of two, with the arithmetic that reading a JSON number needs and the
decimal text a double prints as.

* `Binary64.nearest` rounds a ratio of naturals to the nearest double, ties to an even
  significand, and gives `none` when the result is too large for a double (it would round to
  infinity). `mul` and `div` are the correctly rounded product and quotient.
* `Binary64.shortest` finds the decimal with the fewest significant digits inside the double's
  rounding interval, and of those the nearest to it (a tie goes to the even one). `text`
  writes it out positionally when its leading digit is between the fifth place after the
  point and the sixteenth before it, and with a signed exponent otherwise.

The rounding interval is the one round-to-nearest-even reading gives: half the gap to each
neighbour, the bounds included when the significand is even. Only at a normal power of two
above the least normal value is the gap below half the gap above.
-/

namespace LedgerProjection

/-- A finite double, `(-1) ^ negative · significand · 2 ^ exponent`. A normal value has
`2 ^ 52 ≤ significand < 2 ^ 53` and `-1074 ≤ exponent ≤ 971`; a subnormal value, and zero,
has `significand < 2 ^ 52` and `exponent = -1074`. -/
structure Binary64 where
  negative : Bool
  significand : Nat
  exponent : Int
deriving DecidableEq, Repr, Inhabited

namespace Binary64

/-- The exponent of the least binary digit of the subnormal values. -/
def minExponent : Int := -1074

/-- The largest exponent of a double's least binary digit. -/
def maxExponent : Int := 971

/-- Zero, with a sign. -/
def zero (negative : Bool) : Binary64 := ⟨negative, 0, minExponent⟩

/-- The value is zero (of either sign). -/
def isZero (x : Binary64) : Bool := x.significand == 0

/-- `num / den · 2 ^ shift` as a ratio of naturals. -/
def ratio (num den : Nat) (shift : Int) : Nat × Nat :=
  if 0 ≤ shift then (num * Nat.pow 2 shift.toNat, den) else (num, den * Nat.pow 2 shift.natAbs)

/-- `num / den / 2 ^ e`, as quotient, remainder and divisor. -/
def divPow2 (num den : Nat) (e : Int) : Nat × Nat × Nat :=
  let (n, d) := ratio num den (-e)
  (n / d, n % d, d)

/-- The double nearest to `num / den` (for `den > 0`), ties to an even significand; `none`
when it is too large for a double.

`num / den / 2 ^ e₀` lies strictly between `2 ^ 51` and `2 ^ 53`, so one step down at most
brings the quotient into `[2 ^ 52, 2 ^ 53)`; the exponent is then raised to the subnormal
floor when below it. A round up that reaches `2 ^ 53` moves to the next binade. -/
def nearest (negative : Bool) (num den : Nat) : Option Binary64 :=
  if num = 0 then some (zero negative)
  else
    let e₀ : Int := (Nat.log2 num : Int) - Nat.log2 den - 52
    let e₁ := if (divPow2 num den e₀).1 < Nat.pow 2 52 then e₀ - 1 else e₀
    let e := max e₁ minExponent
    let (q, r, d) := divPow2 num den e
    let q := if 2 * r > d ∨ (2 * r = d ∧ q % 2 = 1) then q + 1 else q
    let (q, e) := if q = Nat.pow 2 53 then (Nat.pow 2 52, e + 1) else (q, e)
    if e > maxExponent then none else some ⟨negative, q, e⟩

/-- The double nearest to a natural number. -/
def ofNat (negative : Bool) (n : Nat) : Option Binary64 := nearest negative n 1

/-- The double nearest to `10 ^ k`. -/
def powerOfTen (k : Nat) : Option Binary64 := nearest false (Nat.pow 10 k) 1

/-- The correctly rounded product; `none` when it overflows. -/
def mul (x y : Binary64) : Option Binary64 :=
  let (n, d) := ratio (x.significand * y.significand) 1 (x.exponent + y.exponent)
  nearest (x.negative != y.negative) n d

/-- The correctly rounded quotient by a nonzero double; `none` when it overflows. -/
def div (x y : Binary64) : Option Binary64 :=
  let (n, d) := ratio x.significand y.significand (x.exponent - y.exponent)
  nearest (x.negative != y.negative) n d

/-- Compares `d · 10 ^ p` with `x · 2 ^ s`, both sides scaled to naturals. -/
def compareScaled (d : Nat) (p : Int) (x : Nat) (s : Int) : Ordering :=
  compare (d * Nat.pow 10 p.toNat * Nat.pow 2 (-s).toNat)
    (x * Nat.pow 2 s.toNat * Nat.pow 10 (-p).toNat)

/-- `⌊x · 2 ^ s / 10 ^ p⌋`. -/
def floorScaled (x : Nat) (s p : Int) : Nat :=
  x * Nat.pow 2 s.toNat * Nat.pow 10 (-p).toNat / (Nat.pow 10 p.toNat * Nat.pow 2 (-s).toNat)

/-- A positive double as the shortest-digit search sees it: the value `scaled · 2 ^ shift`,
the bounds `(scaled - below) · 2 ^ shift` and `(scaled + above) · 2 ^ shift` of the values
that read back as it, and whether the bounds themselves do. -/
structure Interval where
  scaled : Nat
  below : Nat
  above : Nat
  shift : Int
  inclusive : Bool

/-- The rounding interval of a nonzero double, scaled by four so that both half-gaps are
whole. -/
def interval (x : Binary64) : Interval :=
  let below := if x.significand = Nat.pow 2 52 ∧ x.exponent > minExponent then 1 else 2
  ⟨4 * x.significand, below, 2, x.exponent - 2, x.significand % 2 == 0⟩

/-- Moves an estimate `n` of `⌊log₁₀ (x · 2 ^ s)⌋` to the exact value, a step at a time. -/
def settleExponent (x : Nat) (s : Int) : Nat → Int → Int
  | 0, n => n
  | fuel + 1, n =>
    if compareScaled 1 n x s = .gt then settleExponent x s fuel (n - 1)
    else if compareScaled 1 (n + 1) x s != .gt then
      settleExponent x s fuel (n + 1)
    else n

/-- `⌊log₁₀ (x · 2 ^ s)⌋` for `x > 0`. The estimate from the binary length, times a
rational just above `log₁₀ 2`, is the exact value or one below it for every double. -/
def decimalExponent (x : Nat) (s : Int) : Int :=
  settleExponent x s 4 ((((Nat.log2 x : Int) + s) * 30103) / 100000)

/-- The decimal with `k` significant digits that the search keeps for the interval, if any:
the value truncated to `k` digits or one unit above it, whichever lies in the interval, the
nearer when both do and the even one when they are equally near. `n` is the decimal exponent
of the value. -/
def pick (i : Interval) (n : Int) (k : Nat) : Option (Nat × Int) :=
  let p : Int := n + 1 - k
  let q := floorScaled i.scaled i.shift p
  let down := match compareScaled q p (i.scaled - i.below) i.shift with
    | .gt => true
    | .eq => i.inclusive
    | .lt => false
  let up := match compareScaled (q + 1) p (i.scaled + i.above) i.shift with
    | .lt => true
    | .eq => i.inclusive
    | .gt => false
  let upNearer := match compareScaled (2 * q + 1) p (2 * i.scaled) i.shift with
    | .lt => true
    | .eq => q % 2 == 1
    | .gt => false
  if up && (!down || upNearer) then some (q + 1, p)
  else if down then some (q, p)
  else none

/-- Removes trailing zero digits of `d · 10 ^ p`. -/
def stripZeros : Nat → Nat × Int → Nat × Int
  | 0, dp => dp
  | fuel + 1, (d, p) => if d ≠ 0 ∧ d % 10 = 0 then stripZeros fuel (d / 10, p + 1) else (d, p)

/-- The shortest decimal `d · 10 ^ p` that reads back as the nonzero double `x`, without
trailing zeros. Seventeen significant digits always suffice. -/
def shortest (x : Binary64) : Nat × Int :=
  let i := x.interval
  let n := decimalExponent i.scaled i.shift
  let found := (List.range 17).findSome? fun j => pick i n (j + 1)
  stripZeros 20 (found.getD (floorScaled i.scaled i.shift (n - 16), n - 16))

/-- A decimal exponent after the letter `e`, with its sign. -/
def exponentText (e : Int) : String :=
  (if e < 0 then "-" else "+") ++ toString e.natAbs

/-- The digits `ds` of `d · 10 ^ p` (no trailing zero), with `point = ds.length + p` digits
before the decimal point. Whole values below `10 ^ 16` end in `.0`; values from `10 ^ -5` up
to `10 ^ 16` are written positionally; the others as one digit, the rest after a point, and
the exponent. -/
def layout (ds : List Char) (p point : Int) : String :=
  if 0 ≤ p ∧ point ≤ 16 then
    String.ofList (ds ++ List.replicate p.toNat '0') ++ ".0"
  else if 0 < point ∧ point ≤ 16 then
    String.ofList (ds.take point.toNat) ++ "." ++ String.ofList (ds.drop point.toNat)
  else if -5 < point ∧ point ≤ 0 then
    "0." ++ String.ofList (List.replicate point.natAbs '0' ++ ds)
  else
    let mantissa := match ds with
      | [d] => String.singleton d
      | d :: rest => String.ofList (d :: '.' :: rest)
      | [] => ""
    mantissa ++ "e" ++ exponentText (point - 1)

/-- The text a double prints as: its shortest digits laid out by `layout` (zero prints as
`0.0`), after a minus sign when negative, zero included. -/
def text (x : Binary64) : String :=
  let sign := if x.negative then "-" else ""
  if x.isZero then sign ++ "0.0"
  else
    let (d, p) := x.shortest
    let ds := Nat.toDigits 10 d
    sign ++ layout ds p (ds.length + p)

end Binary64

end LedgerProjection
