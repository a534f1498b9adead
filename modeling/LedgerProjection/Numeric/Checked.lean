/-!
# Signed 64-bit and 32-bit arithmetic

Amounts, timestamps, ids and counters are signed 64-bit integers. They are held as `Int`
values inside the 64-bit range, and every operation that could leave the range says what
happens there: `checkedAdd` and `checkedSub` refuse (an `Overflow`), `saturatingAdd` and
`saturatingMul` stop at the nearest bound, and `divEuclid?` gives nothing for a zero divisor or
for the one quotient that leaves the range. Shards and log indexes are signed 32-bit integers; a
count becomes one by keeping its low 32 bits (`I32.ofCount`).
-/

namespace LedgerProjection

/-- An addition or subtraction whose exact result lies outside the 64-bit range. -/
inductive Overflow where
  | add
  | subtract
deriving DecidableEq, Repr

/-- The text reported when a balance computation overflows. -/
def Overflow.message : Overflow → String
  | .add => "attempt to add with overflow"
  | .subtract => "attempt to subtract with overflow"

namespace I64

/-- The least signed 64-bit integer. -/
def lo : Int := -9223372036854775808

/-- The greatest signed 64-bit integer. -/
def hi : Int := 9223372036854775807

/-- `n` is a signed 64-bit integer. -/
def InRange (n : Int) : Prop := lo ≤ n ∧ n ≤ hi

instance (n : Int) : Decidable (InRange n) := inferInstanceAs (Decidable (_ ∧ _))

/-- The sum, when it is a 64-bit integer. -/
def checkedAdd (a b : Int) : Except Overflow Int :=
  if InRange (a + b) then .ok (a + b) else .error .add

/-- The difference, when it is a 64-bit integer. -/
def checkedSub (a b : Int) : Except Overflow Int :=
  if InRange (a - b) then .ok (a - b) else .error .subtract

/-- Euclidean division, whose remainder is never negative: nothing for a zero divisor, or for the
least 64-bit integer divided by `-1`, whose quotient is not a 64-bit integer. -/
def divEuclid? (a b : Int) : Option Int :=
  if b = 0 ∨ (b = -1 ∧ a = lo) then none else some (a / b)

/-- The nearest 64-bit integer to `n`. -/
def clamp (n : Int) : Int := max lo (min hi n)

/-- The sum, stopped at the nearest bound. -/
def saturatingAdd (a b : Int) : Int := clamp (a + b)

/-- The product, stopped at the nearest bound. -/
def saturatingMul (a b : Int) : Int := clamp (a * b)

/-- A checked sum succeeds exactly when the sum is a 64-bit integer, and gives the sum. -/
theorem checkedAdd_ok_iff (a b c : Int) :
    checkedAdd a b = .ok c ↔ InRange (a + b) ∧ a + b = c := by
  unfold checkedAdd
  by_cases h : InRange (a + b) <;> simp [h]

/-- A checked difference succeeds exactly when the difference is a 64-bit integer, and gives the
difference. -/
theorem checkedSub_ok_iff (a b c : Int) :
    checkedSub a b = .ok c ↔ InRange (a - b) ∧ a - b = c := by
  unfold checkedSub
  by_cases h : InRange (a - b) <;> simp [h]

end I64

namespace I32

/-- The least signed 32-bit integer. -/
def lo : Int := -2147483648

/-- The greatest signed 32-bit integer. -/
def hi : Int := 2147483647

/-- `n` is a signed 32-bit integer. -/
def InRange (n : Int) : Prop := lo ≤ n ∧ n ≤ hi

instance (n : Int) : Decidable (InRange n) := inferInstanceAs (Decidable (_ ∧ _))

/-- A count as a signed 32-bit integer: its low 32 bits in two's complement, so counts from
`2 ^ 31` on wrap below zero. -/
def ofCount (n : Nat) : Int := Int.bmod n 4294967296

end I32

end LedgerProjection
