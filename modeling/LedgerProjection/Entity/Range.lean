/-!
# Validity ranges

A version of a record is valid over a half-open range of consensus instants `[lower, upper)`;
a range without an upper bound is *open*: it holds the current version.
-/

namespace LedgerProjection

/-- The instants `[lower, upper)`, or from `lower` on when `upper` is `none`. -/
structure TimestampRange where
  lower : Int
  upper : Option Int
deriving DecidableEq, Repr, Inhabited

namespace TimestampRange

/-- From `lower` on. -/
def openFrom (lower : Int) : TimestampRange := ⟨lower, none⟩

/-- From `lower` up to, not including, `upper`. -/
def closed (lower upper : Int) : TimestampRange := ⟨lower, some upper⟩

/-- The range holds the current version. -/
def isCurrent (r : TimestampRange) : Bool := r.upper.isNone

/-- The range contains instant `t`. -/
def contains (r : TimestampRange) (t : Int) : Bool :=
  decide (r.lower ≤ t) && match r.upper with
    | none => true
    | some u => decide (t < u)

/-- Neither range ends at or before the other begins. -/
def overlaps (a b : TimestampRange) : Bool :=
  let aBeforeB := match a.upper with
    | some u => decide (u ≤ b.lower)
    | none => false
  let bBeforeA := match b.upper with
    | some u => decide (u ≤ a.lower)
    | none => false
  !aBeforeB && !bBeforeA

end TimestampRange

end LedgerProjection
