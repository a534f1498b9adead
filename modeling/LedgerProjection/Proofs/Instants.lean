import Mathlib.Data.Rat.Floor
import LedgerProjection.Proofs.Staking

/-!
# Consensus instants: validity ranges and days

A version of a record holds over a range of consensus instants `[lower, upper)`, open above
when `upper` is absent. Two ranges overlap unless one ends at or before the other begins
(`TimestampRange.overlaps`). The test is symmetric. Ranges that share an instant overlap
(`TimestampRange.overlaps_of_contains`), and two overlapping ranges that hold an instant each
(`TimestampRange.NonEmpty`) share the later of their lower bounds, a 64-bit instant when the
bounds are 64-bit (`TimestampRange.contains_max_lower`). An inverted range holds no instant and
may still overlap another: `[5, 3)` overlaps `[0, ...)`.
A range closed at `y` overlaps no range that starts at `y` or later, which is why the history
check accepts a version closed where the next one begins.
Main statement: `TimestampRange.overlaps_iff_sharedInstant`.

The day of an instant (`Instant.epochDay`) is taken by two floor divisions, by the nanoseconds
of a second and then by the seconds of a day. Together they are one floor division by the
nanoseconds of a day (`Instant.epochDay_eq_ediv`), so the day contains the instant, before the
epoch as after it, and for a 64-bit instant both quotients are 64-bit. An election of a staking
target starts the stake period on the day that contains the instant of the election.
Main statement: `Instant.epochDay_floor`.
-/

namespace LedgerProjection

namespace TimestampRange

/-- The range holds an instant: it is open above, or its upper bound is above its lower one. -/
def NonEmpty (r : TimestampRange) : Prop := ∀ u ∈ r.upper, r.lower < u

instance : DecidablePred NonEmpty := fun r => inferInstanceAs (Decidable (∀ u ∈ r.upper, _))

/-- Both bounds are signed 64-bit integers, as in every range the ledger exchanges. -/
def IsI64 (r : TimestampRange) : Prop := I64.InRange r.lower ∧ ∀ u ∈ r.upper, I64.InRange u

instance : DecidablePred IsI64 := fun r => inferInstanceAs (Decidable (I64.InRange r.lower ∧ _))

/-! ### Containment and overlap as propositions -/

theorem contains_iff {r : TimestampRange} {t : Int} :
    r.contains t = true ↔ r.lower ≤ t ∧ ∀ u ∈ r.upper, t < u := by
  rcases r with ⟨l, _ | u⟩ <;> simp [contains]

/-- Two ranges overlap when each one's upper bound, if it has one, is above the other's lower
bound. -/
theorem overlaps_iff {a b : TimestampRange} :
    a.overlaps b = true ↔ (∀ u ∈ a.upper, b.lower < u) ∧ ∀ u ∈ b.upper, a.lower < u := by
  rcases a with ⟨la, _ | ua⟩ <;> rcases b with ⟨lb, _ | ub⟩ <;> simp [overlaps]

theorem overlaps_comm (a b : TimestampRange) : a.overlaps b = b.overlaps a := by
  rw [Bool.eq_iff_iff, overlaps_iff, overlaps_iff, and_comm]

/-- Ranges that share an instant overlap, whatever their shape, inverted ones included. -/
theorem overlaps_of_contains {a b : TimestampRange} {t : Int} (ha : a.contains t = true)
    (hb : b.contains t = true) : a.overlaps b = true := by
  rw [contains_iff] at ha hb
  exact overlaps_iff.2 ⟨fun u hu => lt_of_le_of_lt hb.1 (ha.2 u hu),
    fun u hu => lt_of_le_of_lt ha.1 (hb.2 u hu)⟩

/-- Two overlapping ranges that hold an instant each both hold the later of their lower
bounds. -/
theorem contains_max_lower {a b : TimestampRange} (ha : a.NonEmpty) (hb : b.NonEmpty)
    (h : a.overlaps b = true) :
    a.contains (max a.lower b.lower) = true ∧ b.contains (max a.lower b.lower) = true := by
  obtain ⟨hab, hba⟩ := overlaps_iff.1 h
  -- each upper bound is above its own lower bound (non-empty) and the other's (overlap)
  exact ⟨contains_iff.2 ⟨le_max_left _ _, fun u hu => max_lt (ha u hu) (hab u hu)⟩,
    contains_iff.2 ⟨le_max_right _ _, fun u hu => max_lt (hba u hu) (hb u hu)⟩⟩

/-- A range closed at `y` overlaps no range starting at `y` or later. -/
theorem closed_overlaps_eq_false {x y : Int} {r : TimestampRange} (h : y ≤ r.lower) :
    (closed x y).overlaps r = false := by
  simp [overlaps, closed, h]

/-- Overlap means a shared instant: over non-empty ranges with 64-bit bounds, two ranges overlap
exactly when some 64-bit instant lies in both. Overlap is symmetric for every pair of ranges,
and a range closed at `y` overlaps no range that starts at `y` or later. -/
theorem overlaps_iff_sharedInstant :
    (∀ a b : TimestampRange, a.IsI64 → b.IsI64 → a.NonEmpty → b.NonEmpty →
      (a.overlaps b = true ↔
        ∃ t, I64.InRange t ∧ a.contains t = true ∧ b.contains t = true)) ∧
    (∀ a b : TimestampRange, a.overlaps b = b.overlaps a) ∧
    ∀ (x y : Int) (r : TimestampRange), y ≤ r.lower → (closed x y).overlaps r = false := by
  refine ⟨fun a b ha hb hane hbne => ⟨fun h => ?_, fun ⟨_, _, hat, hbt⟩ =>
    overlaps_of_contains hat hbt⟩, overlaps_comm, fun _ _ _ h => closed_overlaps_eq_false h⟩
  -- the shared instant is a lower bound, so it is a 64-bit instant
  have hmax : I64.InRange (max a.lower b.lower) := by
    rcases max_choice a.lower b.lower with hm | hm <;> rw [hm]
    exacts [ha.1, hb.1]
  exact ⟨_, hmax, contains_max_lower hane hbne h⟩

/-- The versions `[1, 5)` and `[3, ...)` overlap at a shared instant, and `[1, 5)` does not
overlap `[5, ...)`. -/
theorem overlaps_iff_sharedInstant_laterVersion :
    (closed 1 5).IsI64 ∧ (openFrom 3).IsI64 ∧ (closed 1 5).NonEmpty ∧
      (openFrom 3).NonEmpty ∧
      ((closed 1 5).overlaps (openFrom 3) = true ↔
        ∃ t, I64.InRange t ∧ (closed 1 5).contains t = true ∧
          (openFrom 3).contains t = true) ∧
      (5 ≤ (openFrom 5).lower ∧ (closed 1 5).overlaps (openFrom 5) = false) :=
  ⟨by decide, by decide, by decide, by decide,
    overlaps_iff_sharedInstant.1 _ _ (by decide) (by decide) (by decide) (by decide),
    le_refl 5, overlaps_iff_sharedInstant.2.2 1 5 (openFrom 5) (le_refl 5)⟩

end TimestampRange

/-! ### Days -/

namespace Instant

/-- The day of an instant is one floor division by the nanoseconds of a day. -/
theorem epochDay_eq_ediv (n : Int) : epochDay n = n / (nanosPerSecond * secondsPerDay) :=
  Int.ediv_ediv_of_nonneg (by decide)

theorem epochDay_eq_floor (n : Int) : epochDay n = ⌊(n : ℚ) / 86400000000000⌋ := by
  rw [epochDay_eq_ediv]
  exact_mod_cast (Rat.floor_intCast_div_natCast n 86400000000000).symm

/-- The day of an instant contains it: the instant lies between the first nanosecond of its
day and the first of the next. -/
theorem epochDay_contains (n : Int) :
    epochDay n * 86400000000000 ≤ n ∧ n < (epochDay n + 1) * 86400000000000 := by
  rw [epochDay_eq_ediv]
  exact ⟨Int.ediv_mul_le n (by decide), Int.lt_ediv_add_one_mul_self n (by decide)⟩

/-- The second and the day of a 64-bit instant are 64-bit integers. -/
theorem epochDay_inRange {n : Int} (h : I64.InRange n) :
    I64.InRange (n.ediv nanosPerSecond) ∧ I64.InRange (epochDay n) := by
  have hsecond : n.ediv nanosPerSecond = n / 1000000000 := rfl
  rw [hsecond, epochDay_eq_ediv]
  simp only [I64.InRange, I64.lo, I64.hi, nanosPerSecond, secondsPerDay] at h ⊢
  omega

end Instant

/-- An election of a staking target, or of the choice to decline rewards, starts the stake
period on the day that contains the instant of the election. -/
theorem Entity.withStaking_stakePeriodStart_contains (e : Entity) (ts : Int)
    (account : Option EntityId) (node : Option Int) (decline : Option Bool)
    (h : (account.isSome || node.isSome || decline.isSome) = true) :
    ∃ d, (e.withStaking ts account node decline).stakePeriodStart = some d ∧
      d * 86400000000000 ≤ ts ∧ ts < (d + 1) * 86400000000000 :=
  ⟨_, by rw [withStaking_stakePeriodStart, if_pos h], Instant.epochDay_contains ts⟩

/-- The day of an instant is the floor of the instant over the nanoseconds of a day, so it
contains the instant, before the epoch as after it; a 64-bit instant has a 64-bit second and
day; and an election starts the stake period on the day that contains its instant. -/
theorem Instant.epochDay_floor :
    (∀ n : Int, Instant.epochDay n = ⌊(n : ℚ) / 86400000000000⌋) ∧
    (∀ n : Int, Instant.epochDay n * 86400000000000 ≤ n ∧
      n < (Instant.epochDay n + 1) * 86400000000000) ∧
    (∀ n : Int, I64.InRange n →
      I64.InRange (n.ediv Instant.nanosPerSecond) ∧ I64.InRange (Instant.epochDay n)) ∧
    ∀ (e : Entity) (ts : Int) (account : Option EntityId) (node : Option Int)
      (decline : Option Bool), (account.isSome || node.isSome || decline.isSome) = true →
      ∃ d, (e.withStaking ts account node decline).stakePeriodStart = some d ∧
        d * 86400000000000 ≤ ts ∧ ts < (d + 1) * 86400000000000 :=
  ⟨Instant.epochDay_eq_floor, Instant.epochDay_contains, fun _ => Instant.epochDay_inRange,
    Entity.withStaking_stakePeriodStart_contains⟩

/-- The least 64-bit instant has a 64-bit day, and an election at it of node `3` starts the stake
period on the day that contains it. -/
theorem Instant.epochDay_floor_leastInstant :
    I64.InRange I64.lo ∧
      (I64.InRange (I64.lo.ediv Instant.nanosPerSecond) ∧
        I64.InRange (Instant.epochDay I64.lo)) ∧
      ((none : Option EntityId).isSome || (some 3 : Option Int).isSome ||
        (none : Option Bool).isSome) = true ∧
      ∃ d, (({} : Entity).withStaking I64.lo none (some 3) none).stakePeriodStart = some d ∧
        d * 86400000000000 ≤ I64.lo ∧ I64.lo < (d + 1) * 86400000000000 :=
  ⟨by decide, Instant.epochDay_floor.2.2.1 _ (by decide), rfl,
    Instant.epochDay_floor.2.2.2 _ _ _ _ _ rfl⟩

end LedgerProjection
