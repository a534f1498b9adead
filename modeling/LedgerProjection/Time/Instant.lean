import LedgerProjection.Numeric.Checked

/-!
# Consensus instants

A consensus timestamp is a signed count of nanoseconds since 1970-01-01T00:00:00Z. Seconds
and days are taken by floor division (`Int.ediv` with a positive divisor), so instants before
the epoch fall in the second and the day that contain them.
-/

namespace LedgerProjection

namespace Instant

/-- Nanoseconds in a second. -/
def nanosPerSecond : Int := 1000000000

/-- Seconds in a day. -/
def secondsPerDay : Int := 86400

/-- The divisions `epochDay` makes: the instant by the nanoseconds of a second, then the second by
the seconds of a day; `none` where one of them would fail. -/
def epochDayDivisions (nanos : Int) : Option Int := do
  let seconds ← I64.divEuclid? nanos nanosPerSecond
  I64.divEuclid? seconds secondsPerDay

/-- Both divisors are positive constants, so neither division of `epochDay` fails: the day is the
floor of the floor of the instant's second. -/
theorem epochDayDivisions_eq (nanos : Int) :
    epochDayDivisions nanos = some ((nanos.ediv nanosPerSecond).ediv secondsPerDay) :=
  rfl

/-- The day (since the epoch) containing an instant. -/
def epochDay (nanos : Int) : Int :=
  (epochDayDivisions nanos).get (by rw [epochDayDivisions_eq]; rfl)

theorem epochDay_eq (nanos : Int) :
    epochDay nanos = (nanos.ediv nanosPerSecond).ediv secondsPerDay :=
  rfl

/-- The instant of a protocol timestamp (seconds and nanoseconds), saturating at the bounds
of the 64-bit range at each step. -/
def ofSecondsNanos (seconds nanos : Int) : Int :=
  I64.saturatingAdd (I64.saturatingMul seconds nanosPerSecond) nanos

/-- The civil date (year, month, day) of a day count since 1970-01-01, in the proleptic
Gregorian calendar. Years begin in March inside the computation, so that the leap day ends
a year. -/
def civilOfDays (days : Int) : Int × Nat × Nat :=
  let z := days + 719468
  let era := z.ediv 146097
  let doe := z - era * 146097
  let yoe := (doe - doe.ediv 1460 + doe.ediv 36524 - doe.ediv 146096).ediv 365
  let doy := doe - (365 * yoe + yoe.ediv 4 - yoe.ediv 100)
  let mp := (5 * doy + 2).ediv 153
  let d := doy - (153 * mp + 2).ediv 5 + 1
  let m := if mp < 10 then mp + 3 else mp - 9
  let y := yoe + era * 400 + (if m ≤ 2 then 1 else 0)
  (y, m.toNat, d.toNat)

/-- `n` in decimal, padded with zeros to `width` digits. -/
def padded (width : Nat) (n : Nat) : String :=
  let ds := Nat.toDigits 10 n
  String.ofList (List.replicate (width - ds.length) '0' ++ ds)

/-- A year as four digits, or signed when outside 0 to 9999. -/
def yearText (y : Int) : String :=
  if 0 ≤ y ∧ y ≤ 9999 then padded 4 y.toNat
  else (if y < 0 then "-" else "+") ++ padded 4 y.natAbs

/-- RFC 3339 text of an instant in UTC with nine fractional digits:
`YYYY-MM-DDTHH:MM:SS.nnnnnnnnnZ`. -/
def format (nanos : Int) : String :=
  let seconds := nanos.ediv nanosPerSecond
  let subsec := (nanos.emod nanosPerSecond).toNat
  let days := seconds.ediv secondsPerDay
  let secOfDay := (seconds.emod secondsPerDay).toNat
  let (y, m, d) := civilOfDays days
  yearText y ++ "-" ++ padded 2 m ++ "-" ++ padded 2 d ++ "T" ++
    padded 2 (secOfDay / 3600) ++ ":" ++ padded 2 (secOfDay / 60 % 60) ++ ":" ++
    padded 2 (secOfDay % 60) ++ "." ++ padded 9 subsec ++ "Z"

end Instant

end LedgerProjection
