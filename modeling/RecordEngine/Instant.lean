/-!
Points in time, in coordinated universal time to the nanosecond, and their text.

The text is the internet date and time format with a numeric offset. The calendar is the proleptic
Gregorian one in both directions; a leap second, which shares its number of seconds with the one
before, is told by a count of nanoseconds of a whole second or more.
-/

set_option autoImplicit false

namespace RecordEngine

/-- A point in time: whole seconds since the beginning of 1970, and nanoseconds past them. -/
structure Instant where
  seconds : Int
  nanos : Nat
  deriving DecidableEq, Repr

/-- A day of the proleptic Gregorian calendar. -/
structure CivilDate where
  year : Int
  month : Nat
  day : Nat
  deriving DecidableEq, Repr

namespace CivilDate

/-- Days in four centuries, after which the calendar repeats. -/
def daysPerCycle : Int := 146097

/-- Days from the first of March of the year 0 to the beginning of 1970. -/
def daysBeforeEpoch : Int := 719468

/-- The date a number of days after the beginning of 1970. Years are counted from March, so that
the leap day is the last one of its year and month lengths follow the line `(153 m + 2) / 5`. -/
def ofDays (days : Int) : CivilDate :=
  let shifted := days + daysBeforeEpoch
  let cycle := shifted / daysPerCycle
  let dayOfCycle := (shifted % daysPerCycle).toNat
  let yearOfCycle :=
    (dayOfCycle - dayOfCycle / 1460 + dayOfCycle / 36524 - dayOfCycle / 146096) / 365
  let dayOfYear := dayOfCycle - (365 * yearOfCycle + yearOfCycle / 4 - yearOfCycle / 100)
  let fromMarch := (5 * dayOfYear + 2) / 153
  let month := if fromMarch < 10 then fromMarch + 3 else fromMarch - 9
  { year := yearOfCycle + cycle * 400 + (if month ≤ 2 then 1 else 0)
    month
    day := dayOfYear - (153 * fromMarch + 2) / 5 + 1 }

end CivilDate

/-- A number in decimal, with zeros in front up to `width` digits. -/
def padded (width n : Nat) : String :=
  let digits := Nat.toDigits 10 n
  String.ofList (List.replicate (width - digits.length) '0' ++ digits)

namespace Instant

def secondsPerDay : Int := 86400

/-- Nanoseconds in a second. -/
def billion : Nat := 1000000000

/-- The instant `n` nanoseconds after the beginning of 1970. -/
def ofNanos (n : Nat) : Instant := ⟨(n / billion : Nat), n % billion⟩

/-- Four digits where they suffice, otherwise a sign and at least four. -/
def yearText (year : Int) : String :=
  if 0 ≤ year ∧ year ≤ 9999 then padded 4 year.toNat
  else (if year < 0 then "-" else "+") ++ padded 4 year.natAbs

/-- The part of a second, in the fewest of 0, 3, 6 or 9 digits that are exact. -/
def fractionText (nanos : Nat) : String :=
  if nanos = 0 then ""
  else if nanos % 1000000 = 0 then "." ++ padded 3 (nanos / 1000000)
  else if nanos % 1000 = 0 then "." ++ padded 6 (nanos / 1000)
  else "." ++ padded 9 nanos

/-- The year the instant falls in. -/
def year (t : Instant) : Int := (CivilDate.ofDays (t.seconds / secondsPerDay)).year

/-- The text, such as `2024-05-01T12:00:00.250+00:00`. -/
def text (t : Instant) : String :=
  let date := CivilDate.ofDays (t.seconds / secondsPerDay)
  let second := (t.seconds % secondsPerDay).toNat
  yearText date.year ++ "-" ++ padded 2 date.month ++ "-" ++ padded 2 date.day ++ "T" ++
    padded 2 (second / 3600) ++ ":" ++ padded 2 (second / 60 % 60) ++ ":" ++
    padded 2 (second % 60 + t.nanos / billion) ++ fractionText (t.nanos % billion) ++ "+00:00"

end Instant

end RecordEngine
