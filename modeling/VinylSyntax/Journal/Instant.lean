/-!
# Instants

A point in time, counted in seconds and nanoseconds from the beginning of 1970 in universal time,
and its text: date and time of day in the proleptic Gregorian calendar, with zero, three, six or
nine digits of a second, the fewest that are exact.
-/

namespace VinylSyntax

/-- Seconds from the beginning of 1970, and nanoseconds from there; a nanosecond count of a second
or more stands for a leap second. -/
structure Instant where
  seconds : Int
  nanoseconds : Nat
deriving DecidableEq, Inhabited

namespace Instant

/-- The number of seconds of a day. -/
def secondsPerDay : Int := 86400

/-- The number of nanoseconds of a second. -/
def nanosecondsPerSecond : Nat := 1000000000

/-- Digits of a number, with zeros in front up to a width. -/
def padded (width n : Nat) : String :=
  let digits := Nat.toDigits 10 n
  String.ofList (List.replicate (width - digits.length) '0' ++ digits)

/-- Year, month and day of the day that lies a number of days behind the first of January 1970.
Years are counted from March, in eras of 400 years, so that the leap day ends a year. -/
def civil (days : Int) : Int × Nat × Nat :=
  let shifted := days + 719468
  let era := shifted / 146097
  let dayOfEra := (shifted % 146097).toNat
  let yearOfEra :=
    (dayOfEra - dayOfEra / 1460 + dayOfEra / 36524 - dayOfEra / 146096) / 365
  let dayOfYear := dayOfEra - (365 * yearOfEra + yearOfEra / 4 - yearOfEra / 100)
  let shiftedMonth := (5 * dayOfYear + 2) / 153
  let day := dayOfYear - (153 * shiftedMonth + 2) / 5 + 1
  let month := if shiftedMonth < 10 then shiftedMonth + 3 else shiftedMonth - 9
  let year := era * 400 + yearOfEra + (if month ≤ 2 then 1 else 0)
  (year, month, day)

/-- A year is written with four digits; one that needs more or lies before year zero has a sign. -/
def renderYear (year : Int) : String :=
  if 0 ≤ year ∧ year ≤ 9999 then padded 4 year.toNat
  else (if year < 0 then "-" else "+") ++ padded 4 year.natAbs

/-- The fraction of a second. -/
def renderFraction (nanoseconds : Nat) : String :=
  if nanoseconds = 0 then ""
  else if nanoseconds % 1000000 = 0 then "." ++ padded 3 (nanoseconds / 1000000)
  else if nanoseconds % 1000 = 0 then "." ++ padded 6 (nanoseconds / 1000)
  else "." ++ padded 9 nanoseconds

/-- Date, time of day and the offset of universal time. -/
def render (instant : Instant) : String :=
  let (year, month, day) := civil (instant.seconds / secondsPerDay)
  let second := (instant.seconds % secondsPerDay).toNat
  let leap := instant.nanoseconds / nanosecondsPerSecond
  let fraction := instant.nanoseconds % nanosecondsPerSecond
  renderYear year ++ "-" ++ padded 2 month ++ "-" ++ padded 2 day ++ "T" ++
    padded 2 (second / 3600) ++ ":" ++ padded 2 (second / 60 % 60) ++ ":" ++
    padded 2 (second % 60 + leap) ++ renderFraction fraction ++ "+00:00"

end Instant

end VinylSyntax
