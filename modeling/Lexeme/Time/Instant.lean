import Lexeme.Decimal.Fixed

/-!
# Moments of time

Moments of universal time, and their texts: the time of day to the millisecond, and the full date
and time with as many digits of the second as are needed, in groups of three. A nanosecond count past
a whole second belongs to a leap second.
-/

set_option autoImplicit false
set_option relaxedAutoImplicit false

namespace Lexeme.Time

open Decimal (digits paddedDigits)

/-- A moment: seconds since the start of 1970, and nanoseconds of the second. -/
structure Instant where
  seconds : Int
  nanoseconds : Nat
  deriving Repr, DecidableEq, Inhabited

namespace Instant

def epoch : Instant := ⟨0, 0⟩

def secondsPerDay : Int := 86400

def nanosecondsPerSecond : Nat := 1000000000

/-- Whole days since the start of 1970, rounded down. -/
def day (instant : Instant) : Int :=
  instant.seconds.fdiv secondsPerDay

/-- Seconds since midnight, a leap second not counted. -/
def secondOfDay (instant : Instant) : Nat :=
  (instant.seconds.fmod secondsPerDay).toNat

/-- Nanoseconds since the last full second. -/
def fraction (instant : Instant) : Nat :=
  instant.nanoseconds % nanosecondsPerSecond

/-- The second of the minute; a leap second comes after the second it is counted with. -/
def second (instant : Instant) : Nat :=
  instant.secondOfDay % 60 + instant.nanoseconds / nanosecondsPerSecond

/-- Days from the first of March of the year zero to the start of 1970. -/
def daysToEpoch : Int := 719468

/-- Year, month and day of the month of a day counted from the start of 1970. Years are taken to
start in March, so that the day of a leap year comes last. -/
def dateOfDay (day : Int) : Int × Nat × Nat :=
  let shifted := day + daysToEpoch
  let era := shifted.fdiv 146097
  let dayOfEra := (shifted.fmod 146097).toNat
  let yearOfEra :=
    (dayOfEra - dayOfEra / 1460 + dayOfEra / 36524 - dayOfEra / 146096) / 365
  let dayOfYear := dayOfEra - (365 * yearOfEra + yearOfEra / 4 - yearOfEra / 100)
  let march := (5 * dayOfYear + 2) / 153
  let month := if march < 10 then march + 3 else march - 9
  let year := (yearOfEra : Int) + era * 400 + if month ≤ 2 then 1 else 0
  (year, month, dayOfYear - (153 * march + 2) / 5 + 1)

/-- A year in four digits; one outside of them has a sign. -/
def yearText (year : Int) : List Char :=
  if 0 ≤ year ∧ year ≤ 9999 then paddedDigits 4 year.toNat
  else (if year < 0 then '-' else '+') :: paddedDigits 4 year.natAbs

/-- Hours, minutes and seconds. -/
def clockText (instant : Instant) : List Char :=
  paddedDigits 2 (instant.secondOfDay / 3600) ++ ':' ::
    paddedDigits 2 (instant.secondOfDay / 60 % 60) ++ ':' :: paddedDigits 2 instant.second

/-- Digits of the second after the point, with the point, in the fewest groups of three. -/
def fractionText (nanoseconds : Nat) : List Char :=
  if nanoseconds = 0 then []
  else if nanoseconds % 1000000 = 0 then '.' :: paddedDigits 3 (nanoseconds / 1000000)
  else if nanoseconds % 1000 = 0 then '.' :: paddedDigits 6 (nanoseconds / 1000)
  else '.' :: paddedDigits 9 nanoseconds

/-- The time of day to the millisecond, with what is left cut off. -/
def timeOfDay (instant : Instant) : String :=
  String.ofList (instant.clockText ++ '.' :: paddedDigits 3 (instant.fraction / 1000000))

/-- The date and the time of day, with the distance from universal time. -/
def timestamp (instant : Instant) : String :=
  let (year, month, day) := dateOfDay instant.day
  String.ofList (yearText year ++ '-' :: paddedDigits 2 month ++ '-' :: paddedDigits 2 day ++
    'T' :: instant.clockText ++ fractionText instant.fraction ++ "+00:00".toList)

end Instant

end Lexeme.Time
