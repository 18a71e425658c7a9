import NodeWarden.Number.Decimal

/-!
# Timestamps

A point in time in seconds since 1970 with nanoseconds, and its text in the profile of ISO 8601 that
the internet uses. A nanosecond count of a second or more marks a leap second, whose second is
written `60`.
-/

namespace NodeWarden

/-- A point in coordinated universal time. -/
structure Timestamp where
  /-- Seconds since the start of 1970, leap seconds not counted. -/
  seconds : Int
  /-- Nanoseconds within the second, a second or more inside a leap second. -/
  nanos : Nat
deriving Repr, DecidableEq, Inhabited

/-- A day of the proleptic Gregorian calendar. -/
structure Date where
  year : Int
  month : Nat
  day : Nat
deriving Repr, DecidableEq

/-- The date of the given day since the start of 1970. The computation counts years from March, so
that a leap day is the last day of its year, and in eras of four hundred years, which all have the
same length. -/
def Date.ofDays (days : Int) : Date :=
  let z := days + 719468
  let era := Int.fdiv z 146097
  let dayOfEra := (Int.fmod z 146097).toNat
  let yearOfEra := (dayOfEra - dayOfEra / 1460 + dayOfEra / 36524 - dayOfEra / 146096) / 365
  let dayOfYear := dayOfEra - (365 * yearOfEra + yearOfEra / 4 - yearOfEra / 100)
  let marchMonth := (5 * dayOfYear + 2) / 153
  let day := dayOfYear - (153 * marchMonth + 2) / 5 + 1
  let month := if marchMonth < 10 then marchMonth + 3 else marchMonth - 9
  let year : Int := yearOfEra + era * 400 + (if month ≤ 2 then 1 else 0)
  ⟨year, month, day⟩

/-- The days from the start of 1970 to a date, before that a negative number. Years are counted from
March, as in `Date.ofDays`. -/
def Date.toDays (d : Date) : Int :=
  let year := if d.month ≤ 2 then d.year - 1 else d.year
  let era := Int.fdiv year 400
  let yearOfEra := (Int.fmod year 400).toNat
  let marchMonth := if d.month ≤ 2 then d.month + 9 else d.month - 3
  let dayOfYear := (153 * marchMonth + 2) / 5 + d.day - 1
  let dayOfEra := yearOfEra * 365 + yearOfEra / 4 - yearOfEra / 100 + dayOfYear
  era * 146097 + dayOfEra - 719468

/-- Whether a year has a leap day. -/
def Date.isLeapYear (year : Int) : Bool :=
  Int.fmod year 4 == 0 && (Int.fmod year 100 != 0 || Int.fmod year 400 == 0)

/-- How many days a month has. -/
def Date.monthLength (year : Int) (month : Nat) : Nat :=
  if month = 2 then (if Date.isLeapYear year then 29 else 28)
  else if month = 4 ∨ month = 6 ∨ month = 9 ∨ month = 11 then 30
  else 31

/-- Whether the calendar has the date. -/
def Date.isValid (d : Date) : Bool :=
  1 ≤ d.month && d.month ≤ 12 && 1 ≤ d.day && d.day ≤ Date.monthLength d.year d.month

/-- A year with four digits, or with a sign and at least four digits outside of that range. -/
def Date.yearText (year : Int) : String :=
  if 0 ≤ year ∧ year ≤ 9999 then Number.padded 4 year.toNat
  else (if year < 0 then "-" else "+") ++ Number.padded 4 year.natAbs

namespace Timestamp

/-- The fraction of a second in as few of 0, 3, 6 or 9 digits as show it. -/
def fractionText (nanos : Nat) : String :=
  if nanos == 0 then ""
  else if nanos % 1000000 == 0 then "." ++ Number.padded 3 (nanos / 1000000)
  else if nanos % 1000 == 0 then "." ++ Number.padded 6 (nanos / 1000)
  else "." ++ Number.padded 9 nanos

/-- The timestamp as text, ending in `Z`. -/
def text (t : Timestamp) : String :=
  let date := Date.ofDays (Int.fdiv t.seconds 86400)
  let inDay := (Int.fmod t.seconds 86400).toNat
  let leap := 1000000000 ≤ t.nanos
  let second := inDay % 60 + (if leap then 1 else 0)
  let nanos := if leap then t.nanos - 1000000000 else t.nanos
  let two := Number.padded 2
  Date.yearText date.year ++ "-" ++ two date.month ++ "-" ++ two date.day ++ "T"
    ++ two (inDay / 3600) ++ ":" ++ two (inDay % 3600 / 60) ++ ":" ++ two second
    ++ fractionText nanos ++ "Z"

end Timestamp

end NodeWarden
