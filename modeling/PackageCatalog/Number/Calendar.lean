import PackageCatalog.Number.Decimal

/-!
# Calendar

A time stamp as a date and time of day in the proleptic Gregorian calendar.

## Main definitions

* `civilDate` - the year, month and day of a count of days.
* `daysBefore` - the count of days of a year, month and day.
* `wholeSeconds` - a time stamp cut to seconds after rounding to microseconds.
* `clockText` - a time stamp as `year-month-day hour:minute`.
-/

namespace PackageCatalog

/-- Why a time stamp has no date. -/
inductive ClockError
  /-- The year is not between 1 and 9999. -/
  | yearOutOfRange (year : Int)
  /-- The seconds do not fit the system's clock type. -/
  | secondsOutOfRange
  /-- The system's calendar does not reach the year. -/
  | calendarOverflow
  deriving DecidableEq, Repr

/-- The year, month and day of a count of days since 1970-01-01.  Days are counted in eras of
400 years that start in March, so that a leap day is the last day of its year. -/
def civilDate (days : Int) : Int × Nat × Nat :=
  let shifted := days + 719468
  let era := shifted.fdiv 146097
  let day := (shifted - era * 146097).toNat
  let year := (day - day / 1460 + day / 36524 - day / 146096) / 365
  let dayOfYear := day - (365 * year + year / 4 - year / 100)
  let month := (5 * dayOfYear + 2) / 153
  let dayOfMonth := dayOfYear - (153 * month + 2) / 5 + 1
  let civilMonth := if month < 10 then month + 3 else month - 9
  (year + era * 400 + (if civilMonth ≤ 2 then 1 else 0), civilMonth, dayOfMonth)

/-- The number of days from the first of March of the year 0 to a date after it.  Years are
counted from March on, so that a leap day is the last day of its year. -/
def daysBefore (year month day : Nat) : Int :=
  let (year, month) := if month ≤ 2 then (year - 1, month + 9) else (year, month - 3)
  ((365 * year + year / 4 - year / 100 + year / 400 + (153 * month + 2) / 5 + day : Nat) : Int) - 1

/-- A number with a leading zero up to two digits. -/
def twoDigits (n : Nat) : Text := if n < 10 then '0' :: Text.ofNat n else Text.ofNat n

/-- The seconds of a time stamp whose fraction is taken times a million in double precision,
rounded to whole microseconds, a half to the even one, and then cut. -/
def wholeSeconds (units : Int) : Int :=
  let one : Nat := 1 <<< Double.places
  let whole := units.tdiv one
  let rest := units.tmod one
  let scaled := Double.mulUnits rest (Double.ofInt 1000000).units
  let micros := roundQuotient scaled.units.natAbs one
  if rest < 0 then (if micros = 0 then whole else whole - 1)
  else if 1000000 ≤ micros then whole + 1
  else whole

/-- The year of a count of seconds, if it lies in the range of dates.  Years are counted in 32
bits. -/
def yearOf (seconds : Int) : Except ClockError Int :=
  let year := (civilDate (seconds.fdiv 86400)).1.bmod 4294967296
  if year < 1 ∨ 9999 < year then .error (.yearOutOfRange year) else .ok year

/-- A count of seconds as `year-month-day hour:minute`.  The day before must be a date too. -/
def clockOfSeconds (seconds : Int) : Except ClockError Text := do
  if seconds < -9223372036854775808 ∨ 9223372036854775807 < seconds then
    throw .secondsOutOfRange
  if seconds < -67768040609740800 ∨ 67768036191676799 < seconds then
    throw .calendarOverflow
  let year ← yearOf seconds
  let _ ← yearOf (seconds - 86400)
  let (_, month, day) := civilDate (seconds.fdiv 86400)
  let minutes := (seconds.fmod 86400).toNat / 60
  return Text.ofInt year ++ '-' :: twoDigits month ++ '-' :: twoDigits day ++
    ' ' :: twoDigits (minutes / 60) ++ ':' :: twoDigits (minutes % 60)

/-- A time stamp as `year-month-day hour:minute`. -/
def clockText : Double → Except ClockError Text
  | .finite units => clockOfSeconds (wholeSeconds units)
  | .infinite _ => .error .secondsOutOfRange

end PackageCatalog
