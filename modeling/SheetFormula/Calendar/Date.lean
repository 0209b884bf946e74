/-!
# Calendar dates

The Gregorian calendar, extended to all years, with days counted from the first day of 1970.

## Main definitions

* `SheetFormula.Calendar.Date` — a year, a month and a day.
* `SheetFormula.Calendar.Date.isValid` — the dates that exist.
* `SheetFormula.Calendar.Date.dayNumber`, `ofDayNumber` — days counted from 1970-01-01, and back.
* `SheetFormula.Calendar.isoWeekday`, `isoWeek` — the day and the week in ISO numbering.
* `SheetFormula.Calendar.firstDay`, `lastDay` — the range of days in which dates are kept.
-/

set_option relaxedAutoImplicit false
set_option autoImplicit false

namespace SheetFormula.Calendar

/-- A date, by year, month and day. -/
structure Date where
  year : Int
  month : Nat
  day : Nat
  deriving Repr, DecidableEq

/-- Whether a year has a 29th of February. -/
def isLeapYear (year : Int) : Bool :=
  year % 4 == 0 && (year % 100 != 0 || year % 400 == 0)

/-- The number of days of a month. -/
def daysInMonth (year : Int) (month : Nat) : Nat :=
  match month with
  | 2 => if isLeapYear year then 29 else 28
  | 4 | 6 | 9 | 11 => 30
  | _ => 31

/-- Whether a date exists. -/
def Date.isValid (date : Date) : Bool :=
  decide (1 ≤ date.month) && decide (date.month ≤ 12) && decide (1 ≤ date.day) &&
    decide (date.day ≤ daysInMonth date.year date.month)

/-- The number of the month of a date, counted from the start of year zero. -/
def Date.monthIndex (date : Date) : Int :=
  12 * date.year + date.month - 1

/-- The number of days from 1970-01-01 to a date. Years are counted from March here, which puts
the leap day at their end: the months from March on then begin on day `(153 · m + 2) / 5`. -/
def Date.dayNumber (date : Date) : Int :=
  let year := if date.month ≤ 2 then date.year - 1 else date.year
  let month : Int := if date.month ≤ 2 then date.month + 9 else date.month - 3
  365 * year + year / 4 - year / 100 + year / 400 + (153 * month + 2) / 5 + date.day - 719469

/-- The date a number of days after 1970-01-01. The days are counted from a first of March in
eras of 400 years, each of 146097 days. -/
def Date.ofDayNumber (days : Int) : Date :=
  let shifted := days + 719468
  let era := shifted / 146097
  let dayOfEra := shifted % 146097
  let yearOfEra := (dayOfEra - dayOfEra / 1460 + dayOfEra / 36524 - dayOfEra / 146096) / 365
  let dayOfYear := dayOfEra - (365 * yearOfEra + yearOfEra / 4 - yearOfEra / 100)
  let month := (5 * dayOfYear + 2) / 153
  let day := dayOfYear - (153 * month + 2) / 5 + 1
  let year := yearOfEra + 400 * era
  { year := if month < 10 then year else year + 1
    month := (if month < 10 then month + 3 else month - 9).toNat
    day := day.toNat }

/-- The day of the week, from 1 for Monday to 7 for Sunday. -/
def isoWeekday (days : Int) : Nat :=
  ((days + 3) % 7).toNat + 1

/-- The ISO week: weeks belong to the year of their Thursday and are counted in it from one. -/
def isoWeek (days : Int) : Nat :=
  let thursday := days - isoWeekday days + 4
  let newYear := Date.dayNumber ⟨(Date.ofDayNumber thursday).year, 1, 1⟩
  ((thursday - newYear) / 7).toNat + 1

/-- The first Sunday on or after a day. -/
def sundayFrom (days : Int) : Int :=
  days + (7 - isoWeekday days : Nat)

/-- The first year in which dates are kept. -/
def firstYear : Int := -262143

/-- The last year in which dates are kept. -/
def lastYear : Int := 262142

/-- The first day of the range of dates. -/
def firstDay : Int := Date.dayNumber ⟨firstYear, 1, 1⟩

/-- The last day of the range of dates. -/
def lastDay : Int := Date.dayNumber ⟨lastYear, 12, 31⟩

end SheetFormula.Calendar
