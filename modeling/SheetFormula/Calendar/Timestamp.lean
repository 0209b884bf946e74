import SheetFormula.Calendar.Date

/-!
# Points in time

A `Timestamp` counts seconds and nanoseconds from the start of 1970-01-01. It is a point of the
universal time line (an instant) or of a local one (a wall-clock time); a zone leads from one to
the other.

A leap second is kept as a second of two thousand million nanoseconds: `23:59:60` is second 59
with at least one thousand million of them. Durations do not count leap seconds. Going forward
out of one starts from second 59, going back out of one starts from the second after it.

## Main definitions

* `SheetFormula.Calendar.Timestamp` — points in time and their fields.
* `SheetFormula.Calendar.Timestamp.plusMillis`, `plusDays?`, `stepMonths?` — steps in time.
* `SheetFormula.Calendar.Timestamp.millisUntil` — the duration between two points.
-/

set_option relaxedAutoImplicit false
set_option autoImplicit false

namespace SheetFormula.Calendar

/-- The seconds of a day. -/
def secondsPerDay : Int := 86400

/-- The nanoseconds of a second that is no leap second. -/
def nanosPerSecond : Nat := 1000000000

/-- A point in time, in seconds and nanoseconds from the start of 1970-01-01. -/
structure Timestamp where
  seconds : Int
  nanos : Nat
  deriving Repr, DecidableEq

namespace Timestamp

/-! ## Fields -/

/-- The day, counted from 1970-01-01. -/
def dayNumber (t : Timestamp) : Int :=
  t.seconds / secondsPerDay

/-- The calendar date. -/
def date (t : Timestamp) : Date :=
  Date.ofDayNumber t.dayNumber

/-- The second of the day. -/
def secondOfDay (t : Timestamp) : Nat :=
  (t.seconds % secondsPerDay).toNat

/-- The hour, 0 to 23. -/
def hour (t : Timestamp) : Nat :=
  t.secondOfDay / 3600

/-- The minute, 0 to 59. -/
def minute (t : Timestamp) : Nat :=
  t.secondOfDay / 60 % 60

/-- The second, 0 to 59; a leap second has the number 59. -/
def second (t : Timestamp) : Nat :=
  t.secondOfDay % 60

/-- Whether the point lies in a leap second. -/
def isLeap (t : Timestamp) : Bool :=
  decide (nanosPerSecond ≤ t.nanos)

/-- The point at a second of a day, both counted from zero. -/
def ofDay (day : Int) (secondOfDay nanos : Nat) : Timestamp :=
  ⟨day * secondsPerDay + secondOfDay, nanos⟩

/-- The point at a time of day on a date, if both exist. Second 60 is the leap second after
second 59. -/
def ofFields? (date : Date) (hour minute second nanos : Nat) : Option Timestamp :=
  if date.isValid ∧ hour < 24 ∧ minute < 60 ∧ second ≤ 60 then
    if second = 60 then
      some (ofDay date.dayNumber (3600 * hour + 60 * minute + 59) (nanosPerSecond + nanos))
    else some (ofDay date.dayNumber (3600 * hour + 60 * minute + second) nanos)
  else none

/-- The point a number of milliseconds from the start of 1970-01-01. -/
def ofMillis (millis : Int) : Timestamp :=
  ⟨millis / 1000, (millis % 1000).toNat * 1000000⟩

/-- The milliseconds from the start of 1970-01-01, rounded down. -/
def millis (t : Timestamp) : Int :=
  1000 * t.seconds + t.nanos / 1000000

/-- Whether the day of a point lies in the range of dates. -/
def inRange (t : Timestamp) : Bool :=
  decide (firstDay ≤ t.dayNumber) && decide (t.dayNumber ≤ lastDay)

/-- A point, if its day lies in the range of dates. -/
def checked (t : Timestamp) : Option Timestamp :=
  if t.inRange then some t else none

/-! ## Order -/

/-- Whether a point comes before another one. -/
def before (s t : Timestamp) : Bool :=
  decide (s.seconds < t.seconds) || (decide (s.seconds = t.seconds) && decide (s.nanos < t.nanos))

/-! ## Steps -/

/-- The same point on a time line that is ahead by a number of seconds. -/
def shift (t : Timestamp) (seconds : Int) : Timestamp :=
  ⟨t.seconds + seconds, t.nanos⟩

/-- A point given by seconds and any number of nanoseconds. -/
def normal (seconds nanos : Int) : Timestamp :=
  ⟨seconds + nanos / nanosPerSecond, (nanos % nanosPerSecond).toNat⟩

/-- The point a duration later, the duration given by whole seconds and nanoseconds that have the
same sign. -/
def plus (t : Timestamp) (seconds nanos : Int) : Timestamp :=
  if t.isLeap then
    if 0 < seconds ∨ 2 * nanosPerSecond ≤ t.nanos + nanos then
      normal (t.seconds + seconds) (t.nanos - nanosPerSecond + nanos)
    else if seconds < 0 then
      normal (t.seconds + 1 + seconds) (t.nanos - nanosPerSecond + nanos)
    else ⟨t.seconds, (t.nanos + nanos).toNat⟩
  else normal (t.seconds + seconds) (t.nanos + nanos)

/-- The point a number of milliseconds later. -/
def plusMillis (t : Timestamp) (millis : Int) : Timestamp :=
  t.plus (millis.tdiv 1000) (millis.tmod 1000 * 1000000)

/-- The point a number of milliseconds later, if its day lies in the range of dates. -/
def plusMillis? (t : Timestamp) (millis : Int) : Option Timestamp :=
  (t.plusMillis millis).checked

/-- The point a number of days later, if its day lies in the range of dates. -/
def plusDays? (t : Timestamp) (days : Int) : Option Timestamp :=
  (t.plus (days * secondsPerDay) 0).checked

/-- The same time of day in the month with a number, months being counted from the beginning of
year 0: on the day with the same number, or on the last day of the month if that has none. There is
none if the year lies outside the range of dates. -/
def inMonth? (t : Timestamp) (index : Int) : Option Timestamp :=
  let year := index / 12
  let month := (index % 12).toNat + 1
  let day := min t.date.day (daysInMonth year month)
  if firstYear ≤ year ∧ year ≤ lastYear then
    some (ofDay (Date.dayNumber ⟨year, month, day⟩) t.secondOfDay t.nanos)
  else none

/-- The same time of day a number of months later, or earlier if the number is negative. -/
def addMonths? (t : Timestamp) (months : Int) : Option Timestamp :=
  t.inMonth? (t.date.monthIndex + months)

/-- The same time of day some months later. -/
def monthsLater? (t : Timestamp) (count : Nat) : Option Timestamp :=
  t.inMonth? (t.date.monthIndex + count)

/-- The same time of day some months earlier. -/
def monthsEarlier? (t : Timestamp) (count : Nat) : Option Timestamp :=
  t.inMonth? (t.date.monthIndex - count)

/-- The greatest count of months, which has 32 bits. -/
def greatestMonthCount : Nat := 4294967295

/-- A step of months forward or back. Its length must be a count of months. -/
def stepMonths? (t : Timestamp) (months : Int) : Option Timestamp :=
  if greatestMonthCount < months.natAbs then none
  else if 0 ≤ months then t.monthsLater? months.natAbs
  else t.monthsEarlier? months.natAbs

/-! ## Durations -/

/-- The milliseconds from one point to another one, cut off towards zero. A leap second counts if
the time of day passes it. -/
def millisUntil (start finish : Timestamp) : Int :=
  let leap : Int :=
    if start.secondOfDay < finish.secondOfDay ∧ start.isLeap then 1
    else if finish.secondOfDay < start.secondOfDay ∧ finish.isLeap then -1
    else 0
  let nanos :=
    (finish.seconds - start.seconds + leap) * nanosPerSecond + (finish.nanos - start.nanos : Int)
  nanos.tdiv 1000000

end Timestamp

end SheetFormula.Calendar
