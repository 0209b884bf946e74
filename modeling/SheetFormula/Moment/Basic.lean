import SheetFormula.Zone.Basic

/-!
# Moments

A moment is an instant as a formula sees it: in a zone, and either as a plain date or with a time
of day. It is written the way it was given.

## Main definitions

* `SheetFormula.Moment` — an instant, its zone, and whether it is a plain date.
* `SheetFormula.Moment.toIso`, `toIsoDate`, `render` — a moment as text.
-/

set_option relaxedAutoImplicit false
set_option autoImplicit false

namespace SheetFormula

open SheetFormula.Calendar (Date Timestamp nanosPerSecond)

/-- Whether a moment was given as a plain date or with a time of day. -/
inductive MomentKind where
  | dateOnly
  | dateTime
  deriving Repr, DecidableEq

/-- An instant, seen in a zone. -/
structure Moment where
  instant : Timestamp
  zone : Zone
  kind : MomentKind
  deriving Repr, DecidableEq

namespace Moment

/-- The wall-clock time of a moment in its zone. -/
def wallClock (moment : Moment) : Timestamp :=
  moment.zone.wallClock moment.instant

/-- Whether the wall-clock time of a moment lies in the range of dates. Only then can it be read off
a calendar. -/
def onCalendar (moment : Moment) : Bool :=
  moment.wallClock.inRange

/-- The calendar date of a moment in its zone. -/
def date (moment : Moment) : Date :=
  moment.wallClock.date

/-- The day of the week, from 1 for Monday to 7 for Sunday. -/
def isoWeekday (moment : Moment) : Nat :=
  Calendar.isoWeekday moment.wallClock.dayNumber

/-- The ISO week. -/
def isoWeek (moment : Moment) : Nat :=
  Calendar.isoWeek moment.wallClock.dayNumber

/-! ## Moments as text -/

/-- A number with at least `width` digits. -/
def padded (width n : Nat) : String :=
  let digits := toString n
  String.ofList (List.replicate (width - digits.length) '0') ++ digits

/-- A year with at least four digits. Outside `0` to `9999` it has a sign. -/
def yearText (year : Int) : String :=
  (if year < 0 then "-" else if 9999 < year then "+" else "") ++ padded 4 year.natAbs

/-- A date as `YYYY-MM-DD`. -/
def dateText (date : Date) : String :=
  yearText date.year ++ "-" ++ padded 2 date.month ++ "-" ++ padded 2 date.day

/-- A time of day as `hh:mm:ss.mmm`, cut off to milliseconds. A leap second is second 60. -/
def timeText (wall : Timestamp) : String :=
  padded 2 wall.hour ++ ":" ++ padded 2 wall.minute ++ ":" ++
    padded 2 (wall.second + wall.nanos / nanosPerSecond) ++ "." ++
    padded 3 (wall.nanos % nanosPerSecond / 1000000)

/-- The mark of the offset at the end of a time: `Z` for universal time, and otherwise the offset
rounded to minutes, even if it is zero. -/
def offsetMark (zone : Zone) (instant : Timestamp) : String :=
  if zone.isUtc then "Z" else Zone.minutesText (zone.offsetAt instant)

/-- A moment as date, time of day and offset. -/
def toIso (moment : Moment) : String :=
  let wall := moment.wallClock
  dateText wall.date ++ "T" ++ timeText wall ++ offsetMark moment.zone moment.instant

/-- The date of a moment. -/
def toIsoDate (moment : Moment) : String :=
  dateText moment.date

/-- A moment as it was given: as a plain date or with a time of day. -/
def render (moment : Moment) : String :=
  match moment.kind with
  | .dateOnly => moment.toIsoDate
  | .dateTime => moment.toIso

end Moment

end SheetFormula
