import SheetFormula.Library.Basic
import SheetFormula.Moment.Reader

/-!
# Date functions

Every date function takes a zone as its last argument; without one, the zone of the context
counts. Dates are text, instants or milliseconds since the start of 1970-01-01.

## Main definitions

* `SheetFormula.Moment.ofValue?` — the moment that a value is.
* `SheetFormula.Library.zoneArgument`, `dateArgument`, `unitArgument` — the arguments of date
  functions.
* `SheetFormula.Library.requireCalendar` — the check that a moment can be read off the calendar.
* `SheetFormula.Library.dates` — the functions.
-/

set_option relaxedAutoImplicit false
set_option autoImplicit false

namespace SheetFormula

/-- The moment that a value is, seen in a zone. What counts as false is no moment. -/
def Moment.ofValue? (zone : Zone) (value : Value) : Option Moment :=
  if value.isTruthy then
    match value with
    | .date instant => some ⟨instant, zone, .dateTime⟩
    | .number value => (Number.truncated? value).bind (Moment.ofMillis? zone)
    | .text text => Moment.ofText? zone text
    | _ => none
  else none

namespace Library

/-! ## Arguments -/

/-- The zone of an argument. If it is missing, null, undefined or blank, the zone of the context
counts. -/
def zoneArgument (context : Context) (argument : Option Value) : Except CalcError Zone :=
  match argument with
  | none => .ok context.zone
  | some .undefined => .ok context.zone
  | some .null => .ok context.zone
  | some (.text text) =>
    if Text.trim text.toList = [] then .ok context.zone
    else
      match Zone.ofTextIn? context.zones text with
      | some zone => .ok zone
      | none => .error (.invalidTimezone text)
  | some value => .error (.invalidTimezone value.toText)

/-- The moment of an argument of a function, seen in a zone. -/
def dateArgument (function : String) (zone : Zone) (argument : Option Value) :
    Except CalcError Moment :=
  let value := argument.getD .undefined
  match Moment.ofValue? zone value with
  | some moment => .ok moment
  | none => .error (.invalidDate (.unreadable function value.toText))

/-- The unit of a name. -/
def unitOf (text : String) : Except CalcError DateUnit :=
  match DateUnit.ofText? text with
  | some unit => .ok unit
  | none => .error (.invalidUnit text)

/-- The unit of an argument. -/
def unitArgument (argument : Option Value) : Except CalcError DateUnit :=
  match argument with
  | some (.text text) => unitOf text
  | some value => .error (.invalidUnit value.toText)
  | none => .error (.invalidUnit "undefined")

/-- Fails if the wall clock of a moment lies outside the range of dates. -/
def requireCalendar (moment : Moment) : Except CalcError Unit :=
  if moment.onCalendar then .ok () else .error (.invalidDate .offCalendar)

/-- A moment as it was given. A plain date is read off the calendar. -/
def rendered (moment : Moment) : Except CalcError Value := do
  if moment.kind = .dateOnly then requireCalendar moment
  return .text moment.render

/-! ## The current time -/

/-- The current instant as date and time. -/
def now (context : Context) (arguments : List Value) : Except CalcError Value := do
  Function.require "NOW" (.between 0 1) arguments
  let zone ← zoneArgument context arguments[0]?
  return .text (Moment.toIso ⟨context.now, zone, .dateTime⟩)

/-- The current date. -/
def today (context : Context) (arguments : List Value) : Except CalcError Value := do
  Function.require "TODAY" (.between 0 1) arguments
  let zone ← zoneArgument context arguments[0]?
  rendered ⟨context.now, zone, .dateOnly⟩

/-! ## Arithmetic -/

/-- Steps a date by an amount of units. A plain date stays a plain date. -/
def dateAdd (context : Context) (arguments : List Value) : Except CalcError Value := do
  Function.require "DATEADD" (.between 3 4) arguments
  let zone ← zoneArgument context arguments[3]?
  let moment ← dateArgument "DATEADD" zone arguments[0]?
  let unit ← unitArgument arguments[2]?
  let value := Function.argument arguments 1
  let amount := value.toNumber
  if amount.isNaN then .error (.eval (.dateAmount value.toText))
  else
    match moment.plus amount unit with
    | .ok stepped => rendered stepped
    | .error fault => .error (.invalidDate (.step fault))

/-- The whole units from one date to another. -/
def dateDiff (context : Context) (arguments : List Value) : Except CalcError Value := do
  Function.require "DATEDIFF" (.between 3 4) arguments
  let zone ← zoneArgument context arguments[3]?
  let start ← dateArgument "DATEDIFF" zone arguments[0]?
  let finish ← dateArgument "DATEDIFF" zone arguments[1]?
  let unit ← unitArgument arguments[2]?
  requireCalendar start
  requireCalendar finish
  return .number (Number.ofInt (start.diff finish unit))

/-! ## Fields -/

/-- A field of a date. -/
def dateField (name : String) (field : Moment → Int) (context : Context)
    (arguments : List Value) : Except CalcError Value := do
  Function.require name (.between 1 2) arguments
  let zone ← zoneArgument context arguments[1]?
  let moment ← dateArgument name zone arguments[0]?
  requireCalendar moment
  return .number (Number.ofInt (field moment))

/-- The number of an ISO weekday in a numbering: `1` counts from Sunday as 1, `3` from Monday as
0, and all else from Monday as 1. -/
def weekdayNumber (numbering : Option Value) (day : Nat) : Nat :=
  match numbering with
  | some (.number choice) =>
    if choice == 1.0 then day % 7 + 1
    else if choice == 3.0 then day - 1
    else day
  | _ => day

/-- The day of the week. The second argument chooses the numbering. -/
def weekday (context : Context) (arguments : List Value) : Except CalcError Value := do
  Function.require "WEEKDAY" (.between 1 3) arguments
  let zone ← zoneArgument context arguments[2]?
  let moment ← dateArgument "WEEKDAY" zone arguments[0]?
  requireCalendar moment
  return .number (Number.ofInt (weekdayNumber arguments[1]? moment.isoWeekday))

/-- The ISO week. The second argument has no effect. -/
def weekNumber (context : Context) (arguments : List Value) : Except CalcError Value := do
  Function.require "WEEKNUM" (.between 1 3) arguments
  let zone ← zoneArgument context arguments[2]?
  let moment ← dateArgument "WEEKNUM" zone arguments[0]?
  requireCalendar moment
  return .number (Number.ofInt moment.isoWeek)

/-- The date functions. -/
def dates : List Function :=
  [⟨"NOW", .date, "NOW(tz?)", "Current timestamp", now⟩,
   ⟨"TODAY", .date, "TODAY(tz?)", "Current date", today⟩,
   ⟨"DATEADD", .date, "DATEADD(date, amount, unit, tz?)",
     "Add a signed amount of years, quarters, months, weeks, days, hours, minutes or seconds",
     dateAdd⟩,
   ⟨"DATEDIFF", .date, "DATEDIFF(start, end, unit, tz?)", "Whole units from start to end",
     dateDiff⟩,
   ⟨"YEAR", .date, "YEAR(date, tz?)", "Calendar year", dateField "YEAR" fun m => m.date.year⟩,
   ⟨"MONTH", .date, "MONTH(date, tz?)", "Month, 1-12", dateField "MONTH" fun m => m.date.month⟩,
   ⟨"DAY", .date, "DAY(date, tz?)", "Day of month", dateField "DAY" fun m => m.date.day⟩,
   ⟨"HOUR", .date, "HOUR(date, tz?)", "Hour, 0-23", dateField "HOUR" fun m => m.wallClock.hour⟩,
   ⟨"MINUTE", .date, "MINUTE(date, tz?)", "Minute, 0-59",
     dateField "MINUTE" fun m => m.wallClock.minute⟩,
   ⟨"SECOND", .date, "SECOND(date, tz?)", "Second, 0-59",
     dateField "SECOND" fun m => m.wallClock.second⟩,
   ⟨"WEEKDAY", .date, "WEEKDAY(date, convention?, tz?)",
     "Day of week: ISO Monday=1 by default, 1 = Sunday-first, 3 = Monday=0", weekday⟩,
   ⟨"WEEKNUM", .date, "WEEKNUM(date, type?, tz?)", "ISO week number", weekNumber⟩]

end Library

end SheetFormula
