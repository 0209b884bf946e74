/-!
# Units of time

## Main definitions

* `SheetFormula.DateUnit` — the units in which dates are stepped and compared.
* `SheetFormula.DateUnit.ofText?` — the unit of a name.
* `SheetFormula.DateUnit.months?`, `days?`, `millis` — the lengths of units.
-/

set_option relaxedAutoImplicit false
set_option autoImplicit false

namespace SheetFormula

/-- The units in which dates are stepped and compared. -/
inductive DateUnit where
  | years
  | quarters
  | months
  | weeks
  | days
  | hours
  | minutes
  | seconds
  deriving Repr, DecidableEq

namespace DateUnit

/-- All units, the longest first. -/
def all : List DateUnit :=
  [.years, .quarters, .months, .weeks, .days, .hours, .minutes, .seconds]

/-- The name of a unit. -/
def name : DateUnit → String
  | .years => "years"
  | .quarters => "quarters"
  | .months => "months"
  | .weeks => "weeks"
  | .days => "days"
  | .hours => "hours"
  | .minutes => "minutes"
  | .seconds => "seconds"

/-- The name of a unit with a capital letter. -/
def title (unit : DateUnit) : String :=
  unit.name.capitalize

/-- A letter in lower case, where that is an ASCII letter. Beyond ASCII only the sign of the
kelvin has one. -/
def lowerCase (c : Char) : Char :=
  if c = '\u212a' then 'k' else c.toLower

/-- The unit that a text names, in any case. -/
def ofText? (text : String) : Option DateUnit :=
  let lower := text.toList.map lowerCase
  all.find? fun unit => unit.name.toList == lower

/-- The months of a unit that is counted in months. -/
def months? : DateUnit → Option Int
  | .years => some 12
  | .quarters => some 3
  | .months => some 1
  | _ => none

/-- The days of a unit that is counted in days. -/
def days? : DateUnit → Option Int
  | .weeks => some 7
  | .days => some 1
  | _ => none

/-- Whether steps of a unit move the wall clock. -/
def movesClock (unit : DateUnit) : Bool :=
  unit.months?.isSome || unit.days?.isSome

/-- The milliseconds of a day. -/
def millisPerDay : Int := 86400000

/-- The milliseconds of a unit, for a unit of no fixed length those of its usual number of
days. -/
def millis : DateUnit → Int
  | .years => 365 * millisPerDay
  | .quarters => 91 * millisPerDay
  | .months => 30 * millisPerDay
  | .weeks => 7 * millisPerDay
  | .days => millisPerDay
  | .hours => 3600000
  | .minutes => 60000
  | .seconds => 1000

end DateUnit

end SheetFormula
