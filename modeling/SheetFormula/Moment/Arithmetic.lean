import SheetFormula.Moment.Basic
import SheetFormula.Moment.Unit
import SheetFormula.Number.Layout

/-!
# Arithmetic of moments

Whole calendar units move the wall clock, and the instant is found again from it. Clock units, and
the fraction of an amount in any unit, are exact durations.

The difference of two moments is the number of whole units that fit between them. Calendar units
are counted on the wall clock: the count is the greatest one whose step does not pass the end.

## Main definitions

* `SheetFormula.Moment.StepFault` — why a moment cannot be stepped.
* `SheetFormula.Moment.plus` — the moment an amount of units later.
* `SheetFormula.Moment.diff` — the whole units from one moment to another.
-/

set_option relaxedAutoImplicit false
set_option autoImplicit false

namespace SheetFormula.Moment

open SheetFormula.Calendar (Timestamp)
open SheetFormula.Number (Layout)

/-! ## Steps -/

/-- Why a moment cannot be stepped. -/
inductive StepFault where
  /-- The amount is infinite, not a number, or too large. -/
  | amount (value : Float) (unit : DateUnit)
  /-- The result lies outside the range of dates. -/
  | outOfRange
  /-- The wall clock that a step would move lies outside the range of dates, and the program
  stops. -/
  | offCalendar
  deriving Repr

/-- What the program says when it stops because a wall clock lies outside the range of dates. -/
def stopText : String :=
  "Local time out of range for `NaiveDateTime`"

/-- The wording of a fault. -/
def StepFault.message : StepFault → String
  | .amount value unit => "cannot add " ++ Layout.plain.write value ++ " " ++ unit.title
  | .outOfRange => "date out of range"
  | .offCalendar => stopText

/-- The greatest amount of units that is added. -/
def greatestAmount : Float := 1000000000000.0

/-- The instant a whole number of units after that of a moment. -/
def plusWhole? (moment : Moment) (count : Int) (unit : DateUnit) : Option Timestamp :=
  match unit.months?, unit.days? with
  | some months, _ => do moment.zone.instantAt? (← moment.wallClock.stepMonths? (count * months))
  | none, some days => do moment.zone.instantAt? (← moment.wallClock.plusDays? (count * days))
  | none, none => moment.instant.plusMillis? (count * unit.millis)

/-- The milliseconds of a fraction of a unit, rounded. -/
def fractionMillis (fraction : Float) (unit : DateUnit) : Int :=
  (Number.truncated? (fraction * Number.ofInt unit.millis).round).getD 0

/-- The moment an amount of units later, seen in the same zone and of the same kind. -/
def plus (moment : Moment) (amount : Float) (unit : DateUnit) : Except StepFault Moment :=
  match Number.truncated? amount with
  | none => .error (.amount amount unit)
  | some count =>
    if greatestAmount < amount.abs then .error (.amount amount unit)
    else if unit.movesClock && !moment.onCalendar then .error .offCalendar
    else
      let stepped := plusWhole? moment count unit
      let instant :=
        if (Number.whole? amount).isSome then stepped
        else
          let fraction := amount - Number.truncate amount
          stepped.bind fun instant => instant.plusMillis? (fractionMillis fraction unit)
      match instant with
      | some instant => .ok { moment with instant }
      | none => .error .outOfRange

/-! ## Differences -/

/-- The greatest number up to `limit` that does not pass, if smaller numbers never do; zero is
never asked. -/
def greatestCount (passes : Nat → Bool) : Nat → Nat
  | 0 => 0
  | limit + 1 => if passes (limit + 1) then greatestCount passes limit else limit + 1

/-- Whether a step leads past an end or out of the range of dates. -/
def passes (step : Option Timestamp) (finish : Timestamp) : Bool :=
  match step with
  | some stepped => finish.before stepped
  | none => true

/-- The whole months from one wall-clock time to another, zero if there are none. -/
def monthsBetween (start finish : Timestamp) : Nat :=
  let months :=
    12 * (finish.date.year - start.date.year) + (finish.date.month - start.date.month : Int)
  greatestCount (fun n => passes (start.stepMonths? n) finish) months.toNat

/-- The whole days from one wall-clock time to another, zero if there are none. -/
def daysBetween (start finish : Timestamp) : Nat :=
  greatestCount (fun n => passes (start.plusDays? n) finish)
    (finish.dayNumber - start.dayNumber).toNat

/-- The whole units from an instant to one that is no earlier. -/
def unitsBetween (zone : Zone) (unit : DateUnit) (start finish : Timestamp) : Int :=
  match unit.months?, unit.days? with
  | some months, _ => monthsBetween (zone.wallClock start) (zone.wallClock finish) / months
  | none, some days => daysBetween (zone.wallClock start) (zone.wallClock finish) / days
  | none, none => (start.millisUntil finish).tdiv unit.millis

/-- The whole units from one moment to another, counted in the zone of the first one and negative
if the other is earlier. -/
def diff (moment finish : Moment) (unit : DateUnit) : Int :=
  if finish.instant.before moment.instant then
    -unitsBetween moment.zone unit finish.instant moment.instant
  else unitsBetween moment.zone unit moment.instant finish.instant

end SheetFormula.Moment
