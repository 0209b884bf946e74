import SheetFormula.Moment.Basic
import SheetFormula.Number.Numeral
import SheetFormula.Text.Digit

/-!
# Dates in ISO notation

`YYYY-MM` may be followed by a day, an hour behind `T`, minutes, seconds and a fraction, each only
behind the one before it, and a time of day by `Z` or an offset. What is missing is the first day
and zero. Without an offset the text is read on the wall clock of the zone at hand.

The notation admits digits of all scripts, but only ASCII digits have a value. A year, month or
fraction without a value makes the text unreadable; another field without one counts as missing.

## Main definitions

* `SheetFormula.Moment.IsoFields` — the fields of a text in ISO notation.
* `SheetFormula.Moment.isoFields?` — cuts a text into its fields.
* `SheetFormula.Moment.readIso?` — the instant that a text in ISO notation names.
-/

set_option relaxedAutoImplicit false
set_option autoImplicit false

namespace SheetFormula.Moment

open SheetFormula.Calendar (Date Timestamp)
open SheetFormula.Text (isDecimalDigit)
open SheetFormula.Number (digitsValue)

/-! ## Fields -/

/-- The fields of a text in ISO notation, as they are written. A field that is missing is
empty. -/
structure IsoFields where
  year : List Char
  month : List Char
  day : List Char := []
  hour : List Char := []
  minute : List Char := []
  second : List Char := []
  fraction : List Char := []
  offset : List Char := []
  deriving Repr, DecidableEq

/-- A number of digits at the head of a text, and what follows them. -/
def takeDigits? (n : Nat) (text : List Char) : Option (List Char × List Char) :=
  let digits := text.take n
  if digits.length = n ∧ digits.all isDecimalDigit then some (digits, text.drop n) else none

/-- A field of two digits behind a mark, empty if the mark does not follow. -/
def takeField? (mark : Char) (text : List Char) : Option (List Char × List Char) :=
  match text with
  | [] => some ([], [])
  | c :: rest => if c = mark then takeDigits? 2 rest else some ([], c :: rest)

/-- The fraction of a second at the head of a text, empty if there is none. It has at most nine
digits. -/
def takeFraction? (text : List Char) : Option (List Char × List Char) :=
  match text with
  | [] => some ([], [])
  | c :: rest =>
    if c = '.' ∨ c = ',' then
      let digits := rest.takeWhile isDecimalDigit
      if 1 ≤ digits.length ∧ digits.length ≤ 9 then
        some (digits, rest.dropWhile isDecimalDigit)
      else none
    else some ([], c :: rest)

/-- Whether a text is the offset at the end of a time: `Z` in any case, or a sign, two digits, and
possibly two more with or without a colon. -/
def isOffset (text : List Char) : Bool :=
  match text with
  | [z] => z == 'Z' || z == 'z'
  | [sign, a, b] => (sign == '+' || sign == '-') && [a, b].all isDecimalDigit
  | [sign, a, b, c, d] => (sign == '+' || sign == '-') && [a, b, c, d].all isDecimalDigit
  | [sign, a, b, colon, c, d] =>
    (sign == '+' || sign == '-') && colon == ':' && [a, b, c, d].all isDecimalDigit
  | _ => false

/-- The fields of a time of day and an offset, if they take up all of a text. -/
def timeFields? (date : IsoFields) (text : List Char) : Option IsoFields := do
  let (hour, afterHour) ← takeDigits? 2 text
  let (minute, afterMinute) ← takeField? ':' afterHour
  let (second, afterSecond) ←
    if minute = [] then some ([], afterMinute) else takeField? ':' afterMinute
  let (fraction, offset) ←
    if second = [] then some ([], afterSecond) else takeFraction? afterSecond
  if offset = [] ∨ isOffset offset then
    return { date with hour, minute, second, fraction, offset }
  else none

/-- The fields of a text in ISO notation. -/
def isoFields? (text : List Char) : Option IsoFields := do
  let (year, afterYear) ← takeDigits? 4 text
  let (month, afterMonth) ← takeField? '-' afterYear
  let (day, afterDay) ← takeField? '-' afterMonth
  if month = [] then none
  else
    match afterDay with
    | [] => return { year, month, day }
    | c :: time => if day ≠ [] ∧ c = 'T' then timeFields? { year, month, day } time else none

/-! ## Values -/

/-- The value of a field, if its digits are ASCII digits and there are any. -/
def fieldValue? (digits : List Char) : Option Nat :=
  if digits ≠ [] ∧ digits.all Char.isDigit then some (digitsValue digits) else none

/-- The nanoseconds of a fraction; none at all are zero. -/
def fractionNanos? (fraction : List Char) : Option Nat :=
  if fraction.all Char.isDigit then
    some (digitsValue fraction * Nat.pow 10 (9 - fraction.length))
  else none

/-- The seconds of an offset. Digits without a value are passed over. -/
def offsetSeconds? (offset : List Char) : Option Int :=
  let digits := (offset.drop 1).filter Char.isDigit
  let seconds := 3600 * digitsValue (digits.take 2) + 60 * digitsValue (digits.drop 2)
  if digits.length < 2 ∨ 86400 ≤ seconds then none
  else some (if offset.head? = some '-' then -(seconds : Int) else seconds)

/-- The wall-clock time that fields name. -/
def IsoFields.wall? (fields : IsoFields) : Option Timestamp := do
  let year ← fieldValue? fields.year
  let month ← fieldValue? fields.month
  let nanos ← fractionNanos? fields.fraction
  let second := (fieldValue? fields.second).getD 0
  if 60 ≤ second then none
  else
    Timestamp.ofFields? ⟨year, month, (fieldValue? fields.day).getD 1⟩
      ((fieldValue? fields.hour).getD 0) ((fieldValue? fields.minute).getD 0) second nanos

/-- The instant of a wall-clock time with the offset of some fields, or in a zone. -/
def IsoFields.instant? (fields : IsoFields) (zone : Zone) (wall : Timestamp) :
    Option Timestamp :=
  match fields.offset with
  | [] => zone.instantAt? wall
  | [_] => some wall
  | offset => do (Zone.fixed (← offsetSeconds? offset)).instantAt? wall

/-- The instant that a text in ISO notation names. -/
def readIso? (zone : Zone) (text : List Char) : Option Timestamp := do
  let fields ← isoFields? text
  let wall ← fields.wall?
  fields.instant? zone wall

end SheetFormula.Moment
