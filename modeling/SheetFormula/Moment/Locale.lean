import SheetFormula.Moment.Basic
import SheetFormula.Number.Numeral
import SheetFormula.Text.Shape

/-!
# Dates in local notations

Twelve layouts are tried in order: day, month and year with points; the same with slashes; month,
day and year with slashes; and year, month and day with slashes; each with a time of day with and
without seconds, and without one. A date with slashes is therefore read with the day first
wherever that is possible.

A layout is a list of parts. A number may have white space before it and leading zeros, and takes
at most as many digits as its field has; a blank takes all white space, also none.

## Main definitions

* `SheetFormula.Moment.Part`, `SheetFormula.Moment.layouts` — the parts of layouts, and the layouts.
* `SheetFormula.Moment.hasLocaleShape` — the texts that the layouts are tried on.
* `SheetFormula.Moment.readLayout?` — the wall-clock time of a text in one layout.
* `SheetFormula.Moment.readLocale?` — the instant that a text in a local notation names.
-/

set_option relaxedAutoImplicit false
set_option autoImplicit false

namespace SheetFormula.Moment

open SheetFormula.Calendar (Date Timestamp)
open SheetFormula.Text (Shape isBlank trimStart)
open SheetFormula.Number (digitsValue)

/-! ## Layouts -/

/-- The fields of a date and time. -/
inductive Field where
  | year
  | month
  | day
  | hour
  | minute
  | second
  deriving Repr, DecidableEq

/-- The parts of a layout. -/
inductive Part where
  | field (field : Field)
  | mark (c : Char)
  | blank
  deriving Repr, DecidableEq

/-- The parts of a date: three fields with a mark between them. -/
def dateParts (mark : Char) (a b c : Field) : List Part :=
  [.field a, .mark mark, .field b, .mark mark, .field c]

/-- The parts of a time of day with seconds, behind a blank. -/
def longTime : List Part :=
  [.blank, .field .hour, .mark ':', .field .minute, .mark ':', .field .second]

/-- The parts of a time of day without seconds, behind a blank. -/
def shortTime : List Part :=
  [.blank, .field .hour, .mark ':', .field .minute]

/-- A date with the two times of day and without one. -/
def withTimes (date : List Part) : List (List Part) :=
  [date ++ longTime, date ++ shortTime, date]

/-- The layouts in the order in which they are tried. -/
def layouts : List (List Part) :=
  withTimes (dateParts '.' .day .month .year) ++ withTimes (dateParts '/' .day .month .year) ++
    withTimes (dateParts '/' .month .day .year) ++ withTimes (dateParts '/' .year .month .day)

/-- The shape of a text that the layouts are tried on: a date with points or slashes and a year of
four digits, behind which the text ends or has white space. -/
def localeShape : Shape :=
  let mark := Shape.one fun c => c == '.' || c == '/'
  Shape.andThen
    (Shape.orElse
      (Shape.sequence
        [Shape.oneOrTwoDigits, mark, Shape.oneOrTwoDigits, mark, Shape.digits 4])
      (Shape.sequence
        [Shape.digits 4, Shape.char '/', Shape.oneOrTwoDigits, Shape.char '/',
         Shape.oneOrTwoDigits]))
    (Shape.orElse (Shape.one isBlank) Shape.atEnd)

/-- Whether the layouts are tried on a text. -/
def hasLocaleShape (text : List Char) : Bool :=
  localeShape.begins text

/-! ## Reading a layout -/

/-- The values of the fields that have been read. -/
structure FieldValues where
  year : Int := 0
  month : Nat := 0
  day : Nat := 0
  hour : Nat := 0
  minute : Nat := 0
  second : Nat := 0
  deriving Repr, DecidableEq

/-- Sets a field. -/
def FieldValues.set (values : FieldValues) (field : Field) (value : Nat) : FieldValues :=
  match field with
  | .year => { values with year := value }
  | .month => { values with month := value }
  | .day => { values with day := value }
  | .hour => { values with hour := value }
  | .minute => { values with minute := value }
  | .second => { values with second := value }

/-- The most digits that a field takes. -/
def Field.width : Field → Nat
  | .year => 4
  | _ => 2

/-- The value of a field at the head of a text, and what follows it. -/
def readField? (field : Field) (text : List Char) : Option (Nat × List Char) :=
  let unspaced := trimStart text
  let digits := (unspaced.take field.width).takeWhile Char.isDigit
  if digits = [] then none else some (digitsValue digits, unspaced.drop digits.length)

/-- The values of the fields of a layout that takes up a whole text. -/
def readParts? (values : FieldValues) : List Part → List Char → Option FieldValues
  | [], text => if text = [] then some values else none
  | .field field :: parts, text =>
    match readField? field text with
    | some (value, rest) => readParts? (values.set field value) parts rest
    | none => none
  | .mark mark :: parts, text =>
    match text with
    | c :: rest => if c = mark then readParts? values parts rest else none
    | [] => none
  | .blank :: parts, text => readParts? values parts (trimStart text)

/-- The wall-clock time of a text in a layout. Second 60 is a leap second. -/
def readLayout? (layout : List Part) (text : List Char) : Option Timestamp := do
  let values ← readParts? {} layout text
  Timestamp.ofFields? ⟨values.year, values.month, values.day⟩ values.hour values.minute
    values.second 0

/-- The instant that a text in a local notation names: the first layout that fits decides. -/
def readLocale? (zone : Zone) (text : List Char) : Option Timestamp :=
  if hasLocaleShape text then
    match layouts.findSome? fun layout => readLayout? layout text with
    | some wall => zone.instantAt? wall
    | none => none
  else none

end SheetFormula.Moment
