import SheetFormula.Moment.Iso
import SheetFormula.Moment.Locale

/-!
# Reading moments

ISO notation comes first, then the local layouts. Four shapes of text are plain dates; a moment
read from any other text has a time of day.

## Main definitions

* `SheetFormula.Moment.isPlainDate` — the texts that are plain dates.
* `SheetFormula.Moment.ofText?` — the moment that a text names.
-/

set_option relaxedAutoImplicit false
set_option autoImplicit false

namespace SheetFormula.Moment

open SheetFormula.Text (Shape trim)

/-- The shapes of plain dates. -/
def plainDateShapes : List Shape :=
  [Shape.sequence
    [Shape.digits 4, Shape.char '-', Shape.digits 2, Shape.char '-', Shape.digits 2],
   Shape.sequence
    [Shape.oneOrTwoDigits, Shape.char '.', Shape.oneOrTwoDigits, Shape.char '.',
     Shape.digits 4],
   Shape.sequence
    [Shape.oneOrTwoDigits, Shape.char '/', Shape.oneOrTwoDigits, Shape.char '/',
     Shape.digits 4],
   Shape.sequence
    [Shape.digits 4, Shape.char '/', Shape.oneOrTwoDigits, Shape.char '/',
     Shape.oneOrTwoDigits]]

/-- Whether a text is a plain date. -/
def isPlainDate (text : List Char) : Bool :=
  plainDateShapes.any fun shape => shape.spans text

/-- The kind of the moment that a text names. -/
def kindOf (text : List Char) : MomentKind :=
  if isPlainDate text then .dateOnly else .dateTime

/-- The moment that a text names, seen in a zone. White space around it does not count. -/
def ofText? (zone : Zone) (text : String) : Option Moment :=
  let trimmed := trim text.toList
  ((readIso? zone trimmed).or (readLocale? zone trimmed)).map fun instant =>
    ⟨instant, zone, kindOf trimmed⟩

/-- The moment a number of milliseconds from the start of 1970-01-01, seen in a zone. -/
def ofMillis? (zone : Zone) (millis : Int) : Option Moment :=
  (Calendar.Timestamp.ofMillis millis).checked.map fun instant => ⟨instant, zone, .dateTime⟩

end SheetFormula.Moment
