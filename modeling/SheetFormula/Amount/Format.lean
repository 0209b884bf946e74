/-!
# Number formats

Which of the two marks, point and comma, divides the whole part of an amount from its fraction,
and which groups its digits.

## Main definitions

* `SheetFormula.NumberFormat` — a decimal mark and a grouping mark.
* `SheetFormula.NumberFormat.european`, `SheetFormula.NumberFormat.us` — the two valid formats.
* `SheetFormula.NumberFormat.fault?` — what is wrong with a format.
-/

set_option relaxedAutoImplicit false
set_option autoImplicit false

namespace SheetFormula

/-- The marks of a number format. -/
structure NumberFormat where
  decimal : Char
  thousands : Char
  deriving Repr, DecidableEq

namespace NumberFormat

/-- Written as `1.234,56`. -/
def european : NumberFormat :=
  { decimal := ',', thousands := '.' }

/-- Written as `1,234.56`. -/
def us : NumberFormat :=
  { decimal := '.', thousands := ',' }

/-- What is wrong with a number format. -/
inductive Fault where
  /-- A mark is neither a point nor a comma. -/
  | unknownMark (decimal thousands : Char)
  /-- Both marks are the same. -/
  | sameMarks (mark : Char)
  deriving Repr, DecidableEq

/-- The wording of a fault. -/
def Fault.message : Fault → String
  | .unknownMark decimal thousands =>
    "Invalid number format: separators must be '.' or ',' (got decimal '" ++ decimal.toString ++
      "', thousands '" ++ thousands.toString ++ "')"
  | .sameMarks mark =>
    "Invalid number format: decimal and thousands separators are both '" ++ mark.toString ++ "'"

/-- Whether a character can be a mark of a number format. -/
def isMark (c : Char) : Bool :=
  c == '.' || c == ','

/-- What is wrong with a format; nothing, if its marks are point and comma in some order. -/
def fault? (format : NumberFormat) : Option Fault :=
  if !isMark format.decimal || !isMark format.thousands then
    some (.unknownMark format.decimal format.thousands)
  else if format.decimal = format.thousands then some (.sameMarks format.decimal)
  else none

end NumberFormat

end SheetFormula
