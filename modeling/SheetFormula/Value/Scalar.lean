import SheetFormula.Value.Basic

/-!
# Results

The result of a formula is a number, a truth value or text. Compound values become their text, and
null and undefined become empty text.

## Main definitions

* `SheetFormula.Scalar` — results.
* `SheetFormula.Scalar.ofValue`, `SheetFormula.Scalar.ofJson` — the result that a value is, and
  the one that data is.
* `SheetFormula.Scalar.display`, `SheetFormula.Scalar.toJson` — a result as text and as data.
-/

set_option relaxedAutoImplicit false
set_option autoImplicit false

namespace SheetFormula

/-- The results of formulas. -/
inductive Scalar where
  | number (value : Float)
  | boolean (value : Bool)
  | text (value : String)
  deriving Repr

namespace Scalar

/-- The result that a value is. -/
def ofValue : Value → Scalar
  | .number value => .number value
  | .boolean value => .boolean value
  | .text value => .text value
  | .null => .text ""
  | .undefined => .text ""
  | value => .text value.toText

/-- The result that data is. Its text is not read as an amount. -/
def ofJson : Json → Scalar
  | .null => .text ""
  | .boolean value => .boolean value
  | .integer value => .number (Number.ofInt value)
  | .double value => .number value
  | .text value => .text value
  | data => .text data.write

/-- A result as it is shown. -/
def display : Scalar → String
  | .number value => Number.Layout.display.write value
  | .boolean value => if value then "true" else "false"
  | .text value => value

/-- A result as data. -/
def toJson : Scalar → Json
  | .number value => .double value
  | .boolean value => .boolean value
  | .text value => .text value

/-- The number of a result that is one. -/
def number? : Scalar → Option Float
  | .number value => some value
  | _ => none

/-- The text of a result that is one. -/
def text? : Scalar → Option String
  | .text value => some value
  | _ => none

/-- Whether a result is empty text. -/
def isEmpty : Scalar → Bool
  | .text value => value == ""
  | _ => false

end Scalar

end SheetFormula
