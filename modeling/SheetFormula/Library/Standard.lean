import SheetFormula.Library.Dates
import SheetFormula.Library.Numeric

/-!
# The standard library

## Main definitions

* `SheetFormula.Library.standard` — all functions, in the order of their names.
* `SheetFormula.Library.find?` — the function of a name.
-/

set_option relaxedAutoImplicit false
set_option autoImplicit false

namespace SheetFormula.Library

/-- All functions, in the order of their names. -/
def standard : List Function :=
  (arithmetic ++ logical ++ statistical ++ dates).mergeSort fun first second =>
    decide (first.name ≤ second.name)

/-- The function of a name. Upper and lower case matter. -/
def find? (name : String) : Option Function :=
  standard.find? fun function => function.name == name

end SheetFormula.Library
