/-!
# Sets of code points given by ranges

A character class of a standard is a list of closed ranges of code points. This module says
when such a list holds a code point.

## Main definitions

* `SheetFormula.Text.CodePoints` — a list of closed ranges.
* `SheetFormula.Text.CodePoints.holds` — membership of a code point.
-/

set_option relaxedAutoImplicit false
set_option autoImplicit false

namespace SheetFormula.Text

/-- A set of code points, as the list of its closed ranges. -/
abbrev CodePoints := List (Nat × Nat)

/-- Whether the code point `n` lies in one of the ranges. -/
def CodePoints.holds (ranges : CodePoints) (n : Nat) : Bool :=
  ranges.any fun range => decide (range.1 ≤ n) && decide (n ≤ range.2)

end SheetFormula.Text
