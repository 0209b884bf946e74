import SheetFormula.Error

/-!
# Configuration

How amounts are written, and the zone of date functions that are given none.

## Main definitions

* `SheetFormula.Configuration` — the settings of a calculator.
-/

set_option relaxedAutoImplicit false
set_option autoImplicit false

namespace SheetFormula

/-- The settings of a calculator. -/
structure Configuration where
  numberFormat : NumberFormat := .european
  timezone : String := "UTC"
  deriving Repr, DecidableEq

/-- The settings of a calculator that is given none. -/
def Configuration.standard : Configuration :=
  {}

/-- Fails if the number format is not valid. -/
def Configuration.validate (configuration : Configuration) : Except CalcError Unit :=
  match configuration.numberFormat.fault? with
  | some fault => .error (.eval (.numberFormat fault))
  | none => .ok ()

end SheetFormula
