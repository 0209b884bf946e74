/-!
# Release

## Main definitions

* `SheetFormula.release` — the number of this release.
-/

set_option relaxedAutoImplicit false
set_option autoImplicit false

namespace SheetFormula

/-- The number of this release. -/
def release : String := "1.2.0"

end SheetFormula
