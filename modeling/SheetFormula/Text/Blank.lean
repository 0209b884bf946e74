/-!
# White space

White space is the standard's property of that name: the five ASCII controls from tab to
carriage return, the space, the next-line control, and the spaces of other scripts.

## Main definitions

* `SheetFormula.Text.isBlank` — the white space characters.
* `SheetFormula.Text.trim` — a text without the white space at its two ends.
-/

set_option relaxedAutoImplicit false
set_option autoImplicit false

namespace SheetFormula.Text

/-- White space, in ASCII and beyond. -/
def isBlank (c : Char) : Bool :=
  let n := c.toNat
  (9 ≤ n && n ≤ 13) || n == 0x20 || n == 0x85 || n == 0xa0 || n == 0x1680 ||
    (0x2000 ≤ n && n ≤ 0x200a) || n == 0x2028 || n == 0x2029 || n == 0x202f ||
    n == 0x205f || n == 0x3000

/-- A text without the white space before its first other character. -/
def trimStart (text : List Char) : List Char :=
  text.dropWhile isBlank

/-- A text without the white space after its last other character. -/
def trimEnd (text : List Char) : List Char :=
  (text.reverse.dropWhile isBlank).reverse

/-- A text without the white space at its two ends. -/
def trim (text : List Char) : List Char :=
  trimEnd (trimStart text)

end SheetFormula.Text
