import SheetFormula.Number.Binary

/-!
# Reading decimal numerals

A numeral is an optional sign, digits with at most one point among or around them, and an
optional exponent. It is read as the nearest double.

## Main definitions

* `SheetFormula.Number.digitsValue` — the number that a run of digits writes.
* `SheetFormula.Number.ofDecimal` — the double nearest to `± digits · 10 ^ exponent`.
* `SheetFormula.Number.ofParts` — the double of a numeral given by its parts.
* `SheetFormula.Number.readNumeral?` — a numeral that takes up a whole text.
-/

set_option relaxedAutoImplicit false
set_option autoImplicit false

namespace SheetFormula.Number

/-- The number that a run of ASCII digits writes. -/
def digitsValue (digits : List Char) : Nat :=
  digits.foldl (fun value c => 10 * value + (c.toNat - 48)) 0

/-- The double nearest to `± digits · 10 ^ exponent`. Since ten is more than the third power of two,
the bits of the digits settle magnitudes far outside the range of the doubles. -/
def ofDecimal (negative : Bool) (digits : Nat) (exponent : Int) : Float :=
  let bits : Int := (digits.log2 : Int) + 1 + 3 * exponent
  if digits = 0 ∨ bits < -1100 then nearest negative 0 1
  else if 0 ≤ exponent ∧ 1024 < bits then nearest negative (Nat.pow 2 1024) 1
  else nearest negative (digits * Nat.pow 10 exponent.toNat) (Nat.pow 10 (-exponent).toNat)

/-- The double of a numeral: its digits before and after the point and its exponent. -/
def ofParts (negative : Bool) (whole fraction : List Char) (exponent : Int) : Float :=
  ofDecimal negative (digitsValue (whole ++ fraction)) (exponent - fraction.length)

/-- A sign at the head of a text: whether it is a minus, and what follows. -/
def takeSign : List Char → Bool × List Char
  | '-' :: rest => (true, rest)
  | '+' :: rest => (false, rest)
  | text => (false, text)

/-- The exponent of a numeral that takes up the rest of a text. -/
def readExponent? : List Char → Option Int
  | [] => some 0
  | mark :: rest =>
    let (negative, digits) := takeSign rest
    if (mark = 'e' ∨ mark = 'E') ∧ digits ≠ [] ∧ digits.all Char.isDigit then
      some (if negative then -(digitsValue digits : Int) else digitsValue digits)
    else none

/-- The digits after the point of a numeral, and what follows them. -/
def takeFraction : List Char → List Char × List Char
  | '.' :: rest => (rest.takeWhile Char.isDigit, rest.dropWhile Char.isDigit)
  | text => ([], text)

/-- The double of a numeral that takes up the whole text: an optional sign, at least one digit
before or after an optional point, and an optional exponent. -/
def readNumeral? (text : List Char) : Option Float :=
  let (negative, unsigned) := takeSign text
  let whole := unsigned.takeWhile Char.isDigit
  let (fraction, rest) := takeFraction (unsigned.dropWhile Char.isDigit)
  if whole ++ fraction = [] then none
  else (readExponent? rest).map (ofParts negative whole fraction)

end SheetFormula.Number
