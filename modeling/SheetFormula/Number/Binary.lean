/-!
# The exact value of a double

A finite double is a signed whole mantissa times a power of two. This module takes doubles apart
into such values and puts the double nearest to a ratio together, both in exact arithmetic, so
that reading and writing decimals never depends on the rounding of intermediate results.

## Main definitions

* `SheetFormula.Number.Binary` — a value `± mantissa · 2 ^ exponent`.
* `SheetFormula.Number.decode` — the exact value of a finite double.
* `SheetFormula.Number.nearest` — the double nearest to a ratio, ties to the even mantissa.
* `SheetFormula.Number.whole?`, `SheetFormula.Number.truncated?` — whole numbers among doubles.
* `SheetFormula.Number.remainder` — the exact remainder of a division.
-/

set_option relaxedAutoImplicit false
set_option autoImplicit false

namespace SheetFormula.Number

/-- A value `± mantissa · 2 ^ exponent`. -/
structure Binary where
  negative : Bool
  mantissa : Nat
  exponent : Int
  deriving Repr, DecidableEq

/-- The least exponent of a double. -/
def leastExponent : Int := -1074

/-- The exact value of a finite double; infinities and NaN have none. -/
def decode (x : Float) : Option Binary :=
  let bits := x.toBits.toNat
  let negative := decide (Nat.pow 2 63 ≤ bits)
  let biased : Nat := bits / Nat.pow 2 52 % Nat.pow 2 11
  let fraction : Nat := bits % Nat.pow 2 52
  if biased = 2047 then none
  else if biased = 0 then some ⟨negative, fraction, leastExponent⟩
  else some ⟨negative, fraction + Nat.pow 2 52, (biased : Int) - 1075⟩

/-- The whole number nearest to `num / den`; of two equally near ones, the even one. -/
def roundDiv (num den : Nat) : Nat :=
  let floor := num / den
  let rest := num % den
  if 2 * rest < den then floor
  else if den < 2 * rest then floor + 1
  else floor + floor % 2

/-- The sign bit of a double. -/
def signBit (negative : Bool) : Nat :=
  if negative then Nat.pow 2 63 else 0

/-- Both parts of the ratio `num / den · 2 ^ (-shift)`, as whole numbers. -/
def shifted (num den : Nat) (shift : Int) : Nat × Nat :=
  (num * Nat.pow 2 (-shift).toNat, den * Nat.pow 2 shift.toNat)

/-- The double nearest to `± num / den`. A tie goes to the even mantissa, a value beyond the
greatest double to infinity. The exponent is the one that leaves a mantissa of 53 bits, or the
least exponent when the value is too small for that. Exponent and mantissa are packed by one
addition, which also carries a mantissa that was rounded up to 54 bits. -/
def nearest (negative : Bool) (num den : Nat) : Float :=
  let magnitude : Nat :=
    if num = 0 then 0
    else
      let guess : Int := (num.log2 : Int) - (den.log2 : Int) - 53
      let trial := shifted num den guess
      let fitting := if trial.1 / trial.2 < Nat.pow 2 53 then guess else guess + 1
      let exponent := max leastExponent fitting
      let ratio := shifted num den exponent
      let packed := (exponent - leastExponent).toNat * Nat.pow 2 52 + roundDiv ratio.1 ratio.2
      min packed (2047 * Nat.pow 2 52)
  Float.ofBits (UInt64.ofNat (signBit negative + magnitude))

/-- The magnitude of a value as a ratio of whole numbers. -/
def Binary.ratio (value : Binary) : Nat × Nat :=
  (value.mantissa * Nat.pow 2 value.exponent.toNat, Nat.pow 2 (-value.exponent).toNat)

/-- The double nearest to an exact value. -/
def Binary.toFloat (value : Binary) : Float :=
  nearest value.negative value.ratio.1 value.ratio.2

/-- The value without the part behind the binary point. -/
def Binary.truncated (value : Binary) : Int :=
  let magnitude := value.ratio.1 / value.ratio.2
  if value.negative then -magnitude else magnitude

/-- Whether the value has no part behind the binary point. -/
def Binary.isWhole (value : Binary) : Bool :=
  value.ratio.1 % value.ratio.2 == 0

/-- The whole number that a finite double is or has before the point. -/
def truncated? (x : Float) : Option Int :=
  (decode x).map Binary.truncated

/-- The whole number that a double is, if it is one. -/
def whole? (x : Float) : Option Int :=
  ((decode x).filter Binary.isWhole).map Binary.truncated

/-- A double without the part behind the point; the sign of zero is kept. -/
def truncate (x : Float) : Float :=
  if x < 0.0 then x.ceil else x.floor

/-- The double nearest to a whole number. -/
def ofInt (n : Int) : Float :=
  nearest (decide (n < 0)) n.natAbs 1

/-- NaN, the result of an operation without one. -/
def nan : Float := 0.0 / 0.0

/-- Positive infinity. -/
def infinity : Float := 1.0 / 0.0

/-- The remainder of `x / y` for a quotient cut off towards zero. It has the sign of `x` and is
exact. There is none by zero or of an infinity, and an infinite divisor leaves `x` as it is. -/
def remainder (x y : Float) : Float :=
  match decode x, decode y with
  | some a, some b =>
    if b.mantissa = 0 then nan
    else
      let exponent := min a.exponent b.exponent
      let left := a.mantissa * Nat.pow 2 (a.exponent - exponent).toNat
      let right := b.mantissa * Nat.pow 2 (b.exponent - exponent).toNat
      Binary.toFloat ⟨a.negative, left % right, exponent⟩
  | some _, none => if y.isNaN then nan else x
  | none, _ => nan

end SheetFormula.Number
