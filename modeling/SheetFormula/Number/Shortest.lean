import SheetFormula.Number.Binary

/-!
# The shortest decimal of a double

A double stands for all reals that round to it. Among the decimals in that interval the coarsest
grid that holds one fixes the number of digits, and of its candidates the one nearest to the
double is taken. The comparison is exact: both ends of the interval and the candidates are
multiples of one common unit.

## Main definitions

* `SheetFormula.Number.Decimal` — a decimal `digits · 10 ^ exponent`.
* `SheetFormula.Number.Tie` — which of two equally near decimals is taken.
* `SheetFormula.Number.shortest` — the shortest decimal that reads back as a positive double.
-/

set_option relaxedAutoImplicit false
set_option autoImplicit false

namespace SheetFormula.Number

/-- A decimal `digits · 10 ^ exponent`. -/
structure Decimal where
  digits : Nat
  exponent : Int
  deriving Repr, DecidableEq

/-- The choice between two equally near decimals of one length. -/
inductive Tie where
  | up
  | toEven
  deriving Repr, DecidableEq

/-- Whether the upper of two neighbours, the lower one being `floor`, is taken in a tie. -/
def Tie.takesUpper (tie : Tie) (floor : Nat) : Bool :=
  match tie with
  | .up => true
  | .toEven => floor % 2 == 1

/-- The interval of the reals that round to a double, in quarters of its unit in the last place.
Below a power of two the next double is only half as far away as above it. -/
structure Interval where
  lower : Nat
  value : Nat
  upper : Nat
  closed : Bool
  exponent : Int

/-- The interval of the double `mantissa · 2 ^ exponent`. -/
def Interval.ofBinary (mantissa : Nat) (exponent : Int) : Interval :=
  let narrow := mantissa == Nat.pow 2 52 && decide (leastExponent < exponent)
  { lower := if narrow then 4 * mantissa - 1 else 4 * mantissa - 2
    value := 4 * mantissa
    upper := 4 * mantissa + 2
    closed := mantissa % 2 == 0
    exponent := exponent - 2 }

/-- The decimal on the grid of the multiples of `10 ^ grid` that lies in the interval and is
nearest to its value, if any lies there. -/
def Interval.candidate? (interval : Interval) (tie : Tie) (grid : Int) : Option Decimal :=
  let scale := Nat.pow 2 interval.exponent.toNat * Nat.pow 10 (-grid).toNat
  let unit := Nat.pow 2 (-interval.exponent).toNat * Nat.pow 10 grid.toNat
  let lower := interval.lower * scale
  let value := interval.value * scale
  let upper := interval.upper * scale
  let floor := value / unit
  let fromBelow := if interval.closed then lower ≤ floor * unit else lower < floor * unit
  let fromAbove :=
    if interval.closed then (floor + 1) * unit ≤ upper else (floor + 1) * unit < upper
  let below := value - floor * unit
  let above := (floor + 1) * unit - value
  if fromBelow ∧ (¬ fromAbove ∨ below < above ∨ (below = above ∧ ¬ tie.takesUpper floor)) then
    some ⟨floor, grid⟩
  else if fromAbove then some ⟨floor + 1, grid⟩
  else none

/-- The shortest decimal that reads back as the double `mantissa · 2 ^ exponent`, `mantissa`
being positive. The search begins above the value, where no grid has a candidate, and goes down
to finer grids; seventeen digits always suffice. -/
def shortest (tie : Tie) (mantissa : Nat) (exponent : Int) : Decimal :=
  let interval := Interval.ofBinary mantissa exponent
  let start : Int := ((mantissa.log2 : Int) + exponent) * 30103 / 100000 + 2
  ((List.range 24).findSome? fun (step : Nat) =>
    interval.candidate? tie (start - (step : Int))).getD ⟨0, 0⟩

end SheetFormula.Number
