import SheetFormula.Library.Basic

/-!
# Arithmetic, logical and statistical functions

Arithmetic functions take a value for a number loosely: without a numeric reading it is NaN.
Statistical functions look into arrays, one level deep.

## Main definitions

* `SheetFormula.Library.numbers` — the numbers of the arguments of a statistical function.
* `SheetFormula.Library.arithmetic`, `logical`, `statistical` — the functions.
-/

set_option relaxedAutoImplicit false
set_option autoImplicit false

namespace SheetFormula.Library

/-! ## Arithmetic -/

/-- The number of the first argument. -/
def firstNumber (arguments : List Value) : Float :=
  (arguments.head?.map Value.toNumber).getD Number.nan

/-- A function of one number. -/
def ofNumber (name : String) (f : Float → Float) (arguments : List Value) :
    Except CalcError Value := do
  Function.require name (.exactly 1) arguments
  return .number (f (firstNumber arguments))

/-- Rounds to a number of places, a half away from zero. -/
def roundTo (value places : Float) : Float :=
  let factor := Float.pow 10.0 places
  (value * factor).round / factor

/-- Rounds the first argument to as many places as the second one says, without it to none. -/
def roundPlaces (arguments : List Value) : Except CalcError Value := do
  Function.require "ROUND" (.between 1 2) arguments
  let places := match arguments[1]? with
    | none => 0.0
    | some .undefined => 0.0
    | some value => value.toNumber
  return .number (roundTo (firstNumber arguments) places)

/-- The random number of the evaluation. -/
def random (context : Context) (arguments : List Value) : Except CalcError Value := do
  Function.require "RAND" (.exactly 0) arguments
  return .number context.chance

/-- The arithmetic functions. -/
def arithmetic : List Function :=
  [⟨"ABS", .arithmetic, "ABS(x)", "Absolute value", fun _ => ofNumber "ABS" Float.abs⟩,
   ⟨"CEIL", .arithmetic, "CEIL(x)", "Round up to an integer", fun _ => ofNumber "CEIL" Float.ceil⟩,
   ⟨"FLOOR", .arithmetic, "FLOOR(x)", "Round down to an integer",
     fun _ => ofNumber "FLOOR" Float.floor⟩,
   ⟨"ROUND", .arithmetic, "ROUND(x, places=0)", "Round half away from zero to `places` digits",
     fun _ => roundPlaces⟩,
   ⟨"RAND", .arithmetic, "RAND()", "Uniform random number in [0, 1)", random⟩]

/-! ## Logical -/

/-- Whether every argument counts as true. -/
def allTruthy (arguments : List Value) : Except CalcError Value :=
  .ok (.boolean (arguments.all Value.isTruthy))

/-- Whether any argument counts as true. -/
def anyTruthy (arguments : List Value) : Except CalcError Value :=
  .ok (.boolean (arguments.any Value.isTruthy))

/-- Whether the argument does not count as true. -/
def negate (arguments : List Value) : Except CalcError Value := do
  Function.require "NOT" (.exactly 1) arguments
  return .boolean (!(arguments.any Value.isTruthy))

/-- The second argument if the first one counts as true, and otherwise the third one. -/
def choose (arguments : List Value) : Except CalcError Value := do
  Function.require "IF" (.between 2 3) arguments
  if (Function.argument arguments 0).isTruthy then return Function.argument arguments 1
  else return Function.argument arguments 2

/-- The logical functions. -/
def logical : List Function :=
  [⟨"AND", .logical, "AND(...args)", "True when every argument is truthy", fun _ => allTruthy⟩,
   ⟨"OR", .logical, "OR(...args)", "True when any argument is truthy", fun _ => anyTruthy⟩,
   ⟨"NOT", .logical, "NOT(x)", "Negated truthiness", fun _ => negate⟩,
   ⟨"IF", .logical, "IF(cond, a, b)", "`a` when `cond` is truthy, else `b`", fun _ => choose⟩]

/-! ## Statistical -/

/-- The numbers of an argument: those of its elements, if it is an array, and else its own. -/
def numbersOf (argument : Value) : List Float :=
  match argument with
  | .node node =>
    if node.isArray then node.elements.map Value.toNumber else [argument.toNumber]
  | argument => [argument.toNumber]

/-- The numbers of all arguments. -/
def numbers (arguments : List Value) : List Float :=
  arguments.flatMap numbersOf

/-- The sum of some numbers from the left. The empty sum is the negative zero, to which every
number can be added without a change. -/
def sumOf (values : List Float) : Float :=
  values.foldl (· + ·) (-0.0)

/-- The sum, NaN counting as zero. -/
def sum (arguments : List Value) : Except CalcError Value :=
  .ok (.number (sumOf ((numbers arguments).map fun n => if n.isNaN then 0.0 else n)))

/-- The mean of the finite numbers, zero if there are none. -/
def average (arguments : List Value) : Except CalcError Value :=
  let values := (numbers arguments).filter Float.isFinite
  if values = [] then .ok (.number 0.0)
  else .ok (.number (sumOf values / Number.ofInt values.length))

/-- The numbers of all arguments that are not NaN. -/
def comparable (arguments : List Value) : List Float :=
  (numbers arguments).filter fun n => !n.isNaN

/-- The greatest number, negative infinity if there is none. -/
def greatest (arguments : List Value) : Except CalcError Value :=
  .ok (.number ((comparable arguments).foldl (fun m n => if m < n then n else m)
    (-Number.infinity)))

/-- The least number, infinity if there is none. -/
def least (arguments : List Value) : Except CalcError Value :=
  .ok (.number ((comparable arguments).foldl (fun m n => if n < m then n else m)
    Number.infinity))

/-- The statistical functions. -/
def statistical : List Function :=
  [⟨"SUM", .statistical, "SUM(...args)", "Sum; non-numeric arguments count as 0", fun _ => sum⟩,
   ⟨"AVERAGE", .statistical, "AVERAGE(...args)",
     "Mean of the numeric arguments, 0 when there are none", fun _ => average⟩,
   ⟨"MAX", .statistical, "MAX(...args)", "Largest numeric argument", fun _ => greatest⟩,
   ⟨"MIN", .statistical, "MIN(...args)", "Smallest numeric argument", fun _ => least⟩]

end SheetFormula.Library
