import SheetFormula.Error
import SheetFormula.Value.Basic
import SheetFormula.Zone.Reader

/-!
# Functions of the library

A function takes any number of evaluated arguments. What it needs besides them comes from the
context of the evaluation.

## Main definitions

* `SheetFormula.Context` — the clock, the zones and the chance of an evaluation.
* `SheetFormula.Category`, `SheetFormula.Function` — the functions and their description.
* `SheetFormula.Function.require` — the check of the number of arguments.
-/

set_option relaxedAutoImplicit false
set_option autoImplicit false

namespace SheetFormula

/-- What functions may need besides their arguments. -/
structure Context where
  /-- The current instant. -/
  now : Calendar.Timestamp
  /-- The zone of date functions that are given none. -/
  zone : Zone
  /-- The random number of this evaluation, at least zero and less than one. -/
  chance : Float
  /-- The zones that have a name. -/
  zones : ZoneDatabase

/-- The parts of the library. -/
inductive Category where
  | arithmetic
  | logical
  | statistical
  | date
  deriving Repr, DecidableEq

/-- The name of a part of the library. -/
def Category.name : Category → String
  | .arithmetic => "arithmetic"
  | .logical => "logical"
  | .statistical => "statistical"
  | .date => "date"

/-- A function of the library. -/
structure Function where
  name : String
  category : Category
  /-- How the function is called. -/
  signature : String
  /-- What the function does. -/
  summary : String
  run : Context → List Value → Except CalcError Value

/-- Whether a number of arguments is right. -/
def Arity.accepts (arity : Arity) (count : Nat) : Bool :=
  match arity with
  | .exactly expected => count == expected
  | .between least most => decide (least ≤ count) && decide (count ≤ most)

/-- Fails if a function is given a wrong number of arguments. -/
def Function.require (function : String) (arity : Arity) (arguments : List Value) :
    Except CalcError Unit :=
  if arity.accepts arguments.length then .ok ()
  else .error (.eval (.arity function arity arguments.length))

/-- The argument at a position, undefined if there is none. -/
def Function.argument (arguments : List Value) (position : Nat) : Value :=
  arguments[position]?.getD .undefined

end SheetFormula
