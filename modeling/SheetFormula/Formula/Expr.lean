import SheetFormula.Formula.Token

/-!
# Expressions

The tree of a formula.

## Main definitions

* `SheetFormula.Formula.Expr` — the expressions.
* `SheetFormula.Formula.Expr.depth` — the number of levels of a tree.
-/

set_option relaxedAutoImplicit false
set_option autoImplicit false

namespace SheetFormula.Formula

/-- The expressions. Which operators can join two operands and which can stand before one is a
matter of the grammar; the type leaves it open. -/
inductive Expr where
  | number (value : Float)
  | text (value : String)
  | boolean (value : Bool)
  /-- A name that is looked up where the formula is evaluated. -/
  | reference (name : String)
  /-- A property of an object: `object.property`. -/
  | member (object : Expr) (property : String)
  /-- A part of an object by an evaluated key: `object[key]`. -/
  | index (object key : Expr)
  /-- A named function and its arguments. -/
  | call (function : String) (arguments : List Expr)
  | binary (op : Operator) (left right : Expr)
  | unary (op : Operator) (operand : Expr)
  /-- One of two branches: `condition ? whenTrue : whenFalse`. -/
  | choice (condition whenTrue whenFalse : Expr)
  deriving Repr

mutual

/-- The number of levels of a tree; a leaf has one. -/
def Expr.depth : Expr → Nat
  | .number _ => 1
  | .text _ => 1
  | .boolean _ => 1
  | .reference _ => 1
  | .member object _ => object.depth + 1
  | .index object key => max object.depth key.depth + 1
  | .call _ arguments => depthOfAll arguments + 1
  | .binary _ left right => max left.depth right.depth + 1
  | .unary _ operand => operand.depth + 1
  | .choice condition whenTrue whenFalse =>
    max condition.depth (max whenTrue.depth whenFalse.depth) + 1

/-- The number of levels of the deepest of some trees; none have no level. -/
def depthOfAll : List Expr → Nat
  | [] => 0
  | expr :: rest => max expr.depth (depthOfAll rest)

end

end SheetFormula.Formula
