import SheetFormula.Formula.Expr
import SheetFormula.Scope

/-!
# Evaluation

An expression is evaluated by recursion on its tree. `and` and `or` evaluate their second operand
only if the first one does not decide; a conditional evaluates one of its branches; all other
operators and functions evaluate all their operands, from left to right.

## Main definitions

* `SheetFormula.applyBinary`, `SheetFormula.applyUnary` — the operators on values.
* `SheetFormula.evaluate` — the value of an expression.
-/

set_option relaxedAutoImplicit false
set_option autoImplicit false

namespace SheetFormula

open SheetFormula.Formula (Expr Operator)

/-! ## Operators -/

/-- The number of an operand. -/
def operand (side : Side) (op : Operator) (value : Value) : Except CalcError Float :=
  match value.number? with
  | some number => .ok number
  | none => .error (.eval (.operand side op value.typeName value.toText))

/-- An operator on numbers. -/
def onNumbers (op : Operator) (f : Float → Float → Float) (left right : Value) :
    Except CalcError Value := do
  let left ← operand .left op left
  let right ← operand .right op right
  return .number (f left right)

/-- A comparison: of two texts by their characters, and otherwise of numbers. -/
def compareBy (op : Operator) (texts : String → String → Bool) (numbers : Float → Float → Bool)
    (left right : Value) : Except CalcError Value :=
  match left, right with
  | .text left, .text right => .ok (.boolean (texts left right))
  | left, right => do
    let left ← operand .left op left
    let right ← operand .right op right
    return .boolean (numbers left right)

/-- Whether a value is text. -/
def Value.isText : Value → Bool
  | .text _ => true
  | _ => false

/-- The sum of numbers; with text on either side, the joined texts. -/
def add (left right : Value) : Except CalcError Value :=
  if left.isText || right.isText then .ok (.text (left.toText ++ right.toText))
  else onNumbers .plus (· + ·) left right

/-- An operator that needs both of its operands. -/
def applyBinary (op : Operator) (left right : Value) : Except CalcError Value :=
  match op with
  | .plus => add left right
  | .minus => onNumbers op (· - ·) left right
  | .times => onNumbers op (· * ·) left right
  | .divide => onNumbers op (· / ·) left right
  | .modulo => onNumbers op Number.remainder left right
  | .power => onNumbers op Float.pow left right
  | .equal => .ok (.boolean (left.equals right))
  | .same => .ok (.boolean (left.equals right))
  | .different => .ok (.boolean (!left.equals right))
  | .unequal => .ok (.boolean (!left.equals right))
  | .less => compareBy op (fun l r => decide (l < r)) (fun l r => decide (l < r)) left right
  | .greater => compareBy op (fun l r => decide (r < l)) (fun l r => decide (r < l)) left right
  | .atMost => compareBy op (fun l r => !decide (r < l)) (fun l r => decide (l ≤ r)) left right
  | .atLeast => compareBy op (fun l r => !decide (l < r)) (fun l r => decide (r ≤ l)) left right
  | .and => .error (.eval (.unknownOperator op))
  | .or => .error (.eval (.unknownOperator op))
  | .not => .error (.eval (.unknownOperator op))

/-- An operator before its operand. -/
def applyUnary (op : Operator) (value : Value) : Except CalcError Value :=
  match op with
  | .minus => do
    let number ← operand .unary op value
    return .number (-number)
  | .plus => .ok (.number value.toNumber)
  | .not => .ok (.boolean (!value.isTruthy))
  | op => .error (.eval (.unknownUnaryOperator op))

/-! ## Parts and calls -/

/-- The property of a value, undefined for all but nodes. -/
def Value.member (value : Value) (property : String) : Value :=
  match value with
  | .node object => object.get property
  | _ => .undefined

/-- The part of a value that a key names, undefined for all but nodes. -/
def Value.index (value key : Value) : Value :=
  match value with
  | .node object => object.index key
  | _ => .undefined

/-- The function that a called name stands for. A name that only data has is an error of its
own. -/
def callee (scope : Scope) (name : String) : Except CalcError Function :=
  match Library.find? name with
  | some function => .ok function
  | none =>
    match scope.lookup name with
    | some _ => .error (.eval (.notFunction name))
    | none => .error (.undefinedVariable name)

/-- The value of a name. -/
def resolve (scope : Scope) (name : String) : Except CalcError Value :=
  match scope.lookup name with
  | some value => .ok value
  | none => .error (.undefinedVariable name)

/-! ## Expressions -/

mutual

/-- The value of an expression. -/
def evaluate (context : Context) (scope : Scope) : Expr → Except CalcError Value
  | .number value => .ok (.number value)
  | .text value => .ok (.text value)
  | .boolean value => .ok (.boolean value)
  | .reference name => resolve scope name
  | .member object property => do
    let value ← evaluate context scope object
    return value.member property
  | .index object key => do
    let value ← evaluate context scope object
    let part ← evaluate context scope key
    return value.index part
  | .call name arguments => do
    let function ← callee scope name
    let values ← evaluateAll context scope arguments
    function.run context values
  | .binary .and left right => do
    let first ← evaluate context scope left
    if first.isTruthy then
      let second ← evaluate context scope right
      return .boolean second.isTruthy
    else return .boolean false
  | .binary .or left right => do
    let first ← evaluate context scope left
    if first.isTruthy then return .boolean true
    else
      let second ← evaluate context scope right
      return .boolean second.isTruthy
  | .binary op left right => do
    let first ← evaluate context scope left
    let second ← evaluate context scope right
    applyBinary op first second
  | .unary op operand => do
    let value ← evaluate context scope operand
    applyUnary op value
  | .choice condition whenTrue whenFalse => do
    let value ← evaluate context scope condition
    if value.isTruthy then evaluate context scope whenTrue
    else evaluate context scope whenFalse

/-- The values of some expressions, up to the first that has none. -/
def evaluateAll (context : Context) (scope : Scope) : List Expr → Except CalcError (List Value)
  | [] => .ok []
  | expr :: rest => do
    let value ← evaluate context scope expr
    let values ← evaluateAll context scope rest
    return value :: values

end

end SheetFormula
