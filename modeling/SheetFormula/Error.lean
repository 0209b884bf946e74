import SheetFormula.Amount.Format
import SheetFormula.Formula.Compile
import SheetFormula.Moment.Arithmetic

/-!
# Errors

All that can go wrong, by its cause, and the wording of each cause.

## Main definitions

* `SheetFormula.EvalFault` — faults of operators and functions.
* `SheetFormula.CalcError` — all errors.
* `SheetFormula.CalcError.message` — the wording of an error.
* `SheetFormula.CalcError.stops` — the errors that stop the program.
-/

set_option relaxedAutoImplicit false
set_option autoImplicit false

namespace SheetFormula

open SheetFormula.Formula (Operator SyntaxFailure)

/-- The operand that an operator cannot use. -/
inductive Side where
  | left
  | right
  | unary
  deriving Repr, DecidableEq

/-- The wording of a side. -/
def Side.title : Side → String
  | .left => "Left"
  | .right => "Right"
  | .unary => "Unary"

/-- The number of arguments that a function takes. -/
inductive Arity where
  | exactly (count : Nat)
  | between (least most : Nat)
  deriving Repr, DecidableEq

/-- Faults of operators and functions. -/
inductive EvalFault where
  /-- A name that is called is no function. -/
  | notFunction (name : String)
  /-- An operand is no number; it is given by its kind and text. -/
  | operand (side : Side) (op : Operator) (kind text : String)
  /-- An operator stands between operands that cannot join any. -/
  | unknownOperator (op : Operator)
  /-- An operator stands before an operand that cannot stand before one. -/
  | unknownUnaryOperator (op : Operator)
  /-- A function is given another number of arguments than it takes. -/
  | arity (function : String) (arity : Arity) (count : Nat)
  /-- The amount to be added to a date is no number. -/
  | dateAmount (text : String)
  /-- A number format is not valid. -/
  | numberFormat (fault : NumberFormat.Fault)
  deriving Repr

/-- The wording of a fault. -/
def EvalFault.message : EvalFault → String
  | .notFunction name => name ++ " is not a function"
  | .operand side op kind text =>
    side.title ++ " operand of '" ++ op.text ++ "' must be a number, got " ++ kind ++ " '" ++ text
      ++ "'"
  | .unknownOperator op => "Unknown operator: " ++ op.text
  | .unknownUnaryOperator op => "Unknown unary operator: " ++ op.text
  | .arity function (.exactly expected) count =>
    s!"{function} requires {expected} argument(s), got {count}"
  | .arity function (.between least most) count =>
    s!"{function} requires {least}-{most} arguments, got {count}"
  | .dateAmount text => "DATEADD amount must be a number, got '" ++ text ++ "'"
  | .numberFormat fault => fault.message

/-- Causes of failing to read what is written. -/
inductive ParseError where
  /-- A formula has no expression. -/
  | formula (failure : SyntaxFailure)
  /-- A named argument has no name. -/
  | argument (text : String)
  /-- Some of the formulas that were checked have no expression. -/
  | checked (failures total : Nat)
  deriving Repr

/-- The wording of a cause. -/
def ParseError.message : ParseError → String
  | .formula failure => failure.message
  | .argument text => "invalid argument '" ++ text ++ "': expected KEY=VALUE"
  | .checked failures total => s!"{failures} of {total} expression(s) failed to parse"

/-- Why there is no date. -/
inductive DateError where
  /-- A function is given a value that is no date. -/
  | unreadable (function text : String)
  /-- A date cannot be stepped. -/
  | step (fault : Moment.StepFault)
  /-- The wall clock of a date lies outside the range of dates, so that nothing can be read off it,
  and the program stops. -/
  | offCalendar
  deriving Repr

/-- The wording of a cause. -/
def DateError.message : DateError → String
  | .unreadable function text => function ++ " cannot read '" ++ text ++ "' as a date"
  | .step fault => fault.message
  | .offCalendar => Moment.stopText

/-- All errors. -/
inductive CalcError where
  /-- A file cannot be read. -/
  | file (name : String)
  /-- A text is not YAML, or not of the form that is asked for. -/
  | yaml
  /-- A text is not JSON. -/
  | json
  | parse (error : ParseError)
  /-- A name has no value. -/
  | undefinedVariable (name : String)
  | invalidDate (error : DateError)
  | invalidUnit (text : String)
  | invalidTimezone (text : String)
  | eval (fault : EvalFault)
  deriving Repr

/-- The names of all units. -/
def unitNames : String :=
  String.intercalate ", " (DateUnit.all.map DateUnit.name)

/-- The wording of an error. -/
def CalcError.message : CalcError → String
  | .file name => "IO error: cannot read " ++ name
  | .yaml => "YAML parsing error: not the expected YAML"
  | .json => "JSON parsing error: not JSON"
  | .parse error => "Parse error: " ++ error.message
  | .undefinedVariable name => "undefined variable: " ++ name
  | .invalidDate error => "Invalid date: " ++ error.message
  | .invalidUnit text => "Invalid date unit: " ++ text ++ ". Valid units are: " ++ unitNames
  | .invalidTimezone text => "Invalid timezone: " ++ text
  | .eval fault => "Formula evaluation error: " ++ fault.message

/-- Whether an error stops the program. Such an error is not reported, and nothing stands in for the
result. -/
def CalcError.stops : CalcError → Bool
  | .invalidDate (.step .offCalendar) => true
  | .invalidDate .offCalendar => true
  | _ => false

/-- The wording of an error that an evaluation ends with. -/
def CalcError.report (error : CalcError) : String :=
  "calc: " ++ error.message

end SheetFormula
