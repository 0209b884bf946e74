import SheetFormula.Calculator
import SheetFormula.CommandLine.Command
import SheetFormula.CommandLine.Inputs
import SheetFormula.Configuration.Reader
import SheetFormula.Json.Writer
import SheetFormula.Release

/-!
# Running commands

A command is a function from the files it may read and its surroundings to what it shows and to its
exit code: 0 if all went well, 1 if the command failed, 2 if the command line has no meaning, and
101 if the program stopped.

## Main definitions

* `SheetFormula.CommandLine.Outcome` — the end of a command.
* `SheetFormula.CommandLine.prepare` — the calculator and the data of an evaluation.
* `SheetFormula.CommandLine.run` — the outcome of a command.
* `SheetFormula.CommandLine.runWords` — the outcome of a command line.
-/

set_option relaxedAutoImplicit false
set_option autoImplicit false

namespace SheetFormula.CommandLine

/-- What a command shows, and how it ends. -/
structure Outcome where
  code : UInt8 := 0
  /-- The lines for the standard output. -/
  output : List String := []
  /-- The lines for the standard error. -/
  complaints : List String := []
  deriving Repr, DecidableEq

/-- Some lines, each with its line break. -/
def linesText (lines : List String) : String :=
  String.join (lines.map (· ++ "\n"))

/-- The outcome of a command that failed. -/
def Outcome.failed (error : CalcError) (output : List String := [])
    (complaints : List String := []) : Outcome :=
  { code := 1, output, complaints := complaints ++ [error.report] }

/-- The outcome of a command in which the program stopped. -/
def Outcome.stopped (complaints : List String) : Outcome :=
  { code := 101, complaints := complaints ++ [Moment.stopText] }

/-! ## Evaluating -/

/-- The configuration of an evaluation. An option for the zone comes before the zone of the
file. -/
def configurationOf (files : Files) (options : EvaluateOptions) :
    Except CalcError Configuration := do
  let configuration ← match options.configuration with
    | some name => Configuration.read (← loadText files name)
    | none => .ok .standard
  match options.timezone with
  | some timezone => return { configuration with timezone }
  | none => return configuration

/-- The data of an optional file. -/
def loadOptional (files : Files) : Option String → Except CalcError (Option Json)
  | some name => (loadData files name).map some
  | none => .ok none

/-- The named arguments of an evaluation. The stand-in for a failed evaluation is one of them. -/
def argumentsOf (options : EvaluateOptions) : Except CalcError Json.Fields := do
  let named ← readArguments options.arguments
  match options.standIn with
  | some text => return named.insert Calculator.defaultName (.text text)
  | none => return named

/-- The calculator and the data of an evaluation. -/
def prepare (zones : ZoneDatabase) (files : Files) (options : EvaluateOptions) :
    Except CalcError (Calculator × Sources) := do
  let calculator ← Calculator.ofConfigurationIn zones (← configurationOf files options)
  let rootData ← loadOptional files options.context
  let localData ← loadOptional files options.localData
  let named ← argumentsOf options
  return (calculator, { rootData, localData, named })

/-- The inputs of an evaluation as they are shown before it. -/
def inputLines (options : EvaluateOptions) (calculator : Calculator) (named : Json.Fields) :
    List String :=
  let format := calculator.configuration.numberFormat
  ["🧮 Evaluating formula", "   Expression: " ++ options.expression] ++
    options.context.toList.map ("   Context:    " ++ ·) ++
    options.localData.toList.map ("   Local:      " ++ ·) ++
    named.map (fun field => "   Arg:        " ++ field.1 ++ " = " ++ field.2.write) ++
    [s!"   Format:     decimal '{format.decimal}', thousands '{format.thousands}'",
      "   Timezone:   " ++ calculator.zone.name, ""]

/-- A result as it is shown. -/
def resultText (json : Bool) (result : Scalar) : String :=
  if json then (Json.object [("result", result.toJson)]).write else result.display

/-- The outcome of an evaluation. -/
def runEvaluate (files : Files) (surroundings : Surroundings) (options : EvaluateOptions) :
    Outcome :=
  match prepare surroundings.zones files options with
  | .error error => .failed error
  | .ok (calculator, sources) =>
    let complaints := if options.verbose then inputLines options calculator sources.named else []
    match calculator.evaluate surroundings options.expression sources with
    | .ok result => { output := [resultText options.json result], complaints }
    | .error error => if error.stops then .stopped complaints else .failed error [] complaints

/-! ## Checking -/

/-- Whether a formula has an expression, and what is shown about it. -/
def checkOne (expression : String) : Bool × List String :=
  match compileFormula expression with
  | .ok _ => (true, ["✅ " ++ expression])
  | .error error => (false, ["❌ " ++ expression, "   " ++ error.message])

/-- The outcome of checking formulas. -/
def runCheck (expressions : List String) : Outcome :=
  let checks := expressions.map checkOne
  let output := checks.flatMap Prod.snd
  let failures := checks.countP fun check => !check.1
  if failures = 0 then { output }
  else .failed (.parse (.checked failures expressions.length)) output

/-! ## Listing functions -/

/-- A function in the list: what stands before the summary is at least so wide. -/
def functionLine (function : Function) : String :=
  let width := 36
  "      " ++ function.signature ++
    String.ofList (List.replicate (width - function.signature.length) ' ') ++ " " ++
    function.summary

/-- The functions of a category. -/
def categoryLines (category : Category) : List String :=
  ["", "   " ++ category.name.toUpper] ++
    (Library.standard.filter fun function => function.category == category).map functionLine

/-- All functions. -/
def functionLines : List String :=
  s!"📚 Function library ({Library.standard.length} functions)" ::
    [Category.arithmetic, .logical, .statistical, .date].flatMap categoryLines

/-! ## Commands -/

/-- The commands and options. -/
def helpLines : List String :=
  ["Evaluate spreadsheet-style formulas against JSON/YAML data", "",
    "calc eval EXPRESSION      Evaluate an expression and print the result",
    "  -c, --context FILE      Root context file (JSON, or YAML by its name)",
    "  -l, --local FILE        Local context file, overrides the root context",
    "  -a, --arg KEY=VALUE     Named argument",
    "  -d, --default TEXT      Result to print when evaluation fails",
    "  -t, --timezone ZONE     Default timezone for date functions",
    "      --config FILE       YAML configuration file",
    "      --json              Print the result as JSON",
    "  -v, --verbose           Show inputs before evaluating",
    "calc check EXPRESSION...  Parse expressions and report syntax errors",
    "calc functions            List available functions"]

/-- The outcome of a command. -/
def run (files : Files) (surroundings : Surroundings) : Command → Outcome
  | .evaluate options => runEvaluate files surroundings options
  | .check expressions => runCheck expressions
  | .functions => { output := functionLines }
  | .help => { output := helpLines }
  | .version => { output := ["calc " ++ release] }

/-- The outcome of a command line that has no meaning. -/
def rejected : Outcome :=
  { code := 2, complaints := helpLines }

/-- The outcome of a command line. -/
def runWords (environment : Environment) (files : Files) (surroundings : Surroundings)
    (words : List String) : Outcome :=
  match Command.read? environment words with
  | some command => run files surroundings command
  | none => rejected

end SheetFormula.CommandLine
