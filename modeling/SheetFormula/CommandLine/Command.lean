import SheetFormula.CommandLine.Options

/-!
# Commands

The first word of a command line names the command: to evaluate a formula, to check formulas, or to
list the functions. An option that may be given once must not be given twice, and a file must have
a name. The zone and the configuration may also come from the environment, if there is no option
for them.

## Main definitions

* `SheetFormula.CommandLine.EvaluateOptions` — a formula and what it is evaluated with.
* `SheetFormula.CommandLine.Command` — the commands.
* `SheetFormula.CommandLine.Command.read?` — the command of a command line.
-/

set_option relaxedAutoImplicit false
set_option autoImplicit false

namespace SheetFormula.CommandLine

/-- The variables of the environment. -/
abbrev Environment := String → Option String

/-- A formula and what it is evaluated with. -/
structure EvaluateOptions where
  expression : String
  /-- The file with data for all evaluations. -/
  context : Option String := none
  /-- The file with data for this evaluation. -/
  localData : Option String := none
  arguments : List String := []
  /-- The result if the evaluation fails. -/
  standIn : Option String := none
  timezone : Option String := none
  /-- The file with the configuration. -/
  configuration : Option String := none
  json : Bool := false
  verbose : Bool := false
  deriving Repr, DecidableEq

/-- The commands. -/
inductive Command where
  | evaluate (options : EvaluateOptions)
  | check (expressions : List String)
  | functions
  | help
  | version
  deriving Repr, DecidableEq

/-! ## Items of a command -/

/-- The words that are no options. -/
def plainWords (items : List Item) : List String :=
  items.filterMap fun item =>
    match item with
    | .plain text => some text
    | .option _ _ => none

/-- The values of an option. -/
def valuesOf (switch : Switch) (items : List Item) : List String :=
  items.filterMap fun item =>
    match item with
    | .option other value => if other = switch then some value else none
    | .plain _ => none

/-- Whether an option is among the items. -/
def isGiven (switch : Switch) (items : List Item) : Bool :=
  !(valuesOf switch items).isEmpty

/-- Whether the values of an option are allowed. -/
def isFit (items : List Item) (switch : Switch) : Bool :=
  let values := valuesOf switch items
  (switch.repeats || decide (values.length ≤ 1)) && !(switch.namesFile && values.contains "")

/-- The items of a command with a number of plain words at most and some options besides `help`. -/
def readCommandItems (most : Option Nat) (accepted : List Switch) (words : List String) :
    Option (List Item) := do
  let items ← readItems (.help :: accepted) words
  if (most.all fun most => decide ((plainWords items).length ≤ most)) && accepted.all (isFit items)
  then return items
  else none

/-! ## Commands -/

/-- The options of an evaluation. -/
def evaluateSwitches : List Switch :=
  [.context, .localData, .argument, .standIn, .timezone, .configuration, .json, .verbose]

/-- The variable of the environment with the zone. -/
def timezoneVariable : String := "CALC_TIMEZONE"

/-- The variable of the environment with the name of the configuration file. -/
def configurationVariable : String := "CALC_CONFIG"

/-- The command to evaluate the formula among some words. -/
def readEvaluate? (environment : Environment) (words : List String) : Option Command := do
  let items ← readCommandItems (some 1) evaluateSwitches words
  if isGiven .help items then return .help
  else
    let expression ← (plainWords items).head?
    let configuration :=
      (valuesOf .configuration items).head?.or (environment configurationVariable)
    if configuration = some "" then none
    else
      return .evaluate
        { expression, configuration
          context := (valuesOf .context items).head?
          localData := (valuesOf .localData items).head?
          arguments := valuesOf .argument items
          standIn := (valuesOf .standIn items).head?
          timezone := (valuesOf .timezone items).head?.or (environment timezoneVariable)
          json := isGiven .json items
          verbose := isGiven .verbose items }

/-- The command to check the formulas among some words, of which there must be one. -/
def readCheck? (words : List String) : Option Command := do
  let items ← readCommandItems none [] words
  if isGiven .help items then return .help
  else if plainWords items = [] then none
  else return .check (plainWords items)

/-- The command to list the functions, which takes no words. -/
def readFunctions? (words : List String) : Option Command := do
  let items ← readCommandItems (some 0) [] words
  return if isGiven .help items then .help else .functions

/-- The command for help with a command, or with all of them. -/
def readHelp? : List String → Option Command
  | [] => some .help
  | [topic] => if topic ∈ ["eval", "check", "functions", "help"] then some .help else none
  | _ => none

/-- The command of an option that stands where the name of a command does. -/
def readOption? (word : Word) : Option Command :=
  match readWord [.help, .version] word with
  | some (.option .help _ :: _, _) => some .help
  | some (.option .version _ :: _, _) => some .version
  | _ => none

/-- The command of a command line. -/
def Command.read? (environment : Environment) : List String → Option Command
  | [] => none
  | "eval" :: words => readEvaluate? environment words
  | "check" :: words => readCheck? words
  | "functions" :: words => readFunctions? words
  | "help" :: words => readHelp? words
  | word :: _ => readOption? (.ofText word)

/-- The files that a command reads, in the order in which it reads them. -/
def Command.files : Command → List String
  | .evaluate options =>
    options.configuration.toList ++ options.context.toList ++ options.localData.toList
  | _ => []

end SheetFormula.CommandLine
