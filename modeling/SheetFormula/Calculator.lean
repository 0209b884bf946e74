import SheetFormula.Configuration
import SheetFormula.Evaluation
import SheetFormula.Value.Scalar
import SheetFormula.Zone.Table

/-!
# The calculator

A calculator evaluates the text of a formula over the data it is given. An evaluation that fails
has the named argument `default` as its result, if there is one; otherwise a name without a value
makes the result empty, and any other failure is the result of the call. Where the program stops,
none of this happens.

## Main definitions

* `SheetFormula.Calculator` — a configured calculator.
* `SheetFormula.Calculator.evaluate` — the result of a formula.
-/

set_option relaxedAutoImplicit false
set_option autoImplicit false

namespace SheetFormula

open SheetFormula.Formula (Expr)

/-- A configured calculator. -/
structure Calculator where
  configuration : Configuration
  /-- The zone that the configuration names. -/
  zone : Zone
  deriving Repr

/-- What an evaluation finds in the world: the current instant, a random number, and the zones that
have a name. -/
structure Surroundings where
  now : Calendar.Timestamp
  chance : Float
  zones : ZoneDatabase := Zone.known

/-- The expression of a formula. -/
def compileFormula (text : String) : Except CalcError Expr :=
  (Formula.compile text).mapError fun failure => .parse (.formula failure)

namespace Calculator

/-- The calculator with the default configuration. -/
def standard : Calculator :=
  { configuration := .standard, zone := .utc }

/-- The calculator with a configuration, whose number format must be valid and whose zone must be
one of a database. -/
def ofConfigurationIn (zones : ZoneDatabase) (configuration : Configuration) :
    Except CalcError Calculator := do
  configuration.validate
  match Zone.ofTextIn? zones configuration.timezone with
  | some zone => return { configuration, zone }
  | none => .error (.invalidTimezone configuration.timezone)

/-- The calculator with a configuration whose zone is a known one. -/
def ofConfiguration (configuration : Configuration) : Except CalcError Calculator :=
  ofConfigurationIn Zone.known configuration

/-- The name of the argument that stands in for the result of a failed evaluation. -/
def defaultName : String := "default"

/-- The names of an evaluation. -/
def scope (calculator : Calculator) (sources : Sources) : Scope :=
  Scope.ofSources calculator.configuration.numberFormat sources

/-- The context of an evaluation. -/
def context (calculator : Calculator) (surroundings : Surroundings) : Context :=
  { now := surroundings.now
    zone := calculator.zone
    chance := surroundings.chance
    zones := surroundings.zones }

/-- The value of a formula, without any standing in. -/
def attempt (calculator : Calculator) (surroundings : Surroundings) (text : String)
    (sources : Sources) : Except CalcError Value := do
  let expr ← compileFormula text
  SheetFormula.evaluate (calculator.context surroundings) (calculator.scope sources) expr

/-- The result of a formula. Nothing stands in for it if the program stops. -/
def evaluate (calculator : Calculator) (surroundings : Surroundings) (text : String)
    (sources : Sources) : Except CalcError Scalar :=
  match calculator.attempt surroundings text sources with
  | .ok value => .ok (Scalar.ofValue value)
  | .error error =>
    if error.stops then .error error
    else
      match Json.Fields.get? sources.named defaultName, error with
      | some data, _ => .ok (Scalar.ofJson data)
      | none, .undefinedVariable _ => .ok (.text "")
      | none, error => .error error

end Calculator

end SheetFormula
