import SheetFormula.Configuration
import SheetFormula.Yaml.Reader

/-!
# Reading configurations

A configuration is written as a YAML mapping with the keys `number_format` and `timezone`. A key
that is left out has its default, and other keys do not matter. A number format always has both of
its marks.

## Main definitions

* `SheetFormula.NumberFormat.ofNode?` — the number format that a node describes.
* `SheetFormula.Configuration.ofDocument?` — the settings that a document describes.
* `SheetFormula.Configuration.read` — the settings that a text describes.
-/

set_option relaxedAutoImplicit false
set_option autoImplicit false

namespace SheetFormula

open SheetFormula.Yaml (Document Node)

/-- The setting of a name: at most one, or there is no result. -/
def settingNamed? (fields : List (String × Node Nat)) (name : String) :
    Option (Option (Node Nat)) :=
  match fields.filter fun field => field.1 == name with
  | [] => some none
  | [(_, value)] => some (some value)
  | _ => none

/-- The mark of a name, which is a scalar of one character. -/
def markNamed? (document : Document) (fields : List (String × Node Nat)) (name : String) :
    Option Char := do
  match (← document.text? (← (← settingNamed? fields name))).toList with
  | [mark] => some mark
  | _ => none

/-- The number format that a node describes. -/
def NumberFormat.ofNode? (document : Document) (node : Node Nat) : Option NumberFormat := do
  let fields ← document.fields? node
  let decimal ← markNamed? document fields "decimal"
  let thousands ← markNamed? document fields "thousands"
  return { decimal, thousands }

/-- The settings that a document describes. -/
def Configuration.ofDocument? (document : Document) : Option Configuration := do
  let fields ← document.fields? document.root
  let numberFormat ← match ← settingNamed? fields "number_format" with
    | some format => NumberFormat.ofNode? document format
    | none => some Configuration.standard.numberFormat
  let timezone ← match ← settingNamed? fields "timezone" with
    | some zone => document.text? zone
    | none => some Configuration.standard.timezone
  return { numberFormat, timezone }

/-- The settings that a text describes. A text without a document describes the default ones. The
number format must be valid; the zone is not looked up. -/
def Configuration.read (text : String) : Except CalcError Configuration := do
  let configuration ← match Yaml.read? text with
    | none => .error .yaml
    | some none => .ok .standard
    | some (some document) =>
      ((Configuration.ofDocument? document).map Except.ok).getD (.error .yaml)
  configuration.validate
  return configuration

end SheetFormula
