import SheetFormula.Library.Standard

/-!
# Names in formulas

A name is looked up in several sources, the first one that has it deciding: the instants given by
the caller, the layers of data, the name `undefined`, and the library. A name that is called is
looked up in the library only.

## Main definitions

* `SheetFormula.Sources` — what a caller gives to an evaluation.
* `SheetFormula.Scope` — the names of an evaluation.
* `SheetFormula.Scope.lookup` — the value of a name.
-/

set_option relaxedAutoImplicit false
set_option autoImplicit false

namespace SheetFormula

/-- What a caller gives to an evaluation: data for all evaluations, data for this one, named
arguments, and instants. -/
structure Sources where
  rootData : Option Json := none
  localData : Option Json := none
  named : Json.Fields := []
  instants : List (String × Calendar.Timestamp) := []
  deriving Repr

/-- The names of an evaluation. -/
structure Scope where
  instants : List (String × Calendar.Timestamp)
  /-- The data, in the order in which names are looked up. -/
  layers : List Json.Fields
  format : NumberFormat
  deriving Repr

namespace Scope

/-- The fields of data that is an object; other data has no names. -/
def layerOf (data : Option Json) : List Json.Fields :=
  (data.bind Json.fields?).toList

/-- The names of the given sources: arguments come before the data of the evaluation, and that
before the data of all evaluations. -/
def ofSources (format : NumberFormat) (sources : Sources) : Scope :=
  { instants := sources.instants
    layers := sources.named :: layerOf sources.localData ++ layerOf sources.rootData
    format := format }

/-- The data that the layers have for a name. -/
def data? (scope : Scope) (name : String) : Option Json :=
  scope.layers.findSome? fun layer => Json.Fields.get? layer name

/-- The value of a name. -/
def lookup (scope : Scope) (name : String) : Option Value :=
  match scope.instants.lookup name with
  | some instant => some (.date instant)
  | none =>
    match scope.data? name with
    | some data => some (Value.ofJson scope.format ⟨name, []⟩ data)
    | none =>
      if name = "undefined" then some .undefined
      else (Library.find? name).map fun function => .function function.name

end Scope

end SheetFormula
