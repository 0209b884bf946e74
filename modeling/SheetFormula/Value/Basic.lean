import SheetFormula.Amount.Reader
import SheetFormula.Calendar.Timestamp
import SheetFormula.Json.Writer
import SheetFormula.Moment.Basic

/-!
# Values of formulas

A formula computes with scalars and with nodes. A node is an object or array of the data; its
parts are turned into values when they are read, and text among them is read as an amount where
that is possible. Two nodes are the same if they stand at the same place of the data.

## Main definitions

* `SheetFormula.Value`, `SheetFormula.Node` — values, and compound data among them.
* `SheetFormula.Value.number?`, `SheetFormula.Value.toNumber` — the strict and the loose numeric
  reading of a value.
* `SheetFormula.Value.toText`, `SheetFormula.Value.isTruthy` — a value as text and as a condition.
* `SheetFormula.Node.get`, `SheetFormula.Node.index`, `SheetFormula.Node.elements` — the parts of
  a node.
* `SheetFormula.Value.ofJson` — the value of data.
-/

set_option relaxedAutoImplicit false
set_option autoImplicit false

namespace SheetFormula

open SheetFormula.Calendar (Timestamp)
open SheetFormula.Number (Layout)

/-- One step from compound data to a part of it. -/
inductive Step where
  | field (name : String)
  | item (position : Nat)
  deriving Repr, DecidableEq

/-- A place in the data: the name it starts from, and the steps from there, the last one
first. -/
structure Place where
  name : String
  steps : List Step
  deriving Repr, DecidableEq

/-- The place one step further. -/
def Place.enter (place : Place) (step : Step) : Place :=
  { place with steps := step :: place.steps }

/-- An object or array of the data, where it stands, and how amounts in it are written. -/
structure Node where
  data : Json
  place : Place
  format : NumberFormat
  deriving Repr

/-- The values of formulas. -/
inductive Value where
  | number (value : Float)
  | text (value : String)
  | boolean (value : Bool)
  /-- An instant, which date functions see in the zone they are given. -/
  | date (instant : Timestamp)
  | null
  | undefined
  | node (node : Node)
  /-- A function of the library that is not called. -/
  | function (name : String)
  deriving Repr

/-- Whether a node is an array. -/
def Node.isArray (node : Node) : Bool :=
  match node.data with
  | .array _ => true
  | _ => false

namespace Value

/-! ## Readings of a value -/

/-- The number that a text is without regard to local notation: a numeral or an infinity. -/
def plainNumber? (text : String) : Option Float :=
  let trimmed := Text.trim text.toList
  if trimmed = "Infinity".toList ∨ trimmed = "+Infinity".toList then some Number.infinity
  else if trimmed = "-Infinity".toList then some (-Number.infinity)
  else Number.readNumeral? trimmed

/-- The number that an operator takes a value for. There is none for text that is no number, and
for what is not a scalar. -/
def number? : Value → Option Float
  | .number value => some value
  | .text value => plainNumber? value
  | .boolean value => some (if value then 1.0 else 0.0)
  | .date instant => some (Number.ofInt instant.millis)
  | .null => some 0.0
  | _ => none

/-- The number that a function takes a value for. Blank text is zero, and what has no other
reading is NaN. -/
def toNumber (value : Value) : Float :=
  match value with
  | .text content =>
    if Text.trim content.toList = [] then 0.0 else (plainNumber? content).getD Number.nan
  | other => other.number?.getD Number.nan

/-- A value as text. -/
def toText : Value → String
  | .number value => Layout.display.write value
  | .text value => value
  | .boolean value => if value then "true" else "false"
  | .date instant => Moment.toIso ⟨instant, .utc, .dateTime⟩
  | .null => "null"
  | .undefined => "undefined"
  | .node part => part.data.write
  | .function name => "[function " ++ name ++ "]"

/-- Whether a value counts as true. Zero, NaN, empty text, false, null and undefined do not. -/
def isTruthy : Value → Bool
  | .number value => value != 0.0 && !value.isNaN
  | .text value => value != ""
  | .boolean value => value
  | .null => false
  | .undefined => false
  | _ => true

/-- Whether a value is null or undefined. -/
def isNullish : Value → Bool
  | .null => true
  | .undefined => true
  | _ => false

/-- The name of the kind of a value. -/
def typeName : Value → String
  | .number _ => "number"
  | .text _ => "text"
  | .boolean _ => "boolean"
  | .date _ => "date"
  | .null => "null"
  | .undefined => "undefined"
  | .node part => if part.isArray then "array" else "object"
  | .function _ => "function"

/-! ## From data to values -/

/-- Text that is an amount becomes a number; all else stays as it is. -/
def coerce (format : NumberFormat) (value : Value) : Value :=
  match value with
  | .text content =>
    match Amount.read? format content with
    | some amount => .number amount
    | none => .text content
  | other => other

/-- The double of a whole number or double of the data. -/
def ofJson (format : NumberFormat) (place : Place) (data : Json) : Value :=
  match data with
  | .null => .null
  | .boolean value => .boolean value
  | .integer value => .number (Number.ofInt value)
  | .double value => .number value
  | .text value => coerce format (.text value)
  | .array items => .node ⟨.array items, place, format⟩
  | .object fields => .node ⟨.object fields, place, format⟩

end Value

/-! ## The parts of a node -/

namespace Node

/-- The value of a part of a node, undefined if the part does not exist. -/
def part (node : Node) (step : Step) (data : Option Json) : Value :=
  match data with
  | some data => Value.ofJson node.format (node.place.enter step) data
  | none => .undefined

/-- The position that a text names: digits, possibly with a plus sign before them. -/
def position? (text : String) : Option Nat :=
  let digits := match text.toList with
    | '+' :: rest => rest
    | other => other
  if digits ≠ [] ∧ digits.all Char.isDigit then some (Number.digitsValue digits) else none

/-- The property of a node: a field of an object; the length or an item of an array. -/
def get (node : Node) (key : String) : Value :=
  match node.data with
  | .object fields => node.part (.field key) (Json.Fields.get? fields key)
  | .array items =>
    if key = "length" then .number (Number.ofInt items.length)
    else
      match position? key with
      | some position => node.part (.item position) items[position]?
      | none => .undefined
  | _ => .undefined

/-- The item of an array at a number, if that is a whole number and not negative. -/
def item (node : Node) (items : List Json) (position : Float) : Value :=
  match Number.whole? position with
  | some position =>
    if 0 ≤ position then node.part (.item position.toNat) items[position.toNat]? else .undefined
  | none => .undefined

/-- The part of a node that an evaluated key names. A number is a position in an array; any other
key names a property by its text. -/
def index (node : Node) (key : Value) : Value :=
  match node.data, key with
  | .array items, .number position => node.item items position
  | _, key => node.get key.toText

/-- The values of some items, the first one at a given position. -/
def elementsFrom (node : Node) (position : Nat) : List Json → List Value
  | [] => []
  | item :: rest =>
    node.part (.item position) (some item) :: node.elementsFrom (position + 1) rest

/-- The values of the items of an array; an object has none. -/
def elements (node : Node) : List Value :=
  match node.data with
  | .array items => node.elementsFrom 0 items
  | _ => []

end Node

/-! ## Equality of values -/

/-- Whether two values are equal. Values of different kinds are not, except that null and
undefined are. -/
def Value.equals (left right : Value) : Bool :=
  match left, right with
  | .number left, .number right => left == right
  | .text left, .text right => left == right
  | .boolean left, .boolean right => left == right
  | .date left, .date right => decide (left = right)
  | .node left, .node right => decide (left.place = right.place)
  | .function left, .function right => left == right
  | left, right => left.isNullish && right.isNullish

end SheetFormula
