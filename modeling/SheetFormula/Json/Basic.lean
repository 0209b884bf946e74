/-!
# JSON data

The data that formulas read. A number is a whole number of at most 64 bits or a double; the
fields of an object are kept in the order of their names, each name once.

## Main definitions

* `SheetFormula.Json` — JSON values.
* `SheetFormula.Json.Fields` — the fields of an object.
* `SheetFormula.Json.Fields.insert`, `get?`, `ofList` — adding, finding and collecting fields.
-/

set_option relaxedAutoImplicit false
set_option autoImplicit false

namespace SheetFormula

/-- JSON values. -/
inductive Json where
  | null
  | boolean (value : Bool)
  /-- A whole number between `-2 ^ 63` and `2 ^ 64 - 1`. -/
  | integer (value : Int)
  | double (value : Float)
  | text (value : String)
  | array (items : List Json)
  | object (fields : List (String × Json))
  deriving Repr, Inhabited

namespace Json

/-- The fields of an object, in the order of their names. -/
abbrev Fields := List (String × Json)

/-- The value of a field. -/
def Fields.get? (fields : Fields) (name : String) : Option Json :=
  List.lookup name fields

/-- Sets a field. A field of that name is replaced; a new one takes its place in the order. -/
def Fields.insert (fields : Fields) (name : String) (value : Json) : Fields :=
  match fields with
  | [] => [(name, value)]
  | (other, old) :: rest =>
    if name = other then (name, value) :: rest
    else if name < other then (name, value) :: (other, old) :: rest
    else (other, old) :: Fields.insert rest name value

/-- The fields given by a list in any order; of two with one name the later one counts. -/
def Fields.ofList (list : List (String × Json)) : Fields :=
  list.foldl (fun fields field => fields.insert field.1 field.2) []

/-- The fields of both objects; where both have a name, the field of the second one. -/
def Fields.union (first second : Fields) : Fields :=
  second.foldl (fun fields field => fields.insert field.1 field.2) first

/-- The fields of a value, if it is an object. -/
def fields? : Json → Option Fields
  | .object fields => some fields
  | _ => none

end Json

end SheetFormula
