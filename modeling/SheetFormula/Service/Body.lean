import SheetFormula.Json.Skip

/-!
# Bodies of requests

A body is a JSON object with the fields of a request, or an array with their values in order. It is
read only as far as it goes well: the first thing that is not JSON, or not of the form of the
request, decides why it is refused. A field of an object must not be repeated, fields without a
meaning are skipped, and so is everything behind the body.

## Main definitions

* `SheetFormula.Service.FieldForm` — what the value of a field may be.
* `SheetFormula.Service.BodyFault` — why a body is refused.
* `SheetFormula.Service.readBody` — the fields in a body.
* `SheetFormula.Service.EvaluateBody`, `SheetFormula.Service.CheckBody` — the requests.
-/

set_option relaxedAutoImplicit false
set_option autoImplicit false

namespace SheetFormula.Service

open SheetFormula.Json (readString? readValue skipSpace skipValue?)

/-- What the value of a field may be. -/
inductive FieldForm where
  /-- Text, without which there is no request. -/
  | text
  /-- Any data. -/
  | data
  /-- An object or null. -/
  | fields
  deriving Repr, DecidableEq

/-- The fields of a request. -/
abbrev BodyShape := List (String × FieldForm)

/-- Why a body is refused. -/
inductive BodyFault where
  | notJson
  /-- It is JSON, at least up to the place where it differs from a request. -/
  | wrongForm
  deriving Repr, DecidableEq

/-! ## Values -/

/-- Whether a value has a form. -/
def FieldForm.accepts : FieldForm → Json → Bool
  | .text, .text _ => true
  | .data, _ => true
  | .fields, .null => true
  | .fields, .object _ => true
  | _, _ => false

/-- Whether a value that begins with a character is refused for its form at that character. -/
def FieldForm.refuses (form : FieldForm) (first : Char) : Bool :=
  match form with
  | .text => first == '[' || first == '\x7b'
  | .data => false
  | .fields => first == '['

/-- The arrays and objects that may nest inside the body. -/
def innerNesting : Nat :=
  Json.nestingLimit - 1

/-- The value of a field at the head of a text, and what follows it. -/
def readField (form : FieldForm) (text : List Char) : Except BodyFault (Json × List Char) :=
  if text.head?.any form.refuses then .error .wrongForm
  else
    match readValue (text.length + 1) innerNesting text with
    | none => .error .notJson
    | some (value, rest) =>
      if form.accepts value then .ok (value, rest) else .error .wrongForm

/-! ## Objects and arrays -/

/-- What follows a colon. -/
def skipColon? (text : List Char) : Option (List Char) :=
  match skipSpace text with
  | ':' :: rest => some (skipSpace rest)
  | _ => none

/-- The value under a name, empty if it has no meaning, and what follows it. The text begins behind
the name. -/
def readNamed (shape : BodyShape) (name : String) (text : List Char) :
    Except BodyFault (Json.Fields × List Char) :=
  match skipColon? text with
  | none => .error .notJson
  | some text =>
    match shape.lookup name with
    | some form => (readField form text).map fun read => ([(name, read.1)], read.2)
    | none =>
      match skipValue? text with
      | some rest => .ok ([], rest)
      | none => .error .notJson

/-- Goes on with an object whose fields so far are `read`. Every step takes at least one character,
so `fuel` need not exceed the length of the text by more than one. -/
def readObject (shape : BodyShape) (fuel : Nat) (read : Json.Fields) (text : List Char) :
    Except BodyFault Json.Fields :=
  match fuel, text with
  | fuel + 1, '"' :: text =>
    match readString? text with
    | none => .error .notJson
    | some (name, text) =>
      if (Json.Fields.get? read name).isSome then .error .wrongForm
      else
        match readNamed shape name text with
        | .error fault => .error fault
        | .ok (field, rest) =>
          match skipSpace rest with
          | '\x7d' :: _ => .ok (read ++ field)
          | ',' :: rest => readObject shape fuel (read ++ field) (skipSpace rest)
          | _ => .error .notJson
  | _, _ => .error .notJson

/-- The text at the next item of an array, empty if the array ends. -/
def nextItem (first : Bool) (text : List Char) : Except BodyFault (Option (List Char)) :=
  match skipSpace text with
  | [] => .error .notJson
  | c :: rest =>
    if c = ']' then .ok none
    else if first then .ok (some (c :: rest))
    else if c = ',' then
      match skipSpace rest with
      | [] => .error .notJson
      | c :: rest => if c = ']' then .error .notJson else .ok (some (c :: rest))
    else .error .notJson

/-- The fields of an array with one item for each of them. Those at its end may be left out, but
for the required one. -/
def readArray (first : Bool) (shape : BodyShape) (text : List Char) :
    Except BodyFault Json.Fields :=
  match shape with
  | [] => if (skipSpace text).head? = some ']' then .ok [] else .error .notJson
  | (name, form) :: shape => do
    match ← nextItem first text with
    | none => if form = .text then .error .wrongForm else .ok []
    | some text =>
      let (value, rest) ← readField form text
      return (name, value) :: (← readArray false shape rest)

/-- The fields in a body. -/
def readBody (shape : BodyShape) (body : String) : Except BodyFault Json.Fields :=
  match skipSpace body.toList with
  | '\x7b' :: rest =>
    match skipSpace rest with
    | '\x7d' :: _ => .ok []
    | text => readObject shape (text.length + 1) [] text
  | '[' :: rest => readArray true shape rest
  | text => (readField .text text).map fun _ => []

/-! ## Requests -/

/-- The field of a request that is text. -/
def requiredText (fields : Json.Fields) (name : String) : Except BodyFault String :=
  match fields.get? name with
  | some (.text text) => .ok text
  | _ => .error .wrongForm

/-- The field of a request that is not null. -/
def optionalData (fields : Json.Fields) (name : String) : Option Json :=
  match fields.get? name with
  | some .null => none
  | data => data

/-- A request to evaluate a formula. -/
structure EvaluateBody where
  expression : String
  /-- The data of all evaluations. -/
  context : Option Json := none
  /-- The data of this evaluation. -/
  localData : Option Json := none
  named : Option Json.Fields := none
  deriving Repr

/-- The request to evaluate a formula in a body. -/
def EvaluateBody.read (body : String) : Except BodyFault EvaluateBody := do
  let fields ← readBody
    [("expression", .text), ("context", .data), ("local", .data), ("args", .fields)] body
  return {
    expression := ← requiredText fields "expression"
    context := optionalData fields "context"
    localData := optionalData fields "local"
    named := (optionalData fields "args").bind Json.fields? }

/-- A request to check a formula. -/
structure CheckBody where
  expression : String
  deriving Repr, DecidableEq

/-- The request to check a formula in a body. -/
def CheckBody.read (body : String) : Except BodyFault CheckBody := do
  return { expression := ← requiredText (← readBody [("expression", .text)] body) "expression" }

end SheetFormula.Service
