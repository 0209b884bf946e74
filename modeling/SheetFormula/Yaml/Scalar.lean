import SheetFormula.Json.Basic
import SheetFormula.Number.Numeral
import SheetFormula.Yaml.Character

/-!
# Data of scalars

A scalar without quotes is null, a truth value, a whole number, a double, or else text, by its
spelling. A tag of the standard says which of these a scalar is; then it must be spelled so.

## Main definitions

* `SheetFormula.Yaml.integer?`, `SheetFormula.Yaml.float?` — the numbers that texts are.
* `SheetFormula.Yaml.plainData?` — the data of a scalar without quotes.
* `SheetFormula.Yaml.scalarData?` — the data of any scalar.
-/

set_option relaxedAutoImplicit false
set_option autoImplicit false

namespace SheetFormula.Yaml

open SheetFormula.Number (readNumeral? takeSign)

/-! ## Null and truth values -/

/-- The words for null. -/
def nullWords : List String :=
  ["~", "null", "Null", "NULL"]

/-- The words for the truth values. -/
def truthWords : List (String × Bool) :=
  [("true", true), ("True", true), ("TRUE", true),
   ("false", false), ("False", false), ("FALSE", false)]

/-! ## Numbers -/

/-- Whether a text is digits behind a zero, which are no number. -/
def isPaddedDigits (text : List Char) : Bool :=
  match (takeSign text).2 with
  | '0' :: rest => !rest.isEmpty && rest.all Char.isDigit
  | _ => false

/-- The number that digits write, possibly behind the mark of a base. -/
def magnitude? : List Char → Option Nat
  | '0' :: 'x' :: digits => numberIn? 16 digits
  | '0' :: 'o' :: digits => numberIn? 8 digits
  | '0' :: 'b' :: digits => numberIn? 2 digits
  | digits => numberIn? 10 digits

/-- The whole number of at most 128 bits that a text is, with a sign for the numbers below zero. -/
def integer? (text : List Char) : Option Int := do
  let (negative, digits) := takeSign text
  let magnitude ← magnitude? digits
  if isPaddedDigits text then none
  else if negative then
    if magnitude ≤ Nat.pow 2 127 then return -magnitude else none
  else if magnitude < Nat.pow 2 128 then return magnitude
  else none

/-- The infinity or NaN that a text is. -/
def nonFinite? (text : String) : Option Float :=
  if text ∈ [".inf", ".Inf", ".INF", "+.inf", "+.Inf", "+.INF"] then some Number.infinity
  else if text ∈ ["-.inf", "-.Inf", "-.INF"] then some (-Number.infinity)
  else if text ∈ [".nan", ".NaN", ".NAN"] then some Number.nan
  else none

/-- The double that a text is. A numeral is none if it is beyond all doubles. -/
def float? (text : String) : Option Float :=
  (nonFinite? text).or ((readNumeral? text.toList).filter Float.isFinite)

/-! ## Data -/

/-- The data of a whole number, which must have at most 64 bits. -/
def integerData? (value : Int) : Option Json :=
  if -(Nat.pow 2 63 : Int) ≤ value ∧ value < (Nat.pow 2 64 : Int) then some (.integer value)
  else none

/-- The data of a double. Infinities and NaN have none but null. -/
def floatData (value : Float) : Json :=
  if value.isFinite then .double value else .null

/-- The data of a scalar without quotes. -/
def plainData? (text : String) : Option Json :=
  if text = "" ∨ text ∈ nullWords then some .null
  else
    match truthWords.lookup text, integer? text.toList with
    | some truth, _ => some (.boolean truth)
    | none, some value => integerData? value
    | none, none =>
      if isPaddedDigits text.toList then some (.text text)
      else some (((float? text).map floatData).getD (.text text))

/-- The data of a scalar with a tag. A tag that is not of the standard, but of the document, has
none. -/
def taggedData? (tag text : String) : Option Json :=
  if tag = "tag:yaml.org,2002:bool" then (truthWords.lookup text).map .boolean
  else if tag = "tag:yaml.org,2002:int" then (integer? text.toList).bind integerData?
  else if tag = "tag:yaml.org,2002:float" then (float? text).map floatData
  else if tag = "tag:yaml.org,2002:null" then if text ∈ nullWords then some .null else none
  else if tag.startsWith "!" then none
  else some (.text text)

/-- The data of a scalar. -/
def scalarData? (tag : Option String) (text : String) (plain : Bool) : Option Json :=
  match tag with
  | some tag => taggedData? tag text
  | none => if plain then plainData? text else some (.text text)

end SheetFormula.Yaml
