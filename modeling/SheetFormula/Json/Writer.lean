import SheetFormula.Json.Basic
import SheetFormula.Number.Layout

/-!
# Writing JSON

Compact text: no blanks, fields in the order in which the object keeps them.

## Main definitions

* `SheetFormula.Json.numberLayout` — how doubles are written.
* `SheetFormula.Json.quote` — a text as a JSON string.
* `SheetFormula.Json.write` — a value as compact JSON text.
-/

set_option relaxedAutoImplicit false
set_option autoImplicit false

namespace SheetFormula.Json

open SheetFormula.Number (Layout)

/-- Doubles always show that they are doubles, by a fraction or an exponent. JSON has no NaN and
no infinity, which is why `null` stands for them. -/
def numberLayout : Layout :=
  { lowest := -5, highest := 15, afterWhole := ".0", exponentSign := "+", signedZero := true,
    tie := .toEven, notANumber := "null", infinite := "null" }

/-- A double as JSON text. -/
def writeDouble (value : Float) : String :=
  if value.isFinite then numberLayout.write value else "null"

/-- A hexadecimal digit. -/
def hexDigit (n : Nat) : Char :=
  if n < 10 then Char.ofNat (48 + n) else Char.ofNat (87 + n)

/-- One character of a JSON string. -/
def escaped (c : Char) : List Char :=
  match c with
  | '"' => ['\\', '"']
  | '\\' => ['\\', '\\']
  | '\x08' => ['\\', 'b']
  | '\x0c' => ['\\', 'f']
  | '\n' => ['\\', 'n']
  | '\r' => ['\\', 'r']
  | '\t' => ['\\', 't']
  | c =>
    if c.toNat < 0x20 then
      ['\\', 'u', '0', '0', hexDigit (c.toNat / 16), hexDigit (c.toNat % 16)]
    else [c]

/-- A text as a JSON string. -/
def quote (text : String) : String :=
  String.ofList ('"' :: text.toList.flatMap escaped ++ ['"'])

mutual

/-- A value as compact JSON text. -/
def write : Json → String
  | .null => "null"
  | .boolean value => if value then "true" else "false"
  | .integer value => toString value
  | .double value => writeDouble value
  | .text value => quote value
  | .array items => "[" ++ writeItems items ++ "]"
  | .object fields => "\x7b" ++ writeFields fields ++ "\x7d"

/-- The items of an array, separated by commas. -/
def writeItems : List Json → String
  | [] => ""
  | [item] => write item
  | item :: rest => write item ++ "," ++ writeItems rest

/-- The fields of an object, separated by commas. -/
def writeFields : List (String × Json) → String
  | [] => ""
  | [(name, value)] => quote name ++ ":" ++ write value
  | (name, value) :: rest => quote name ++ ":" ++ write value ++ "," ++ writeFields rest

end

end SheetFormula.Json
