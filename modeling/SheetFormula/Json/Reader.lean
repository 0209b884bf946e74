import SheetFormula.Json.Basic
import SheetFormula.Number.Numeral

/-!
# Reading JSON

The reader takes the grammar of JSON to the letter: no comments, no trailing commas, no leading
zeros, control characters in strings only as escapes, surrogates only in pairs. Arrays and
objects nest up to a limit, and a number that overflows the doubles is an error.

A number without point and exponent is a whole number if it has at most 64 bits. Any other number
is a double, read from as many of its leading digits as fit 64 bits: their value is scaled by a
power of ten in the arithmetic of doubles. That is exact for the numbers people write, and may be
off by a unit in the last place for longer ones.

## Main definitions

* `SheetFormula.Json.readNumber?` — a number at the head of a text.
* `SheetFormula.Json.readString?` — the rest of a string after its opening quote.
* `SheetFormula.Json.readHead?` — a value at the head of a text, and what follows it.
* `SheetFormula.Json.read?` — a value that takes up a whole text.
-/

set_option relaxedAutoImplicit false
set_option autoImplicit false

namespace SheetFormula.Json

open SheetFormula.Number (digitsValue takeSign)

/-- The characters that may stand between the parts of JSON text. -/
def isSpace (c : Char) : Bool :=
  c == ' ' || c == '\t' || c == '\n' || c == '\r'

/-- A text without the space at its head. -/
def skipSpace (text : List Char) : List Char :=
  text.dropWhile isSpace

/-! ## Numbers -/

/-- Goes on with a significand as long as it fits 64 bits: the significand and the digits that
were left. -/
def absorb (significand : Nat) : List Char → Nat × List Char
  | [] => (significand, [])
  | digit :: rest =>
    let longer := 10 * significand + (digit.toNat - 48)
    if longer < Nat.pow 2 64 then absorb longer rest else (significand, digit :: rest)

/-- A power of ten as a double. -/
def powerOfTen (n : Nat) : Float :=
  SheetFormula.Number.nearest false (Nat.pow 10 n) 1

/-- `significand · 10 ^ exponent` in the arithmetic of doubles; there is none beyond the greatest
double. -/
def scale? (significand : Nat) (exponent : Int) : Option Float :=
  let start := SheetFormula.Number.ofInt significand
  if exponent < -616 then some 0.0
  else if exponent < -308 then some (start / powerOfTen 308 / powerOfTen (-exponent - 308).toNat)
  else if exponent < 0 then some (start / powerOfTen (-exponent).toNat)
  else if significand = 0 then some 0.0
  else if 308 < exponent then none
  else
    let result := start * powerOfTen exponent.toNat
    if result.isInf then none else some result

/-- The double written by digits before and after a point and an exponent. -/
def double? (negative : Bool) (whole fraction : List Char) (exponent : Int) : Option Float :=
  let (leading, left) := absorb 0 whole
  let (significand, unread) := absorb leading fraction
  let read := fraction.length - unread.length
  (scale? significand (exponent + left.length - read)).map fun value =>
    if negative then -value else value

/-- The whole number written by some digits; a double if it has too many bits, and for zero with
a minus sign. -/
def whole? (negative : Bool) (digits : List Char) : Option Json :=
  let value := digitsValue digits
  if negative then
    if 0 < value ∧ value ≤ Nat.pow 2 63 then some (.integer (-value))
    else (double? true digits [] 0).map .double
  else if value < Nat.pow 2 64 then some (.integer value)
  else (double? false digits [] 0).map .double

/-- The digits after a point at the head of a text, if a point stands there. -/
def readFraction? : List Char → Option (Option (List Char) × List Char)
  | '.' :: rest =>
    let digits := rest.takeWhile Char.isDigit
    if digits = [] then none else some (some digits, rest.dropWhile Char.isDigit)
  | other => some (none, other)

/-- The exponent at the head of a text, if one stands there. -/
def readExponent? (text : List Char) : Option (Option Int × List Char) :=
  match text with
  | [] => some (none, [])
  | mark :: rest =>
    if mark = 'e' ∨ mark = 'E' then
      let (negative, unsigned) := takeSign rest
      let digits := unsigned.takeWhile Char.isDigit
      let value : Int := digitsValue digits
      if digits = [] then none
      else some (some (if negative then -value else value), unsigned.dropWhile Char.isDigit)
    else some (none, text)

/-- A number as it is written. -/
structure NumberText where
  negative : Bool
  /-- The digits before the point. -/
  whole : List Char
  /-- The digits behind the point, if there is one. -/
  fraction : Option (List Char)
  exponent : Option Int
  deriving Repr, DecidableEq

/-- The parts of a number at the head of a text, and what follows it. -/
def readNumberText? (text : List Char) : Option (NumberText × List Char) := do
  let (negative, unsigned) := match text with
    | '-' :: rest => (true, rest)
    | other => (false, other)
  let whole := unsigned.takeWhile Char.isDigit
  if whole = [] ∨ (whole.head? = some '0' ∧ whole.tail ≠ []) then none
  else
    let (fraction, afterFraction) ← readFraction? (unsigned.dropWhile Char.isDigit)
    let (exponent, rest) ← readExponent? afterFraction
    return ({ negative, whole, fraction, exponent }, rest)

/-- The number that is written. -/
def NumberText.value? (number : NumberText) : Option Json :=
  if number.fraction.isNone ∧ number.exponent.isNone then whole? number.negative number.whole
  else
    (double? number.negative number.whole (number.fraction.getD [])
      (number.exponent.getD 0)).map .double

/-- A number at the head of a text, and what follows it. -/
def readNumber? (text : List Char) : Option (Json × List Char) := do
  let (number, rest) ← readNumberText? text
  return (← number.value?, rest)

/-! ## Strings -/

/-- The value of a hexadecimal digit. -/
def hexValue? (c : Char) : Option Nat :=
  if c.isDigit then some (c.toNat - 48)
  else if 'a' ≤ c ∧ c ≤ 'f' then some (c.toNat - 87)
  else if 'A' ≤ c ∧ c ≤ 'F' then some (c.toNat - 55)
  else none

/-- The value of four hexadecimal digits at the head of a text, and what follows them. -/
def readHex? : List Char → Option (Nat × List Char)
  | a :: b :: c :: d :: rest => do
    let value := 4096 * (← hexValue? a) + 256 * (← hexValue? b) + 16 * (← hexValue? c)
      + (← hexValue? d)
    return (value, rest)
  | _ => none

/-- The character of a numbered escape whose backslash and `u` have been read. A number in the
range of the surrogates must be the first half of a pair of escapes. -/
def readUnicode? (text : List Char) : Option (Char × List Char) := do
  let (first, rest) ← readHex? text
  if 0xd800 ≤ first ∧ first < 0xdc00 then
    match rest with
    | '\\' :: 'u' :: tail =>
      let (second, rest) ← readHex? tail
      if 0xdc00 ≤ second ∧ second < 0xe000 then
        return (Char.ofNat (0x10000 + 0x400 * (first - 0xd800) + (second - 0xdc00)), rest)
      else none
    | _ => none
  else if 0xdc00 ≤ first ∧ first < 0xe000 then none
  else return (Char.ofNat first, rest)

/-- The character of an escape whose backslash has been read. -/
def readEscape? : List Char → Option (Char × List Char)
  | '"' :: rest => some ('"', rest)
  | '\\' :: rest => some ('\\', rest)
  | '/' :: rest => some ('/', rest)
  | 'b' :: rest => some ('\x08', rest)
  | 'f' :: rest => some ('\x0c', rest)
  | 'n' :: rest => some ('\n', rest)
  | 'r' :: rest => some ('\r', rest)
  | 't' :: rest => some ('\t', rest)
  | 'u' :: rest => readUnicode? rest
  | _ => none

/-- Goes on with a string whose characters so far are `read`, last one first. Every step takes at
least one character, so `fuel` need not exceed the length of the text. -/
def stringLoop (fuel : Nat) (read text : List Char) : Option (String × List Char) :=
  match fuel, text with
  | _, [] => none
  | 0, _ => none
  | fuel + 1, c :: rest =>
    if c = '"' then some (String.ofList read.reverse, rest)
    else if c = '\\' then
      match readEscape? rest with
      | some (escape, rest) => stringLoop fuel (escape :: read) rest
      | none => none
    else if c.toNat < 0x20 then none
    else stringLoop fuel (c :: read) rest

/-- The string whose opening quote has been read, and what follows it. -/
def readString? (text : List Char) : Option (String × List Char) :=
  stringLoop text.length [] text

/-! ## Values -/

/-- The arrays and objects that may nest. -/
def nestingLimit : Nat := 127

mutual

/-- A value at the head of a text without space before it, and what follows it. Every step takes
at least one character, so `fuel` need not exceed the length of the text by more than one. -/
def readValue (fuel nesting : Nat) (text : List Char) : Option (Json × List Char) :=
  match fuel with
  | 0 => none
  | fuel + 1 =>
    match text with
    | [] => none
    | 'n' :: 'u' :: 'l' :: 'l' :: rest => some (.null, rest)
    | 't' :: 'r' :: 'u' :: 'e' :: rest => some (.boolean true, rest)
    | 'f' :: 'a' :: 'l' :: 's' :: 'e' :: rest => some (.boolean false, rest)
    | '"' :: rest => (readString? rest).map fun read => (.text read.1, read.2)
    | '[' :: rest =>
      match nesting with
      | 0 => none
      | nesting + 1 =>
        match skipSpace rest with
        | ']' :: rest => some (.array [], rest)
        | rest => (readItems fuel nesting rest).map fun read => (.array read.1, read.2)
    | '\x7b' :: rest =>
      match nesting with
      | 0 => none
      | nesting + 1 =>
        match skipSpace rest with
        | '\x7d' :: rest => some (.object [], rest)
        | rest =>
          (readFields fuel nesting rest).map fun read => (.object (Fields.ofList read.1), read.2)
    | other => readNumber? other

/-- The items of an array that has at least one, with its closing bracket. -/
def readItems (fuel nesting : Nat) (text : List Char) : Option (List Json × List Char) :=
  match fuel with
  | 0 => none
  | fuel + 1 =>
    match readValue fuel nesting text with
    | none => none
    | some (item, rest) =>
      match skipSpace rest with
      | ']' :: rest => some ([item], rest)
      | ',' :: rest =>
        (readItems fuel nesting (skipSpace rest)).map fun read => (item :: read.1, read.2)
      | _ => none

/-- The fields of an object that has at least one, as they are written, with its closing
brace. -/
def readFields (fuel nesting : Nat) (text : List Char) :
    Option (List (String × Json) × List Char) :=
  match fuel with
  | 0 => none
  | fuel + 1 =>
    match text with
    | '"' :: rest =>
      match readString? rest with
      | none => none
      | some (name, rest) =>
        match skipSpace rest with
        | ':' :: rest =>
          match readValue fuel nesting (skipSpace rest) with
          | none => none
          | some (value, rest) =>
            match skipSpace rest with
            | '\x7d' :: rest => some ([(name, value)], rest)
            | ',' :: rest =>
              (readFields fuel nesting (skipSpace rest)).map fun read =>
                ((name, value) :: read.1, read.2)
            | _ => none
        | _ => none
    | _ => none

end

/-- A value at the head of a text, and what follows it. -/
def readHead? (text : List Char) : Option (Json × List Char) :=
  readValue (text.length + 1) nestingLimit (skipSpace text)

/-- A value that takes up a whole text. -/
def read? (text : List Char) : Option Json :=
  match readHead? text with
  | some (value, rest) => if skipSpace rest = [] then some value else none
  | none => none

end SheetFormula.Json
