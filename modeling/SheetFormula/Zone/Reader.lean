import SheetFormula.Number.Numeral
import SheetFormula.Text.Blank
import SheetFormula.Text.Digit
import SheetFormula.Zone.Basic

/-!
# Reading zones

A zone is written as one of the names of universal time, as an offset such as `+03:00` or `UTC+3`,
or by the name it has in a database. White space around it does not count.

## Main definitions

* `SheetFormula.Zone.readOffset?` — the digits of an offset.
* `SheetFormula.Zone.ofTextIn?` — the zone that a text names.
-/

set_option relaxedAutoImplicit false
set_option autoImplicit false

namespace SheetFormula.Zone

open SheetFormula.Text (isBlank isDecimalDigit trim)
open SheetFormula.Number (digitsValue)

/-- The text in lower case, as far as it is ASCII. -/
def lowered (text : List Char) : List Char :=
  text.map Char.toLower

/-- The names of universal time, in lower case. -/
def utcNames : List (List Char) :=
  ["utc".toList, "z".toList, "gmt".toList, "etc/utc".toList]

/-- The digits of the hours and minutes of an offset: one or two digits, then possibly two more,
with or without a colon before them. Three digits are one and two. -/
def offsetDigits? (text : List Char) : Option (List Char × List Char) :=
  match text with
  | [a] => if isDecimalDigit a then some ([a], []) else none
  | [a, b] => if [a, b].all isDecimalDigit then some ([a, b], []) else none
  | [a, b, c] => if [a, b, c].all isDecimalDigit then some ([a], [b, c]) else none
  | [a, b, c, d] =>
    if b = ':' ∧ [a, c, d].all isDecimalDigit then some ([a], [c, d])
    else if [a, b, c, d].all isDecimalDigit then some ([a, b], [c, d])
    else none
  | [a, b, m, c, d] =>
    if m = ':' ∧ [a, b, c, d].all isDecimalDigit then some ([a, b], [c, d]) else none
  | _ => none

/-- A number of one or two digits; zero if one of them is not ASCII. -/
def smallValue (digits : List Char) : Nat :=
  if digits.all Char.isDigit then digitsValue digits else 0

/-- The text after a name of universal time at its head, in any case, if there is one. -/
def afterUtc (text : List Char) : List Char :=
  let head := lowered (text.take 3)
  if head = "utc".toList ∨ head = "gmt".toList then text.drop 3 else text

/-- The sign, hours and minutes of an offset, possibly behind a name of universal time. -/
def readOffset? (text : List Char) : Option (Bool × Nat × Nat) :=
  match (afterUtc text).dropWhile isBlank with
  | sign :: rest =>
    if sign = '+' ∨ sign = '-' then
      (offsetDigits? rest).map fun (hours, minutes) =>
        (decide (sign = '-'), smallValue hours, smallValue minutes)
    else none
  | [] => none

/-- The zone with an offset. Offsets reach to eighteen hours; none is universal time. -/
def ofOffset? (negative : Bool) (hours minutes : Nat) : Option Zone :=
  if 18 < hours ∨ 59 < minutes then none
  else
    let seconds : Int := 3600 * hours + 60 * minutes
    if seconds = 0 then some .utc
    else some (.fixed (if negative then -seconds else seconds))

/-- The zone that a text names, if the named zones are those of a database. -/
def ofTextIn? (zones : ZoneDatabase) (text : String) : Option Zone :=
  let trimmed := trim text.toList
  if lowered trimmed ∈ utcNames then some .utc
  else
    match readOffset? trimmed with
    | some (negative, hours, minutes) => ofOffset? negative hours minutes
    | none =>
      let name := String.ofList trimmed
      (zones name).map (.named name)

end SheetFormula.Zone
