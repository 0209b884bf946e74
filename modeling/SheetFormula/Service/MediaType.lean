/-!
# Media types

The type of a body is given as `type/subtype`, possibly with parameters behind it. A subtype may end
in a plus sign and the name of the format that it builds on.

## Main definitions

* `SheetFormula.Service.areParameters` — lists of parameters.
* `SheetFormula.Service.isJsonType` — whether a type says that a body is JSON.
-/

set_option relaxedAutoImplicit false
set_option autoImplicit false

namespace SheetFormula.Service

/-- The characters of names in media types. -/
def isNameChar (c : Char) : Bool :=
  c.isAlphanum || "!#$%&'*+-.^_`|~".toList.contains c

/-- The characters between quotes. -/
def isQuotedChar (c : Char) : Bool :=
  0x20 ≤ c.toNat && c.toNat ≤ 0x7e

/-- What follows the closing quote of a value, whose first character may be a quote itself. -/
def skipQuoted? : List Char → Option (List Char)
  | [] => none
  | first :: rest =>
    let closes (c : Char) : Bool := !isQuotedChar c || c == '"'
    match rest.dropWhile fun c => !closes c with
    | '"' :: rest => if isQuotedChar first then some rest else none
    | _ => none

/-- What follows the value of a parameter: another one behind a semicolon, or nothing. A value
without quotes need not have any characters at the end of a text. -/
def skipParameterValue? (text : List Char) : Option (List Char) :=
  match text with
  | '"' :: quoted => do
    match (← skipQuoted? quoted).dropWhile (· == ' ') with
    | [] => some []
    | ';' :: rest => some rest
    | _ => none
  | plain =>
    match plain.dropWhile isNameChar with
    | [] => some []
    | ';' :: rest => if plain.head? = some ';' then none else some rest
    | _ => none

/-- Whether a text is a list of parameters, each behind spaces. Every step takes at least one
character, so `fuel` need not exceed the length of the text by more than one. -/
def areParameters (fuel : Nat) (text : List Char) : Bool :=
  match fuel, text with
  | 0, _ => false
  | _, [] => true
  | fuel + 1, c :: rest =>
    if c = ' ' then areParameters fuel rest
    else if isNameChar c then
      match rest.dropWhile isNameChar with
      | '=' :: value =>
        match skipParameterValue? value with
        | some rest => areParameters fuel rest
        | none => false
      | _ => false
    else false

/-- Whether a subtype is JSON or a format that builds on it. -/
def isJsonSubtype (subtype : List Char) : Bool :=
  let json := ['j', 's', 'o', 'n']
  let ending := subtype.reverse.takeWhile (· ≠ '+')
  match subtype.reverse.dropWhile (· ≠ '+') with
  | [] => subtype == json
  | [_] => false
  | _ :: name => name.reverse == json || ending.reverse == json

/-- Whether a type says that a body is JSON. Upper and lower case do not matter. -/
def isJsonType (text : String) : Bool :=
  let chars := text.toList.map Char.toLower
  match chars.takeWhile isNameChar, chars.dropWhile isNameChar with
  | kind, '/' :: rest =>
    kind == "application".toList && isJsonSubtype (rest.takeWhile isNameChar) &&
      match rest.dropWhile isNameChar with
      | [] => true
      | ';' :: parameters => areParameters (parameters.length + 1) parameters
      | _ => false
  | _, _ => false

end SheetFormula.Service
