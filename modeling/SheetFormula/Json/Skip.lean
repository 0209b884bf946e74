import SheetFormula.Json.Reader

/-!
# Skipping JSON

What stands under a name that nobody asks for only needs to have the form of JSON. Its numbers may
be of any size, its arrays and objects may nest without limit, and the numbered escapes in its
strings need not be characters.

## Main definitions

* `SheetFormula.Json.skipString?` — what follows a string.
* `SheetFormula.Json.skipValue?` — what follows a value.
-/

set_option relaxedAutoImplicit false
set_option autoImplicit false

namespace SheetFormula.Json

/-- What follows an escape whose backslash has been read. -/
def skipEscape? : List Char → Option (List Char)
  | 'u' :: rest => (readHex? rest).map Prod.snd
  | other => (readEscape? other).map Prod.snd

/-- What follows a string whose opening quote has been read. Every step takes at least one
character, so `fuel` need not exceed the length of the text. -/
def skipStringLoop (fuel : Nat) (text : List Char) : Option (List Char) :=
  match fuel, text with
  | _, [] => none
  | 0, _ => none
  | fuel + 1, c :: rest =>
    if c = '"' then some rest
    else if c = '\\' then
      match skipEscape? rest with
      | some rest => skipStringLoop fuel rest
      | none => none
    else if c.toNat < 0x20 then none
    else skipStringLoop fuel rest

/-- What follows a string whose opening quote has been read. -/
def skipString? (text : List Char) : Option (List Char) :=
  skipStringLoop text.length text

/-- What follows the name of a field and its colon. -/
def skipName? : List Char → Option (List Char)
  | '"' :: rest => do
    match skipSpace (← skipString? rest) with
    | ':' :: rest => return skipSpace rest
    | _ => none
  | _ => none

mutual

/-- What follows a value at the head of a text without space before it. Every step takes at least
one character, so `fuel` need not exceed the length of the text by more than one. -/
def skipValue (fuel : Nat) (text : List Char) : Option (List Char) :=
  match fuel with
  | 0 => none
  | fuel + 1 =>
    match text with
    | [] => none
    | 'n' :: 'u' :: 'l' :: 'l' :: rest => some rest
    | 't' :: 'r' :: 'u' :: 'e' :: rest => some rest
    | 'f' :: 'a' :: 'l' :: 's' :: 'e' :: rest => some rest
    | '"' :: rest => skipString? rest
    | '[' :: rest =>
      match skipSpace rest with
      | ']' :: rest => some rest
      | rest => skipItems fuel rest
    | '\x7b' :: rest =>
      match skipSpace rest with
      | '\x7d' :: rest => some rest
      | rest => skipFields fuel rest
    | other => (readNumberText? other).map Prod.snd

/-- What follows the items of an array that has at least one, and its closing bracket. -/
def skipItems (fuel : Nat) (text : List Char) : Option (List Char) :=
  match fuel with
  | 0 => none
  | fuel + 1 =>
    match skipValue fuel text with
    | none => none
    | some rest =>
      match skipSpace rest with
      | ']' :: rest => some rest
      | ',' :: rest => skipItems fuel (skipSpace rest)
      | _ => none

/-- What follows the fields of an object that has at least one, and its closing brace. -/
def skipFields (fuel : Nat) (text : List Char) : Option (List Char) :=
  match fuel with
  | 0 => none
  | fuel + 1 =>
    match skipName? text with
    | none => none
    | some rest =>
      match skipValue fuel rest with
      | none => none
      | some rest =>
        match skipSpace rest with
        | '\x7d' :: rest => some rest
        | ',' :: rest => skipFields fuel (skipSpace rest)
        | _ => none

end

/-- What follows a value at the head of a text without space before it. -/
def skipValue? (text : List Char) : Option (List Char) :=
  skipValue (text.length + 1) text

end SheetFormula.Json
