import SheetFormula.Yaml.Folding

/-!
# Scalars in quotes

A scalar in single quotes has one escape, the doubled quote. A scalar in double quotes has escapes
behind a backslash; a backslash at the end of a line takes the end and the gaps of the next line
away.

## Main definitions

* `SheetFormula.Yaml.readEscape?` — what an escape stands for.
* `SheetFormula.Yaml.readQuoted?` — a scalar in quotes.
-/

set_option relaxedAutoImplicit false
set_option autoImplicit false

namespace SheetFormula.Yaml

/-- The character that an escape of one letter stands for. -/
def escapedChar? (c : Char) : Option Char :=
  [('0', '\x00'), ('a', '\x07'), ('b', '\x08'), ('t', '\t'), ('\t', '\t'), ('n', '\n'),
   ('v', '\x0b'), ('f', '\x0c'), ('r', '\r'), ('e', '\x1b'), (' ', ' '), ('"', '"'), ('/', '/'),
   ('\\', '\\'), ('N', '\u0085'), ('_', '\u00a0'), ('L', '\u2028'), ('P', '\u2029')].lookup c

/-- The number of hexadecimal digits of a numbered escape. -/
def escapeWidth? (c : Char) : Option Nat :=
  [('x', 2), ('u', 4), ('U', 8)].lookup c

/-- The character with a number, given by so many hexadecimal digits at the head of a text. -/
def numberedChar? (width : Nat) (text : List Char) : Option Char := do
  let value ← numberIn? 16 (text.take width)
  if text.length < width ∨ 0x10ffff < value ∨ (0xd800 ≤ value ∧ value < 0xe000) then none
  else return Char.ofNat value

/-- What the escape behind a backslash stands for, and how many characters it takes. -/
def readEscape? : List Char → Option (List Char × Nat)
  | [] => none
  | c :: rest =>
    if isBreak c then
      let run := rest.takeWhile isGapOrBreak
      some (run.filter isBreak, run.length + 1)
    else
      match escapedChar? c, escapeWidth? c with
      | some char, _ => some ([char], 1)
      | none, some width => (numberedChar? width rest).map fun char => ([char], width + 1)
      | none, none => none

/-- Goes on with a scalar whose characters so far are `read`, last one first. Every step takes at
least one character. The mark of a document must not stand in a scalar. -/
def quotedLoop (quote : Char) (fuel : Nat) (cursor : Cursor) (read : List Char) :
    Option (List Char × Cursor) :=
  match fuel, cursor.rest with
  | 0, _ => none
  | _, [] => none
  | fuel + 1, c :: rest =>
    if cursor.isAtDocumentMark then none
    else if isGapOrBreak c then
      let run := cursor.rest.takeWhile isGapOrBreak
      quotedLoop quote fuel (cursor.drop run.length) ((folded run).reverse ++ read)
    else if c = quote then
      if quote = '\'' ∧ rest.head? = some quote then
        quotedLoop quote fuel (cursor.drop 2) (quote :: read)
      else some (read.reverse, cursor.drop 1)
    else if c = '\\' ∧ quote = '"' then
      match readEscape? rest with
      | some (chars, count) =>
        quotedLoop quote fuel (cursor.drop (count + 1)) (chars.reverse ++ read)
      | none => none
    else quotedLoop quote fuel (cursor.drop 1) (c :: read)

/-- The text of a scalar whose opening quote is next, and the cursor behind it. -/
def readQuoted? (quote : Char) (cursor : Cursor) : Option (String × Cursor) :=
  (quotedLoop quote (cursor.rest.length + 1) (cursor.drop 1) []).map fun read =>
    (String.ofList read.1, read.2)

end SheetFormula.Yaml
