import SheetFormula.Yaml.Character

/-!
# Places in texts

A cursor stands between two characters of a text. It knows its line, its column in characters, and
its distance from the start in bytes.

## Main definitions

* `SheetFormula.Yaml.Place` — a place in a text.
* `SheetFormula.Yaml.Cursor` — a place and the text from there on.
* `SheetFormula.Yaml.Cursor.drop`, `dropWhile` — moving on.
-/

set_option relaxedAutoImplicit false
set_option autoImplicit false

namespace SheetFormula.Yaml

/-- A place in a text. -/
structure Place where
  line : Nat := 0
  /-- The number of characters on the line before this place. -/
  column : Nat := 0
  /-- The number of bytes in the text before this place. -/
  offset : Nat := 0
  deriving Repr, DecidableEq

/-- The place behind a character. -/
def Place.next (place : Place) (c : Char) : Place :=
  let offset := place.offset + c.utf8Size
  if isBreak c then { line := place.line + 1, column := 0, offset }
  else { line := place.line, column := place.column + 1, offset }

/-- A place and the text from there on. -/
structure Cursor where
  place : Place := {}
  rest : List Char
  deriving Repr, DecidableEq

namespace Cursor

/-- The column of a cursor. -/
def column (cursor : Cursor) : Nat :=
  cursor.place.column

/-- The cursor behind a number of characters. -/
def drop (cursor : Cursor) (count : Nat) : Cursor :=
  { place := (cursor.rest.take count).foldl Place.next cursor.place
    rest := cursor.rest.drop count }

/-- The cursor behind a run of characters of a class. -/
def dropWhile (cursor : Cursor) (accepts : Char → Bool) : Cursor :=
  cursor.drop (cursor.rest.takeWhile accepts).length

/-- Whether the next character is a given one. -/
def isAt (cursor : Cursor) (c : Char) : Bool :=
  cursor.rest.head? == some c

/-- Whether the next character ends the line, or there is none. -/
def isAtLineEnd (cursor : Cursor) : Bool :=
  cursor.rest.head?.all isBreak

/-- Whether the next character is a gap or ends the line, or there is none. -/
def isAtSpace (cursor : Cursor) : Bool :=
  cursor.rest.head?.all isGapOrBreak

/-- Whether a line begins here with three of one character that stand alone. -/
def isAtThree (cursor : Cursor) (c : Char) : Bool :=
  cursor.column == 0 && cursor.rest.take 3 == [c, c, c] && (cursor.drop 3).isAtSpace

/-- Whether a line begins here with the mark of the start or the end of a document. -/
def isAtDocumentMark (cursor : Cursor) : Bool :=
  cursor.isAtThree '-' || cursor.isAtThree '.'

/-- The cursor behind a comment that begins here. -/
def dropComment (cursor : Cursor) : Cursor :=
  if cursor.isAt '#' then cursor.dropWhile fun c => !isBreak c else cursor

/-- The cursor at the end of a line on which nothing is left but gaps and a comment. -/
def dropBlankEnd? (cursor : Cursor) : Option Cursor :=
  let ended := (cursor.dropWhile isGap).dropComment
  if ended.isAtLineEnd then some ended else none

end Cursor

end SheetFormula.Yaml
