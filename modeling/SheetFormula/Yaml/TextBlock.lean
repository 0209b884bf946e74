import SheetFormula.Yaml.Cursor

/-!
# Blocks of text

A block of text begins with a sign and a header, and goes on with the lines that stand further to
the right than the block around it. A literal block keeps the ends of its lines. In a folded one the
end of a line is a space, unless an empty line or a line that begins with a gap is next to it.

## Main definitions

* `SheetFormula.Yaml.Chomping` — how a block of text ends.
* `SheetFormula.Yaml.readTextBlock?` — a block of text.
-/

set_option relaxedAutoImplicit false
set_option autoImplicit false

namespace SheetFormula.Yaml

/-! ## Headers -/

/-- Which of the line ends behind the last line of a block of text belong to it. -/
inductive Chomping where
  /-- That of the last line. -/
  | clip
  /-- None of them. -/
  | strip
  /-- That of the last line and those of the empty lines behind it. -/
  | keep
  deriving Repr, DecidableEq

/-- The sign for a way to chomp. -/
def Chomping.ofSign? : Char → Option Chomping
  | '-' => some .strip
  | '+' => some .keep
  | _ => none

/-- An indentation in a header, which is one digit that is not zero. -/
def headerWidth? (c : Char) : Option Nat :=
  if c.isDigit ∧ c ≠ '0' then some (c.toNat - 48) else none

/-- The way to chomp and the indentation that the marks of a header give, in either order. -/
def headerMarks? : List Char → Option (Chomping × Option Nat)
  | [] => some (.clip, none)
  | [c] =>
    match Chomping.ofSign? c, headerWidth? c with
    | some chomping, _ => some (chomping, none)
    | none, some width => some (.clip, some width)
    | none, none => none
  | [c, d] =>
    match Chomping.ofSign? c, headerWidth? d, headerWidth? c, Chomping.ofSign? d with
    | some chomping, some width, _, _ => some (chomping, some width)
    | _, _, some width, some chomping => some (chomping, some width)
    | _, _, _, _ => none
  | _ => none

/-- A header, and the cursor at the end of its line. -/
def readHeader? (cursor : Cursor) : Option (Chomping × Option Nat × Cursor) := do
  let marks := cursor.rest.takeWhile fun c => c == '+' || c == '-' || c.isDigit
  let (chomping, width) ← headerMarks? marks
  let ended ← (cursor.drop marks.length).dropBlankEnd?
  return (chomping, width, ended)

/-! ## Lines -/

/-- The empty lines and the indentation before a line that is not empty. -/
structure EmptyLines where
  /-- The ends of the empty lines. -/
  breaks : List Char
  /-- The greatest indentation among all lines. -/
  widest : Nat
  cursor : Cursor
  deriving Repr, DecidableEq

/-- Goes on with empty lines. Their indentation is all spaces if the indentation of the block is not
known yet; otherwise it ends where that of the block does, and no tab may stand in it. -/
def emptyLinesLoop (indent : Option Nat) (fuel : Nat) (lines : EmptyLines) : Option EmptyLines :=
  match fuel with
  | 0 => none
  | fuel + 1 =>
    let spaces := (lines.cursor.rest.takeWhile (· == ' ')).length
    let cursor := lines.cursor.drop
      (match indent with
      | some indent => min spaces (indent - lines.cursor.column)
      | none => spaces)
    let widest := max lines.widest cursor.column
    match cursor.rest with
    | [] => some { lines with widest, cursor }
    | c :: _ =>
      if c = '\t' ∧ indent.all (cursor.column < ·) then none
      else if isBreak c then
        emptyLinesLoop indent fuel
          { breaks := lines.breaks ++ [c], widest, cursor := cursor.drop 1 }
      else some { lines with widest, cursor }

/-- The empty lines at a cursor, in a block with an indentation. -/
def readEmptyLines? (indent : Option Nat) (cursor : Cursor) : Option EmptyLines :=
  emptyLinesLoop indent (cursor.rest.length + 1) { breaks := [], widest := 0, cursor }

/-- The lines of a block of text so far. -/
structure TextLines where
  /-- The characters, without the end of the last line; last one first. -/
  read : List Char := []
  /-- The end of the last line, if there is one. -/
  lastBreak : List Char := []
  /-- The ends of the empty lines behind it. -/
  breaks : List Char
  /-- Whether the last line begins with a gap. -/
  afterGap : Bool := false
  cursor : Cursor
  deriving Repr, DecidableEq

/-- What stands between the last line and one that begins with a gap or with none. -/
def TextLines.joint (lines : TextLines) (folds beginsWithGap : Bool) : List Char :=
  if folds && lines.lastBreak == ['\n'] && !lines.afterGap && !beginsWithGap then
    if lines.breaks = [] then [' '] else lines.breaks
  else lines.lastBreak ++ lines.breaks

/-- Goes on with the lines of a block of text. Each of them stands right behind its indentation. -/
def textLinesLoop (folds : Bool) (indent fuel : Nat) (lines : TextLines) : Option TextLines :=
  match fuel with
  | 0 => none
  | fuel + 1 =>
    if lines.cursor.column ≠ indent ∨ lines.cursor.rest = [] then some lines
    else
      let gap := lines.cursor.rest.head?.any isGap
      let line := lines.cursor.rest.takeWhile fun c => !isBreak c
      let ended := lines.cursor.drop line.length
      match readEmptyLines? (some indent) (ended.drop 1) with
      | none => none
      | some empty =>
        textLinesLoop folds indent fuel
          { read := line.reverse ++ (lines.joint folds gap).reverse ++ lines.read
            lastBreak := ended.rest.take 1
            breaks := empty.breaks
            afterGap := gap
            cursor := empty.cursor }

/-- The text of a block with these lines. -/
def TextLines.text (lines : TextLines) (chomping : Chomping) : String :=
  String.ofList <| lines.read.reverse ++
    match chomping with
    | .strip => []
    | .clip => lines.lastBreak
    | .keep => lines.lastBreak ++ lines.breaks

/-- The text of a block whose sign is next, inside of a block with an indentation if there is one,
and the cursor behind it. If the header gives no indentation, it is the greatest one before the
first line that is not empty. -/
def readTextBlock? (folds : Bool) (outer : Option Nat) (cursor : Cursor) :
    Option (String × Cursor) := do
  let (chomping, width, ended) ← readHeader? (cursor.drop 1)
  let given := width.map fun width => outer.getD 0 + width
  let empty ← readEmptyLines? given (ended.drop 1)
  let least := max 1 ((outer.map (· + 1)).getD 0)
  let indent := given.getD (max empty.widest least)
  let lines ← textLinesLoop folds indent (ended.rest.length + 1)
    { breaks := empty.breaks, cursor := empty.cursor }
  return (lines.text chomping, lines.cursor)

end SheetFormula.Yaml
