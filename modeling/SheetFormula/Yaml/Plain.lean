import SheetFormula.Yaml.Folding

/-!
# Scalars without quotes

A scalar without quotes ends before a comment, before a colon that ends a key, before a mark of a
flow collection around it, before the mark of a document, and, outside of flow collections, before
a line that stands too far to the left.

## Main definitions

* `SheetFormula.Yaml.beginsPlain` — where such a scalar begins.
* `SheetFormula.Yaml.PlainScalar`, `SheetFormula.Yaml.readPlain?` — such a scalar.
-/

set_option relaxedAutoImplicit false
set_option autoImplicit false

namespace SheetFormula.Yaml

/-- Whether a text begins a scalar without quotes. A hyphen does only if no gap follows it; a
question mark and a colon do only outside of flow collections, and if no gap or line end follows. -/
def beginsPlain (inFlow : Bool) (text : List Char) : Bool :=
  match text with
  | [] => false
  | c :: rest =>
    if c = '-' then !(rest.head?.any isGap)
    else if c = '?' ∨ c = ':' then !inFlow && !(rest.head?.all isGapOrBreak)
    else !isGapOrBreak c && !isIndicator c

/-- The part of a scalar up to the next gap, line end or end of the scalar. In a flow collection a
colon must not stand right before one of its marks. -/
def plainPart? (inFlow : Bool) : List Char → Option (List Char)
  | [] => some []
  | c :: rest =>
    if isGapOrBreak c then some []
    else if inFlow ∧ c = ':' ∧ (rest.head?.any fun d => isFlowMark d || d == '?') then none
    else if c = ':' ∧ rest.head?.all isGapOrBreak then some []
    else if inFlow ∧ isFlowMark c then some []
    else (plainPart? inFlow rest).map (c :: ·)

/-- Whether a run of gaps and line ends has a tab among the first `least` columns of a line that
begins in it. -/
def hasTabIndent (least : Nat) : List Char → Bool
  | [] => false
  | c :: rest =>
    (isBreak c && ((rest.takeWhile isGap).take least).contains '\t') || hasTabIndent least rest

/-- A scalar without quotes. -/
structure PlainScalar where
  text : String
  /-- Whether the cursor is on a line after the last one of the scalar. -/
  leftLine : Bool
  cursor : Cursor
  deriving Repr, DecidableEq

/-- Goes on with a scalar whose characters so far are `read`, last one first, and behind which
stands `run`. Its further lines stand at least so far to the right. Every step takes a character. -/
def plainLoop (inFlow : Bool) (least fuel : Nat) (cursor : Cursor) (read run : List Char) :
    Option PlainScalar :=
  let ended (read run : List Char) (cursor : Cursor) : PlainScalar :=
    ⟨String.ofList read.reverse, run.any isBreak, cursor⟩
  match fuel with
  | 0 => none
  | fuel + 1 =>
    if cursor.isAtDocumentMark || cursor.isAt '#' then some (ended read run cursor)
    else
      match plainPart? inFlow cursor.rest with
      | none => none
      | some [] => some (ended read run cursor)
      | some part =>
        let cursor := cursor.drop part.length
        let read := part.reverse ++ (folded run).reverse ++ read
        let run := cursor.rest.takeWhile isGapOrBreak
        let behind := cursor.drop run.length
        if hasTabIndent least run then none
        else if run = [] ∨ (!inFlow ∧ behind.column < least) then some (ended read run behind)
        else plainLoop inFlow least fuel behind read run

/-- The scalar without quotes that begins at a cursor. -/
def readPlain? (inFlow : Bool) (least : Nat) (cursor : Cursor) : Option PlainScalar :=
  plainLoop inFlow least (cursor.rest.length + 1) cursor [] []

end SheetFormula.Yaml
