import SheetFormula.Yaml.Plain
import SheetFormula.Yaml.Property
import SheetFormula.Yaml.Quoted
import SheetFormula.Yaml.TextBlock

/-!
# From text to tokens

The tokens of a text are found from left to right. Two things make this more than a list of readers.

* **Indentation.** Outside of flow collections a block ends as soon as a token stands further to the
  left than it, and a new one begins where the sign of an item or a key stands further to the right.
* **Keys.** That a node is a key shows only at the colon behind it. So a node that may be a key is a
  *candidate*: its place among the tokens is kept, and the token of a key is put there once the
  colon is found. A key takes up one line and at most 1024 bytes. A node at the indentation of its
  block must be a key.

## Main definitions

* `SheetFormula.Yaml.Candidate` — a node that may be a key.
* `SheetFormula.Yaml.Lexer` — the tokens so far, and what the next ones depend on.
* `SheetFormula.Yaml.tokens?` — the tokens of a text.
-/

set_option relaxedAutoImplicit false
set_option autoImplicit false

namespace SheetFormula.Yaml

/-! ## Candidates -/

/-- A node that may be a key. -/
structure Candidate where
  /-- The number of tokens before the node. -/
  index : Nat
  place : Place
  /-- Whether it is an error if the node is no key. -/
  required : Bool
  deriving Repr, DecidableEq

/-- The greatest length of a key in bytes. -/
def keyLimit : Nat := 1024

/-- Whether a candidate is no key if the colon is not before a place. -/
def Candidate.isStale (candidate : Candidate) (place : Place) : Bool :=
  decide (candidate.place.line < place.line) ||
    decide (candidate.place.offset + keyLimit < place.offset)

/-- A candidate if it may still be a key at a place. There is no result if it had to be one. -/
def freshCandidate? (place : Place) : Option Candidate → Option (Option Candidate)
  | none => some none
  | some candidate =>
    if !candidate.isStale place then some (some candidate)
    else if candidate.required then none
    else some none

/-! ## Lexers -/

/-- The tokens of the text before a cursor, and what the next ones depend on. -/
structure Lexer where
  cursor : Cursor
  /-- The tokens so far, last one first. -/
  tokens : List Token := []
  /-- The columns of the open blocks, inner ones first. -/
  indents : List Nat := []
  /-- The candidate among the nodes of the innermost collection. -/
  candidate : Option Candidate := none
  /-- The candidates around the open flow collections, inner ones first. -/
  enclosing : List (Option Candidate) := []
  /-- Whether a key, or the sign of an item, may come next. -/
  keyAllowed : Bool := true
  deriving Repr, DecidableEq

namespace Lexer

/-- Whether a flow collection is open. -/
def inFlow (lexer : Lexer) : Bool :=
  !lexer.enclosing.isEmpty

/-- The least column of what stands inside of the innermost block. -/
def least (lexer : Lexer) : Nat :=
  (lexer.indents.head?.map (· + 1)).getD 0

/-- Puts a token behind the others. -/
def add (lexer : Lexer) (token : Token) : Lexer :=
  { lexer with tokens := token :: lexer.tokens }

/-- Puts a token behind the others and moves on. -/
def read (lexer : Lexer) (token : Token) (cursor : Cursor) : Lexer :=
  { lexer.add token with cursor }

/-- Puts a token behind the first ones of a number. -/
def insert (lexer : Lexer) (index : Nat) (token : Token) : Lexer :=
  let later := lexer.tokens.length - index
  { lexer with tokens := lexer.tokens.take later ++ token :: lexer.tokens.drop later }

/-- The candidates that may still be keys. -/
def dropStale? (lexer : Lexer) : Option Lexer := do
  let candidate ← freshCandidate? lexer.cursor.place lexer.candidate
  let enclosing ← lexer.enclosing.mapM (freshCandidate? lexer.cursor.place)
  return { lexer with candidate, enclosing }

/-- Gives the candidate up. -/
def dropCandidate? (lexer : Lexer) : Option Lexer :=
  if lexer.candidate.any Candidate.required then none else some { lexer with candidate := none }

/-- Makes the next node the candidate, if it may be a key. -/
def saveCandidate? (lexer : Lexer) : Option Lexer :=
  if lexer.keyAllowed then do
    let lexer ← lexer.dropCandidate?
    let required := !lexer.inFlow && lexer.indents.head? == some lexer.cursor.column
    return { lexer with candidate := some ⟨lexer.tokens.length, lexer.cursor.place, required⟩ }
  else some lexer

/-- Opens a block at a column, with its token behind the first ones of a number. Nothing happens in
a flow collection, or if the block is open already. -/
def openBlock (lexer : Lexer) (start : Token) (column index : Nat) : Lexer :=
  if lexer.inFlow || decide (column < lexer.least) then lexer
  else { lexer.insert index start with indents := column :: lexer.indents }

/-- Opens a block at the cursor. -/
def openBlockHere (lexer : Lexer) (start : Token) : Lexer :=
  lexer.openBlock start lexer.cursor.column lexer.tokens.length

/-- Closes the inner blocks whose columns are of a kind. Nothing happens in a flow collection. -/
def closeBlocks (lexer : Lexer) (closes : Nat → Bool) : Lexer :=
  if lexer.inFlow then lexer
  else
    let closed := (lexer.indents.takeWhile closes).length
    { lexer with
      tokens := List.replicate closed .blockEnd ++ lexer.tokens
      indents := lexer.indents.drop closed }

/-! ## Space between tokens -/

/-- Goes on over spaces, comments and empty lines. Tabs count as space in flow collections, and
where no key may come next. Every step takes a line. -/
def skipLoop (fuel : Nat) (lexer : Lexer) : Lexer :=
  match fuel with
  | 0 => lexer
  | fuel + 1 =>
    let begun :=
      if lexer.cursor.column = 0 ∧ lexer.cursor.isAt byteOrderMark then lexer.cursor.drop 1
      else lexer.cursor
    let accepts (c : Char) : Bool := c == ' ' || (c == '\t' && (lexer.inFlow || !lexer.keyAllowed))
    let cursor := (begun.dropWhile accepts).dropComment
    if cursor.rest.head?.any isBreak then
      skipLoop fuel
        { lexer with
          cursor := cursor.drop 1
          keyAllowed := lexer.keyAllowed || !lexer.inFlow }
    else { lexer with cursor }

/-- The lexer before the next token or at the end of the text. -/
def skipSpace (lexer : Lexer) : Lexer :=
  lexer.skipLoop (lexer.cursor.rest.length + 1)

/-! ## Tokens -/

/-- Reads the mark of a document, which closes all blocks. -/
def readDocumentMark? (lexer : Lexer) (mark : Token) : Option Lexer := do
  let lexer ← (lexer.closeBlocks fun _ => true).dropCandidate?
  return { lexer.read mark (lexer.cursor.drop 3) with keyAllowed := false }

/-- Reads a directive, which closes all blocks. -/
def readDirective? (lexer : Lexer) : Option Lexer := do
  let lexer ← (lexer.closeBlocks fun _ => true).dropCandidate?
  let (directive, cursor) ← Yaml.readDirective? lexer.cursor
  return { lexer.read (.directive directive) cursor with keyAllowed := false }

/-- Reads the opening mark of a flow collection. -/
def openFlow? (lexer : Lexer) (start : Token) : Option Lexer := do
  let lexer ← lexer.saveCandidate?
  return { lexer.read start (lexer.cursor.drop 1) with
    candidate := none
    enclosing := lexer.candidate :: lexer.enclosing
    keyAllowed := true }

/-- Reads the closing mark of a flow collection. -/
def closeFlow? (lexer : Lexer) (last : Token) : Option Lexer := do
  let lexer ← lexer.dropCandidate?
  return { lexer.read last (lexer.cursor.drop 1) with
    candidate := lexer.enclosing.head?.join
    enclosing := lexer.enclosing.tail
    keyAllowed := false }

/-- Reads a comma. -/
def readComma? (lexer : Lexer) : Option Lexer := do
  let lexer ← lexer.dropCandidate?
  return { lexer.read .comma (lexer.cursor.drop 1) with keyAllowed := true }

/-- Reads the sign of an item. -/
def readItem? (lexer : Lexer) : Option Lexer := do
  if !lexer.inFlow && !lexer.keyAllowed then none
  else
    let lexer ← (lexer.openBlockHere .sequenceStart).dropCandidate?
    return { lexer.read .item (lexer.cursor.drop 1) with keyAllowed := true }

/-- Reads the sign of a key. -/
def readKey? (lexer : Lexer) : Option Lexer := do
  if !lexer.inFlow && !lexer.keyAllowed then none
  else
    let lexer ← (lexer.openBlockHere .mappingStart).dropCandidate?
    return { lexer.read .key (lexer.cursor.drop 1) with keyAllowed := !lexer.inFlow }

/-- Reads the colon before a value. The candidate is its key. -/
def readValue? (lexer : Lexer) : Option Lexer :=
  let cursor := lexer.cursor.drop 1
  match lexer.candidate with
  | some candidate =>
    let keyed := (lexer.insert candidate.index .key).openBlock .mappingStart
      candidate.place.column candidate.index
    some { keyed.read .value cursor with candidate := none, keyAllowed := false }
  | none =>
    if !lexer.inFlow && !lexer.keyAllowed then none
    else
      some { (lexer.openBlockHere .mappingStart).read .value cursor with
        keyAllowed := !lexer.inFlow }

/-- Reads a token that begins a node, with a reader for it. No key may come right behind it. -/
def readNode? (lexer : Lexer) (reader : Cursor → Option (Token × Cursor)) : Option Lexer := do
  let lexer ← lexer.saveCandidate?
  let (token, cursor) ← reader lexer.cursor
  return { lexer.read token cursor with keyAllowed := false }

/-- Reads a block of text, which is no key. -/
def readTextBlock? (lexer : Lexer) (folds : Bool) : Option Lexer := do
  let lexer ← lexer.dropCandidate?
  let (text, cursor) ← Yaml.readTextBlock? folds lexer.indents.head? lexer.cursor
  return { lexer.read (.scalar text false) cursor with keyAllowed := true }

/-- Reads a scalar without quotes. A key may come behind it if it ended with its line. -/
def readPlain? (lexer : Lexer) : Option Lexer := do
  let lexer ← lexer.saveCandidate?
  let scalar ← Yaml.readPlain? lexer.inFlow lexer.least lexer.cursor
  return { lexer.read (.scalar scalar.text true) scalar.cursor with keyAllowed := scalar.leftLine }

/-- Reads the token at the head of the text `c :: rest`. -/
def readToken? (lexer : Lexer) (c : Char) (rest : List Char) : Option Lexer :=
  let cursor := lexer.cursor
  let spaced := rest.head?.all isGapOrBreak
  if cursor.column = 0 ∧ c = '%' then lexer.readDirective?
  else if cursor.isAtThree '-' then lexer.readDocumentMark? .documentStart
  else if cursor.isAtThree '.' then lexer.readDocumentMark? .documentEnd
  else if c = '[' then lexer.openFlow? .flowSequenceStart
  else if c = '\x7b' then lexer.openFlow? .flowMappingStart
  else if c = ']' then lexer.closeFlow? .flowSequenceEnd
  else if c = '\x7d' then lexer.closeFlow? .flowMappingEnd
  else if c = ',' then lexer.readComma?
  else if c = '-' ∧ spaced then lexer.readItem?
  else if c = '?' ∧ (lexer.inFlow ∨ spaced) then lexer.readKey?
  else if c = ':' ∧ (lexer.inFlow ∨ spaced) then lexer.readValue?
  else if c = '*' then
    lexer.readNode? fun cursor => (readAnchor? cursor).map fun read => (.alias read.1, read.2)
  else if c = '&' then
    lexer.readNode? fun cursor => (readAnchor? cursor).map fun read => (.anchor read.1, read.2)
  else if c = '!' then
    lexer.readNode? fun cursor =>
      (readTag? lexer.inFlow cursor).map fun read => (.tag read.1, read.2)
  else if (c = '|' ∨ c = '>') ∧ ¬ lexer.inFlow then lexer.readTextBlock? (c == '>')
  else if c = '\'' ∨ c = '"' then
    lexer.readNode? fun cursor =>
      (readQuoted? c cursor).map fun read => (.scalar read.1 false, read.2)
  else if beginsPlain lexer.inFlow (c :: rest) then lexer.readPlain?
  else none

/-- Goes on to the end of the text. Every step takes at least one character. -/
def runLoop (fuel : Nat) (lexer : Lexer) : Option (List Token) :=
  match fuel with
  | 0 => none
  | fuel + 1 => do
    let lexer ← lexer.skipSpace.dropStale?
    let column := lexer.cursor.column
    match lexer.cursor.rest with
    | [] =>
      let lexer ← (lexer.closeBlocks fun _ => true).dropCandidate?
      return lexer.tokens.reverse
    | c :: rest =>
      let lexer ← (lexer.closeBlocks fun indent => column < indent).readToken? c rest
      runLoop fuel lexer

end Lexer

/-- The tokens of a text. -/
def tokens? (text : List Char) : Option (List Token) :=
  if text.all isAllowed then
    let unified := unifiedBreaks text
    Lexer.runLoop (unified.length + 1) { cursor := { rest := unified } }
  else none

end SheetFormula.Yaml
