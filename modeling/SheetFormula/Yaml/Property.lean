import SheetFormula.Yaml.Token

/-!
# Anchors, tags and directives

The names in a text that are no scalars: of anchors and aliases, of tags, and of what stands before
a document.

## Main definitions

* `SheetFormula.Yaml.readAnchor?` — the name of an anchor or alias.
* `SheetFormula.Yaml.readTag?` — a tag.
* `SheetFormula.Yaml.readDirective?` — a directive.
-/

set_option relaxedAutoImplicit false
set_option autoImplicit false

namespace SheetFormula.Yaml

/-! ## Anchors -/

/-- The name behind the sign of an anchor or alias, and the cursor behind it. -/
def readAnchor? (cursor : Cursor) : Option (String × Cursor) :=
  let begun := cursor.drop 1
  let name := begun.rest.takeWhile isNameChar
  let ended := begun.drop name.length
  let mayFollow (c : Char) : Bool :=
    isGapOrBreak c || ['?', ':', ',', ']', '\x7d', '%', '@', '\x60'].contains c
  if name ≠ [] ∧ ended.rest.head?.all mayFollow then some (String.ofList name, ended) else none

/-! ## Tags -/

/-- A character of the names of tags. The brackets and the comma are some only where nothing else
can be meant. -/
def isTagChar (alone : Bool) (c : Char) : Bool :=
  isNameChar c || ";/?:@&=+$.!~*'()%".toList.contains c || (alone && [',', '[', ']'].contains c)

/-- The number of bytes of the character that begins with a byte. -/
def byteCount? (byte : Nat) : Option Nat :=
  if byte < 0x80 then some 1
  else if 0xc0 ≤ byte ∧ byte < 0xe0 then some 2
  else if 0xe0 ≤ byte ∧ byte < 0xf0 then some 3
  else if 0xf0 ≤ byte ∧ byte < 0xf8 then some 4
  else none

/-- A byte that is written as a percent sign and two digits, and what follows. -/
def readByte? : List Char → Option (Nat × List Char)
  | '%' :: c :: d :: rest => do return (← numberIn? 16 [c, d], rest)
  | _ => none

/-- Some bytes that go on with a character, and what follows them. -/
def readMoreBytes? : Nat → List Char → Option (List Nat × List Char)
  | 0, text => some ([], text)
  | count + 1, text => do
    let (byte, rest) ← readByte? text
    if byte < 0x80 ∨ 0xc0 ≤ byte then none
    else
      let (bytes, rest) ← readMoreBytes? count rest
      return (byte :: bytes, rest)

/-- The bytes of a character that is written by them, and what follows. Each byte is a character
here, which is all that the names of tags with a meaning need. -/
def readBytes? (text : List Char) : Option (List Char × List Char) := do
  let (byte, rest) ← readByte? text
  let (more, rest) ← readMoreBytes? ((← byteCount? byte) - 1) rest
  return ((byte :: more).map Char.ofNat, rest)

/-- Goes on with the name of a tag. Every step takes at least one character. -/
def tagNameLoop (alone : Bool) (fuel : Nat) (text : List Char) :
    Option (List Char × List Char) :=
  match fuel, text with
  | 0, _ => none
  | _, [] => some ([], [])
  | fuel + 1, c :: rest =>
    if c = '%' then do
      let (chars, rest) ← readBytes? (c :: rest)
      let (name, rest) ← tagNameLoop alone fuel rest
      return (chars ++ name, rest)
    else if isTagChar alone c then do
      let (name, rest) ← tagNameLoop alone fuel rest
      return (c :: name, rest)
    else some ([], c :: rest)

/-- The name of a tag at a cursor, and the cursor behind it. -/
def readTagName? (alone : Bool) (cursor : Cursor) : Option (List Char × Cursor) := do
  let (name, rest) ← tagNameLoop alone (cursor.rest.length + 1) cursor.rest
  return (name, cursor.drop (cursor.rest.length - rest.length))

/-- The handle at a cursor: an exclamation mark, a name, and another mark if there is one. -/
def readHandle (cursor : Cursor) : List Char × Cursor :=
  let name := (cursor.drop 1).rest.takeWhile isNameChar
  let ended := cursor.drop (name.length + 1)
  if ended.isAt '!' then ('!' :: name ++ ['!'], ended.drop 1) else ('!' :: name, ended)

/-- A tag in angle brackets, which is written in full. -/
def readFullTag? (cursor : Cursor) : Option (Tag × Cursor) := do
  let (name, ended) ← readTagName? true (cursor.drop 2)
  if name ≠ [] ∧ ended.isAt '>' then return (⟨"", String.ofList name⟩, ended.drop 1) else none

/-- A tag that may begin with a handle. The handle of one mark goes with a name that need not be
there; the mark alone is a tag of its own. -/
def readShortTag? (cursor : Cursor) : Option (Tag × Cursor) := do
  let (handle, behind) := readHandle cursor
  let (name, ended) ← readTagName? false behind
  if 2 ≤ handle.length ∧ handle.getLast? = some '!' then
    if name = [] then none else return (⟨String.ofList handle, String.ofList name⟩, ended)
  else
    match handle.drop 1 ++ name with
    | [] => return (⟨"", "!"⟩, ended)
    | suffix => return (⟨"!", String.ofList suffix⟩, ended)

/-- The tag at a cursor, and the cursor behind it. A gap or the end of the line follows, or, in a
flow collection, a comma. -/
def readTag? (inFlow : Bool) (cursor : Cursor) : Option (Tag × Cursor) := do
  let (tag, ended) ←
    if (cursor.drop 1).isAt '<' then readFullTag? cursor else readShortTag? cursor
  if ended.isAtSpace || (inFlow && ended.isAt ',') then return (tag, ended) else none

/-! ## Directives -/

/-- A number of at most nine digits, and the cursor behind it. -/
def readVersionNumber? (cursor : Cursor) : Option (Nat × Cursor) := do
  let digits := cursor.rest.takeWhile Char.isDigit
  if 9 < digits.length then none
  else return (← numberIn? 10 digits, cursor.drop digits.length)

/-- The version of the language, and the cursor behind it. -/
def readVersion? (cursor : Cursor) : Option (Directive × Cursor) := do
  let (major, point) ← readVersionNumber? (cursor.dropWhile isGap)
  if point.isAt '.' then
    let (minor, ended) ← readVersionNumber? (point.drop 1)
    return (.version major minor, ended)
  else none

/-- A handle and what it stands for, and the cursor behind them. -/
def readHandleDirective? (cursor : Cursor) : Option (Directive × Cursor) := do
  let begun := cursor.dropWhile isGap
  let (handle, behind) := readHandle begun
  let complete := handle = ['!'] ∨ handle.getLast? = some '!'
  if begun.isAt '!' ∧ complete ∧ behind.rest.head?.any isGap then
    let (name, ended) ← readTagName? true (behind.dropWhile isGap)
    if name ≠ [] ∧ ended.isAtSpace then
      return (.handle (String.ofList handle) (String.ofList name), ended)
    else none
  else none

/-- The directive at a cursor, and the cursor behind its line. -/
def readDirective? (cursor : Cursor) : Option (Directive × Cursor) := do
  let begun := cursor.drop 1
  let name := begun.rest.takeWhile isNameChar
  let behind := begun.drop name.length
  let (directive, ended) ←
    if ¬ behind.isAtSpace then none
    else if name = "YAML".toList then readVersion? behind
    else if name = "TAG".toList then readHandleDirective? behind
    else none
  return (directive, (← ended.dropBlankEnd?).drop 1)

end SheetFormula.Yaml
