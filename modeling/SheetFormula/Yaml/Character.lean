/-!
# Characters of YAML texts

The classes of characters that the reading of YAML rests on. A line ends with a line feed, a
carriage return, both of them, or the next-line control; in a scalar each of these counts as a line
feed. The line and the paragraph separator end lines too, but stand for themselves.

## Main definitions

* `SheetFormula.Yaml.isAllowed` — the characters that a text may have.
* `SheetFormula.Yaml.unifiedBreaks` — a text whose lines end in one way.
* `SheetFormula.Yaml.isGap`, `isBreak`, `isGapOrBreak` — spaces and the ends of lines.
-/

set_option relaxedAutoImplicit false
set_option autoImplicit false

namespace SheetFormula.Yaml

/-- A character that may stand in a text: not a control, except for those that set tabs and end
lines, and no code point that is no character. -/
def isAllowed (c : Char) : Bool :=
  let n := c.toNat
  n == 0x09 || n == 0x0a || n == 0x0d || (0x20 ≤ n && n ≤ 0x7e) || n == 0x85 ||
    (0xa0 ≤ n && n ≤ 0xfffd) || 0x10000 ≤ n

/-- A text in which a line feed stands for every end of a line that counts as one. -/
def unifiedBreaks : List Char → List Char
  | [] => []
  | '\r' :: '\n' :: rest => '\n' :: unifiedBreaks rest
  | c :: rest => (if c = '\r' ∨ c = '\u0085' then '\n' else c) :: unifiedBreaks rest

/-- A space or tab. -/
def isGap (c : Char) : Bool :=
  c == ' ' || c == '\t'

/-- The end of a line, in a text with unified breaks. -/
def isBreak (c : Char) : Bool :=
  c == '\n' || c == '\u2028' || c == '\u2029'

/-- A space, a tab or the end of a line. -/
def isGapOrBreak (c : Char) : Bool :=
  isGap c || isBreak c

/-- The mark of the byte order, which does not count at the head of a line. -/
def byteOrderMark : Char := '\ufeff'

/-- A character of the names of anchors, tags and directives. -/
def isNameChar (c : Char) : Bool :=
  c.isAlphanum || c == '_' || c == '-'

/-- A character with a meaning of its own in flow collections. -/
def isFlowMark (c : Char) : Bool :=
  c == ',' || c == '[' || c == ']' || c == '\x7b' || c == '\x7d'

/-- A character that begins no scalar without quotes. -/
def isIndicator (c : Char) : Bool :=
  isFlowMark c || c == '#' || c == '&' || c == '*' || c == '!' || c == '|' || c == '>' ||
    c == '\'' || c == '"' || c == '%' || c == '@' || c == '\x60'

/-- The value of a digit in a base of at most sixteen. -/
def digitIn? (base : Nat) (c : Char) : Option Nat :=
  let value :=
    if c.isDigit then c.toNat - 48
    else if 'a' ≤ c ∧ c ≤ 'f' then c.toNat - 87
    else if 'A' ≤ c ∧ c ≤ 'F' then c.toNat - 55
    else base
  if value < base then some value else none

/-- The number that digits write in a base. -/
def numberIn? (base : Nat) (digits : List Char) : Option Nat :=
  if digits = [] then none
  else digits.foldlM (fun value c => (digitIn? base c).map (base * value + ·)) 0

end SheetFormula.Yaml
