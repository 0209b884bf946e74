import SheetFormula.Amount.Format
import SheetFormula.Number.Numeral
import SheetFormula.Text.Shape

/-!
# Reading amounts

Data often holds numbers as text, written for people: `1.234,56`, `12 345,67`, `10,99`. Such text
is read as a number where that is safe. Text that looks like a date stays text, and so does every
text whose marks do not form a correct amount.

An amount is cut at its separators into groups of digits; a run of white space is one separator.
Then the decimal mark is found, the groups before it are checked, and the digits are read.

* **The decimal mark.** If both marks occur, the last one is the decimal mark. A mark that occurs
  twice or more is not. A single mark is the decimal mark, unless it is the grouping mark of the
  format, no space occurs, and exactly three digits follow it.
* **Grouping.** The decimal mark is the last separator and occurs once. Before it stand either any
  number of digits, or groups of three behind a first one of one to three digits, divided by one
  kind of separator.

## Main definitions

* `SheetFormula.Amount.looksLikeDate` — the texts that are left to the readers of dates.
* `SheetFormula.Amount.Group`, `SheetFormula.Amount.groups` — the digits between separators.
* `SheetFormula.Amount.decimalMark?` — the mark before the fraction.
* `SheetFormula.Amount.read?` — the number that a text is read as.
-/

set_option relaxedAutoImplicit false
set_option autoImplicit false

namespace SheetFormula.Amount

open SheetFormula.Text (Shape isBlank isDecimalDigit trim trimStart)

/-! ## Texts that look like dates -/

/-- A time of day without seconds or with them, behind white space. -/
def timeShape : Shape :=
  Shape.sequence
    [Shape.some isBlank, Shape.oneOrTwoDigits, Shape.char ':', Shape.digits 2,
     Shape.optional (Shape.andThen (Shape.char ':') (Shape.digits 2))]

/-- A day, a month and a year of two or four digits with a mark between them, and possibly a time
of day. -/
def dayFirstShape (mark : Char) : Shape :=
  Shape.sequence
    [Shape.oneOrTwoDigits, Shape.char mark, Shape.oneOrTwoDigits, Shape.char mark,
     Shape.orElse (Shape.digits 4) (Shape.digits 2), Shape.optional timeShape]

/-- A year of four digits, a month and a day, as all of a text or as its beginning. -/
def yearFirstShape : Shape :=
  Shape.sequence
    [Shape.digits 4, Shape.one fun c => c == '-' || c == '/' || c == ' ', Shape.oneOrTwoDigits,
     Shape.one fun c => c == '-' || c == '/', Shape.oneOrTwoDigits]

/-- Whether a text, but for white space around it, looks like a date. -/
def looksLikeDate (text : List Char) : Bool :=
  let trimmed := trim text
  (dayFirstShape '.').spans trimmed || (dayFirstShape '/').spans trimmed ||
    yearFirstShape.begins trimmed

/-! ## Texts that look like amounts -/

/-- The characters of an amount behind its sign: digits of all scripts, white space, and the two
marks. -/
def isAmountChar (c : Char) : Bool :=
  isDecimalDigit c || isBlank c || NumberFormat.isMark c

/-- Whether a text consists of the characters of amounts, possibly behind a minus sign. -/
def hasAmountChars (text : List Char) : Bool :=
  match text with
  | '-' :: rest => !rest.isEmpty && rest.all isAmountChar
  | other => !other.isEmpty && other.all isAmountChar

/-! ## Groups -/

/-- A run of ASCII digits, possibly empty, and the separator that ends it; a space stands for all
white space. The last group of a text has none. -/
structure Group where
  digits : List Char
  separator : Option Char
  deriving Repr, DecidableEq

/-- The groups of a text, given the digits of the first one so far, the last one first. The white
space of a run after its first character is skipped. -/
def groupsFrom (digits : List Char) (inSpace : Bool) : List Char → List Group
  | [] => [⟨digits.reverse, none⟩]
  | c :: rest =>
    if c.isDigit then groupsFrom (c :: digits) false rest
    else if isBlank c then
      if inSpace then groupsFrom digits true rest
      else ⟨digits.reverse, some ' '⟩ :: groupsFrom [] true rest
    else ⟨digits.reverse, some c⟩ :: groupsFrom [] false rest

/-- The groups of a text. -/
def groups (text : List Char) : List Group :=
  groupsFrom [] false text

/-- Whether a group other than the first and the last one has no digits: two separators stand
next to each other. -/
def hasInnerGap (groups : List Group) : Bool :=
  (groups.drop 1).dropLast.any fun group => group.digits.isEmpty

/-- The separators of the groups, in order. -/
def separators (groups : List Group) : List Char :=
  groups.filterMap Group.separator

/-! ## The decimal mark -/

/-- The number of digits behind the first separator that is a given mark. -/
def digitsBehind? (mark : Char) : List Group → Option Nat
  | group :: next :: rest =>
    if group.separator = some mark then some next.digits.length
    else digitsBehind? mark (next :: rest)
  | _ => none

/-- The mark before the fraction, if there is one. -/
def decimalMark? (format : NumberFormat) (groups : List Group) : Option Char :=
  let marks := separators groups
  let points := marks.count '.'
  let commas := marks.count ','
  if 0 < points ∧ 0 < commas then marks.reverse.find? (· ≠ ' ')
  else if points + commas ≠ 1 then none
  else
    let mark := if 0 < points then '.' else ','
    if ' ' ∉ marks ∧ mark = format.thousands ∧ digitsBehind? mark groups = some 3 then none
    else some mark

/-! ## The groups before the decimal mark -/

/-- Whether two neighbouring separators between groups can stand in one amount. -/
def agree (first second : Char) : Bool :=
  first == second || first == ' ' || second == ' '

/-- Whether each separator agrees with the next one. -/
def allAgree : List Char → Bool
  | first :: second :: rest => agree first second && allAgree (second :: rest)
  | _ => true

/-- Whether digits are grouped correctly: groups of three behind a first one of one to three
digits. A single group may have any number of digits. -/
def wellGrouped (groups : List Group) : Bool :=
  match groups with
  | first :: second :: rest =>
    decide (1 ≤ first.digits.length) && decide (first.digits.length ≤ 3) &&
      (second :: rest).all (fun group => group.digits.length == 3) &&
      allAgree (separators (first :: second :: rest).dropLast)
  | _ => true

/-- The groups of the whole part and the digits of the fraction, if the decimal mark occurs once
and as the last separator. -/
def splitAt? (mark : Option Char) (groups : List Group) : Option (List Group × List Char) :=
  match mark with
  | none => some (groups, [])
  | some mark =>
    if (separators groups).count mark = 1 ∧ (separators groups).getLast? = some mark then
      some (groups.dropLast, (groups.getLast?.map Group.digits).getD [])
    else none

/-- The digits before and after the decimal mark of an amount without sign. -/
def parts? (format : NumberFormat) (text : List Char) : Option (List Char × List Char) := do
  let all := groups text
  if hasInnerGap all then none
  else
    let mark := decimalMark? format all
    let (wholeGroups, fraction) ← splitAt? mark all
    let whole := wholeGroups.flatMap Group.digits
    if wellGrouped wholeGroups ∧ whole ++ fraction ≠ [] then some (whole, fraction) else none

/-! ## Amounts -/

/-- The number that an amount is read as, white space around it being cut off. -/
def readTrimmed? (format : NumberFormat) (text : List Char) : Option Float :=
  let (negative, body) := match text with
    | '-' :: rest => (true, trimStart rest)
    | other => (false, other)
  (parts? format body).map fun (whole, fraction) => Number.ofParts negative whole fraction 0

/-- The number that a text is read as. There is none if the text must stay as it is: it has no
ASCII digit, looks like a date, holds other characters, or is not an amount. -/
def read? (format : NumberFormat) (text : String) : Option Float :=
  let trimmed := trim text.toList
  if trimmed.any Char.isDigit ∧ ¬ looksLikeDate trimmed ∧ hasAmountChars trimmed then
    (readTrimmed? format trimmed).filter Float.isFinite
  else none

end SheetFormula.Amount
