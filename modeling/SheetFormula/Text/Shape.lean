import SheetFormula.Text.Blank
import SheetFormula.Text.Digit

/-!
# Shapes of text

A shape describes how a text may begin, character class by character class. It gives all the ways
in which the text can go on behind it, so that choices in a shape need no order: a text has a
shape as a whole when one of the ways is to be at the end.

## Main definitions

* `SheetFormula.Text.Shape` — shapes, as functions to the possible remainders.
* `SheetFormula.Text.Shape.spans` — a shape that a text has as a whole.
* `SheetFormula.Text.Shape.begins` — a shape that a text has at its head.

## Main results

* `SheetFormula.Text.Shape.mem_andThen`, `mem_orElse` — the remainders of compound shapes.
-/

set_option relaxedAutoImplicit false
set_option autoImplicit false

namespace SheetFormula.Text

/-- A shape: the remainders of a text behind all its beginnings of that shape. -/
abbrev Shape := List Char → List (List Char)

namespace Shape

/-- One character of a class. -/
def one (accepts : Char → Bool) : Shape
  | [] => []
  | c :: rest => if accepts c then [rest] else []

/-- One given character. -/
def char (c : Char) : Shape :=
  one (· == c)

/-- One shape behind another. -/
def andThen (first second : Shape) : Shape := fun text =>
  (first text).flatMap second

/-- One of two shapes. -/
def orElse (first second : Shape) : Shape := fun text =>
  first text ++ second text

/-- A shape or nothing. -/
def optional (shape : Shape) : Shape := fun text =>
  text :: shape text

/-- A fixed number of characters of a class. -/
def times (accepts : Char → Bool) : Nat → Shape
  | 0 => fun text => [text]
  | n + 1 => andThen (one accepts) (times accepts n)

/-- A number of characters of a class up to a limit. -/
def upTo (accepts : Char → Bool) : Nat → Shape
  | 0 => fun text => [text]
  | n + 1 => optional (andThen (one accepts) (upTo accepts n))

/-- Any number of characters of a class. -/
def any (accepts : Char → Bool) : Shape
  | [] => [[]]
  | c :: rest => (c :: rest) :: if accepts c then any accepts rest else []

/-- At least one character of a class. -/
def some (accepts : Char → Bool) : Shape :=
  andThen (one accepts) (any accepts)

/-- Decimal digits of any script, `n` of them. -/
def digits (n : Nat) : Shape :=
  times isDecimalDigit n

/-- One or two decimal digits of any script. -/
def oneOrTwoDigits : Shape :=
  andThen (digits 1) (upTo isDecimalDigit 1)

/-- Shapes one behind the other. -/
def sequence (shapes : List Shape) : Shape :=
  shapes.foldr andThen fun text => [text]

/-- The end of a text. -/
def atEnd : Shape
  | [] => [[]]
  | _ => []

/-- Whether a text has a shape as a whole. -/
def spans (shape : Shape) (text : List Char) : Bool :=
  (shape text).any List.isEmpty

/-- Whether a text has a shape at its head. -/
def begins (shape : Shape) (text : List Char) : Bool :=
  !(shape text).isEmpty

/-- The remainders behind two shapes are those of the second behind those of the first. -/
theorem mem_andThen {first second : Shape} {text rest : List Char} :
    rest ∈ andThen first second text ↔ ∃ middle ∈ first text, rest ∈ second middle := by
  simp [andThen]

/-- The remainders behind one of two shapes are those behind either. -/
theorem mem_orElse {first second : Shape} {text rest : List Char} :
    rest ∈ orElse first second text ↔ rest ∈ first text ∨ rest ∈ second text := by
  simp [orElse]

end Shape

end SheetFormula.Text
