import SheetFormula.Number.Layout
import SheetFormula.Text.Quoted

/-!
# Tokens of a formula

A formula is a sequence of tokens: numbers, text literals, names, operators and marks. The
operators that have a word and a sign form (`and` and `&&`) are one operator.

## Main definitions

* `SheetFormula.Formula.Operator` — the operators of formulas.
* `SheetFormula.Formula.Token` — the tokens of formulas.
* `SheetFormula.Formula.Token.describe` — how a message names a token.
-/

set_option relaxedAutoImplicit false
set_option autoImplicit false

namespace SheetFormula.Formula

open SheetFormula.Number (Layout)

/-- The operators of formulas. There are two signs for equality and two for its opposite. -/
inductive Operator where
  | plus
  | minus
  | times
  | divide
  | modulo
  | power
  | equal
  | same
  | different
  | unequal
  | less
  | greater
  | atMost
  | atLeast
  | and
  | or
  | not
  deriving Repr, DecidableEq

/-- The normal spelling of an operator. -/
def Operator.text : Operator → String
  | .plus => "+"
  | .minus => "-"
  | .times => "*"
  | .divide => "/"
  | .modulo => "%"
  | .power => "^"
  | .equal => "="
  | .same => "=="
  | .different => "!="
  | .unequal => "<>"
  | .less => "<"
  | .greater => ">"
  | .atMost => "<="
  | .atLeast => ">="
  | .and => "and"
  | .or => "or"
  | .not => "not"

/-- Whether the normal spelling of an operator is a word, so that it can name a property. -/
def Operator.isWord : Operator → Bool
  | .and | .or | .not => true
  | _ => false

/-- The tokens of formulas. -/
inductive Token where
  | number (value : Float)
  | text (value : String)
  | name (value : String)
  | operator (op : Operator)
  | openParen
  | closeParen
  | openBracket
  | closeBracket
  | comma
  | dot
  | question
  | colon
  deriving Repr

/-- Numbers inside messages about tokens always show a fraction or an exponent. -/
def tokenLayout : Layout :=
  { lowest := -4, highest := 15, afterWhole := ".0", exponentSign := "", signedZero := true,
    tie := .up, notANumber := "NaN", infinite := "inf" }

/-- How a message names a token. -/
def Token.describe : Token → String
  | .number value => "Number(" ++ tokenLayout.write value ++ ")"
  | .text value => "Text(" ++ Text.quoted value ++ ")"
  | .name value => "Identifier(" ++ Text.quoted value ++ ")"
  | .operator op => "Operator(" ++ Text.quoted op.text ++ ")"
  | .openParen => "OpenParen"
  | .closeParen => "CloseParen"
  | .openBracket => "OpenBracket"
  | .closeBracket => "CloseBracket"
  | .comma => "Comma"
  | .dot => "Dot"
  | .question => "Question"
  | .colon => "Colon"

end SheetFormula.Formula
