import SheetFormula.Formula.Lexer
import SheetFormula.Formula.Parser

/-!
# From text to expressions

## Main definitions

* `SheetFormula.Formula.SyntaxFailure` — a failure of one of the two steps.
* `SheetFormula.Formula.compile` — the expression of a text.
-/

set_option relaxedAutoImplicit false
set_option autoImplicit false

namespace SheetFormula.Formula

/-- Why a text is no formula: it has no tokens, or its tokens are no expression. -/
inductive SyntaxFailure where
  | lexical (failure : LexFailure)
  | grammatical (failure : ParseFailure)
  deriving Repr

/-- The wording of a failure, with its place. -/
def SyntaxFailure.message : SyntaxFailure → String
  | .lexical failure => s!"{failure.fault.message} at position {failure.position}"
  | .grammatical failure => s!"{failure.fault.message} at token {failure.position}"

/-- The expression of a text. -/
def compile (text : String) : Except SyntaxFailure Expr := do
  let tokens ← (tokenize text).mapError .lexical
  (parse tokens).mapError .grammatical

end SheetFormula.Formula
