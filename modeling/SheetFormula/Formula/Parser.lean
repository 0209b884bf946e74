import SheetFormula.Formula.Expr

/-!
# From tokens to expressions

The grammar, loosest binding first; every chain of operators nests to the left, and `^` to the
right.

* **Conditional**: a chain, then possibly `?` and two conditionals with `:` between them.
* **Chains**, level by level: `or`; `and`; comparisons; `+ -`; `* / %`.
* **Unary**: `-`, `+` or `not` before a unary; otherwise a suffixed primary, possibly with `^`
  and a unary behind it.
* **Suffixes** of a primary: arguments, where the primary is a bare name; a key in brackets; a
  property after a point.
* **Primary**: a number, a text, a name, or an expression in parentheses.

Nesting is bounded. Parentheses, keys, arguments, unary operators, branches, and each further
operator of a chain or suffix of a primary take one level for as long as they are being read.
`Grammar` holds the rules as they stand with some number of levels left, and `build` makes the
rules of one level from those of the next deeper one, so the recursion is on the levels left.

## Main definitions

* `SheetFormula.Formula.ParseFault`, `ParseFailure` — why and where tokens are no expression.
* `SheetFormula.Formula.Parsed` — what a rule read, and the tokens after it.
* `SheetFormula.Formula.Grammar` — the rules with some number of levels left.
* `SheetFormula.Formula.parse` — the expression of a sequence of tokens.
-/

set_option relaxedAutoImplicit false
set_option autoImplicit false

namespace SheetFormula.Formula

/-! ## Failures -/

/-- Why a sequence of tokens is no expression. -/
inductive ParseFault where
  | empty
  | tooDeep
  | endOfTokens
  | unexpected (token : Token)
  | trailing (token : Token)
  | noColon
  | unclosedGroup
  | unclosedArguments
  | unclosedKey
  | noProperty
  | notCallable
  deriving Repr

/-- The wording of a fault. -/
def ParseFault.message : ParseFault → String
  | .empty => "Empty expression"
  | .tooDeep => "Expression nested too deeply"
  | .endOfTokens => "Unexpected end of expression"
  | .unexpected token => "Unexpected token: " ++ token.describe
  | .trailing token => "Unexpected token after expression: Some(" ++ token.describe ++ ")"
  | .noColon => "Expected ':' in conditional expression"
  | .unclosedGroup => "Expected ')' after expression"
  | .unclosedArguments => "Expected ')' after function arguments"
  | .unclosedKey => "Expected ']' after index"
  | .noProperty => "Expected property name after '.'"
  | .notCallable => "Only named functions can be called"

/-- A fault and where it is, in tokens from the first one. -/
structure ParseFailure where
  fault : ParseFault
  position : Nat
  deriving Repr

/-- The report of a failure. -/
def ParseFailure.report (failure : ParseFailure) : String :=
  s!"Parse error at token {failure.position}: {failure.fault.message}"

/-! ## Rules -/

/-- A fault and the number of tokens that are left where it is. -/
structure Stop where
  fault : ParseFault
  left : Nat
  deriving Repr

/-- What a rule read from the head of `tokens`, and the tokens after it. -/
structure Parsed (α : Type) (tokens : List Token) where
  value : α
  rest : List Token
  shorter : rest.length < tokens.length

/-- A rule reads a value of some kind at the head of a sequence of tokens. -/
abbrev Rule (α : Type) := (tokens : List Token) → Except Stop (Parsed α tokens)

/-- A rule that goes on from what has been read. -/
abbrev Continuation := {tokens : List Token} → Parsed Expr tokens → Except Stop (Parsed Expr tokens)

/-- What was read after a first part, seen from before that part. -/
def Parsed.widen {α : Type} {tokens inner : List Token} (parsed : Parsed α inner)
    (h : inner.length ≤ tokens.length) : Parsed α tokens :=
  ⟨parsed.value, parsed.rest, Nat.lt_of_lt_of_le parsed.shorter h⟩

/-- The same tokens read as another value. -/
def Parsed.map {α β : Type} {tokens : List Token} (f : α → β) (parsed : Parsed α tokens) :
    Parsed β tokens :=
  ⟨f parsed.value, parsed.rest, parsed.shorter⟩

/-- The operators of one level of chains. -/
abbrev Level := List Operator

/-- The levels of chains, loosest binding first. -/
def levels : List Level :=
  [[.or], [.and],
   [.same, .equal, .different, .unequal, .less, .greater, .atMost, .atLeast],
   [.plus, .minus], [.times, .divide, .modulo]]

/-- The operators that may stand before their operand. -/
def unaryOperators : List Operator :=
  [.minus, .plus, .not]

/-- The rules, as they stand with a number of levels of nesting left. -/
structure Grammar where
  conditional : Rule Expr
  /-- A chain of the first of the given levels; of no level, a unary. -/
  chain : List Level → Rule Expr
  /-- The further operators of a chain of a level whose operands are chains of tighter ones. -/
  chainRest : Level → List Level → Continuation
  unary : Rule Expr
  /-- The suffixes of an expression that is a name to be called or `none`. -/
  suffixes : Option String → Continuation
  /-- A conditional one level deeper. -/
  expression : Rule Expr

/-- Goes one level deeper, if one is left, at the place with `left` tokens to come. -/
def deeper {α : Type} (nested : Option Grammar) (left : Nat)
    (go : Grammar → Except Stop α) : Except Stop α :=
  match nested with
  | none => .error ⟨.tooDeep, left⟩
  | some grammar => go grammar

/-- The tokens after an expected one. -/
def expect {α : Type} {tokens : List Token} (expected : Token → Bool) (fault : ParseFault)
    (parsed : Parsed α tokens) : Except Stop (Parsed α tokens) :=
  match h : parsed.rest with
  | [] => .error ⟨fault, 0⟩
  | token :: rest =>
    if expected token then
      .ok ⟨parsed.value, rest, by
        have := parsed.shorter
        simp only [h, List.length_cons] at this
        omega⟩
    else .error ⟨fault, (token :: rest).length⟩

/-- Whether a token closes a parenthesis. -/
def Token.closesParen : Token → Bool
  | .closeParen => true
  | _ => false

/-- Whether a token closes a bracket. -/
def Token.closesBracket : Token → Bool
  | .closeBracket => true
  | _ => false

/-- Whether a token separates the branches of a conditional. -/
def Token.isColon : Token → Bool
  | .colon => true
  | _ => false

/-! ### Primaries -/

/-- The circle constant. -/
def pi : Float := Float.ofBits 0x400921fb54442d18

/-- The base of the natural logarithm. -/
def euler : Float := Float.ofBits 0x4005bf0a8b145769

/-- The value of a name that stands for a constant. -/
def constant? (name : String) : Option Expr :=
  if name = "true" ∨ name = "TRUE" then some (.boolean true)
  else if name = "false" ∨ name = "FALSE" then some (.boolean false)
  else if name = "PI" then some (.number pi)
  else if name = "E" then some (.number euler)
  else none

/-- A name: a constant, or a reference. -/
def ofName (name : String) : Expr :=
  (constant? name).getD (.reference name)

/-- The name that a primary at the head of some tokens lets one call. -/
def callee? (tokens : List Token) : Option String :=
  match tokens with
  | .name name :: _ => if (constant? name).isNone then some name else none
  | _ => none

/-- A primary, given the rule for what stands in parentheses. -/
def primary (expression : Rule Expr) : Rule Expr
  | [] => .error ⟨.endOfTokens, 0⟩
  | .number value :: rest => .ok ⟨.number value, rest, Nat.lt_succ_self _⟩
  | .text value :: rest => .ok ⟨.text value, rest, Nat.lt_succ_self _⟩
  | .name name :: rest => .ok ⟨ofName name, rest, Nat.lt_succ_self _⟩
  | .openParen :: rest => do
    let inner ← expression rest
    let closed ← expect Token.closesParen .unclosedGroup inner
    return closed.widen (Nat.le_succ _)
  | token :: rest => .error ⟨.unexpected token, (token :: rest).length⟩

/-! ### Suffixes -/

/-- Expressions separated by commas, at least one. -/
def commaSeparated (expression : Rule Expr) (tokens : List Token) :
    Except Stop (Parsed (List Expr) tokens) := do
  let first ← expression tokens
  match h : first.rest with
  | .comma :: rest =>
    have shorter : rest.length < tokens.length := by
      have := first.shorter
      simp only [h, List.length_cons] at this
      omega
    let more ← commaSeparated expression rest
    return (more.widen (Nat.le_of_lt shorter)).map (first.value :: ·)
  | _ => return first.map ([·])
  termination_by tokens.length

/-- The arguments of a call up to and with the closing parenthesis, `tokens` being what follows
the opening one. -/
def arguments (expression : Rule Expr) : Rule (List Expr)
  | .closeParen :: rest => .ok ⟨[], rest, Nat.lt_succ_self _⟩
  | tokens => do
    let list ← commaSeparated expression tokens
    expect Token.closesParen .unclosedArguments list

/-- The name of a property at the head of some tokens. A word operator can name one, too. -/
def property : Rule String
  | [] => .error ⟨.noProperty, 0⟩
  | token :: rest =>
    match token with
    | .name name => .ok ⟨name, rest, Nat.lt_succ_self _⟩
    | .operator op =>
      if op.isWord then .ok ⟨op.text, rest, Nat.lt_succ_self _⟩
      else .error ⟨.noProperty, rest.length⟩
    | _ => .error ⟨.noProperty, rest.length⟩

/-- The suffixes of an expression. Only a bare name can be called. -/
def suffixes (nested : Option Grammar) (callee : Option String) : Continuation :=
  fun {tokens} object =>
    match h : object.rest with
    | token :: rest =>
      have shorter : rest.length ≤ tokens.length := by
        have := object.shorter
        simp only [h, List.length_cons] at this
        omega
      match token with
      | .openParen => deeper nested (rest.length + 1) fun grammar => do
        let list ← arguments grammar.expression rest
        match callee with
        | some name =>
          grammar.suffixes none ((list.widen shorter).map (.call name))
        | none => .error ⟨.notCallable, list.rest.length⟩
      | .openBracket => deeper nested (rest.length + 1) fun grammar => do
        let key ← grammar.expression rest
        let closed ← expect Token.closesBracket .unclosedKey key
        grammar.suffixes none ((closed.widen shorter).map (.index object.value))
      | .dot => deeper nested (rest.length + 1) fun grammar => do
        let name ← property rest
        grammar.suffixes none ((name.widen shorter).map (.member object.value))
      | _ => .ok object
    | [] => .ok object

/-! ### Operators and branches -/

/-- A conditional one level deeper. -/
def expression (nested : Option Grammar) : Rule Expr := fun tokens =>
  deeper nested tokens.length fun grammar => grammar.conditional tokens

/-- A primary and its suffixes. -/
def suffixed (nested : Option Grammar) : Rule Expr := fun tokens => do
  let head ← primary (expression nested) tokens
  suffixes nested (callee? tokens) head

/-- A suffixed primary, possibly raised to a power. -/
def power (nested : Option Grammar) : Rule Expr := fun tokens => do
  let base ← suffixed nested tokens
  match h : base.rest with
  | .operator .power :: rest => deeper nested rest.length fun grammar => do
    let exponent ← grammar.unary rest
    have shorter : rest.length ≤ tokens.length := by
      have := base.shorter
      simp only [h, List.length_cons] at this
      omega
    return (exponent.widen shorter).map (.binary .power base.value)
  | _ => return base

/-- An operand, possibly with operators before it. -/
def unary (nested : Option Grammar) : Rule Expr
  | .operator op :: rest =>
    if op ∈ unaryOperators then
      deeper nested rest.length fun grammar => do
        let operand ← grammar.unary rest
        return (operand.widen (Nat.le_succ _)).map (.unary op)
    else power nested (.operator op :: rest)
  | tokens => power nested tokens

/-- The further operators of a chain. -/
def chainRest (nested : Option Grammar) (level : Level) (tighter : List Level) : Continuation :=
  fun {tokens} left =>
    match h : left.rest with
    | .operator op :: rest =>
      if op ∈ level then
        deeper nested rest.length fun grammar => do
          let right ← grammar.chain tighter rest
          have shorter : rest.length ≤ tokens.length := by
            have := left.shorter
            simp only [h, List.length_cons] at this
            omega
          grammar.chainRest level tighter ((right.widen shorter).map (.binary op left.value))
      else .ok left
    | _ => .ok left

/-- A chain of the first of some levels; of no level, a unary. -/
def chain (nested : Option Grammar) : List Level → Rule Expr
  | [] => unary nested
  | level :: tighter => fun tokens => do
    let first ← chain nested tighter tokens
    chainRest nested level tighter first

/-- A chain, possibly as the condition of two branches. -/
def conditional (nested : Option Grammar) : Rule Expr := fun tokens => do
  let condition ← chain nested levels tokens
  match h : condition.rest with
  | .question :: rest => deeper nested rest.length fun grammar => do
    let whenTrue ← grammar.conditional rest
    let separated ← expect Token.isColon .noColon whenTrue
    let whenFalse ← grammar.conditional separated.rest
    have shorter : separated.rest.length ≤ tokens.length := by
      have hcondition := condition.shorter
      have hseparated := separated.shorter
      simp only [h, List.length_cons] at hcondition
      omega
    return (whenFalse.widen shorter).map (.choice condition.value separated.value)
  | _ => return condition

/-! ## The grammar -/

/-- The rules of one level, given those of the next deeper one. -/
def build (nested : Option Grammar) : Grammar :=
  { conditional := conditional nested
    chain := chain nested
    chainRest := chainRest nested
    unary := unary nested
    suffixes := suffixes nested
    expression := expression nested }

/-- The rules with a number of levels left. -/
def grammar : Nat → Grammar
  | 0 => build none
  | left + 1 => build (some (grammar left))

/-- The number of levels that an expression may nest. -/
def maxDepth : Nat := 128

/-- The expression that takes up all of some tokens. -/
def parseAll (tokens : List Token) : Except Stop Expr :=
  match tokens with
  | [] => .error ⟨.empty, 0⟩
  | tokens => do
    let parsed ← (grammar maxDepth).expression tokens
    match parsed.rest with
    | [] => return parsed.value
    | token :: rest => .error ⟨.trailing token, (token :: rest).length⟩

/-- The expression of a sequence of tokens. -/
def parse (tokens : List Token) : Except ParseFailure Expr :=
  (parseAll tokens).mapError fun stop => ⟨stop.fault, tokens.length - stop.left⟩

end SheetFormula.Formula
