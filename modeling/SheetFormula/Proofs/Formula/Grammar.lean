import SheetFormula.Formula.Parser
import Mathlib.Data.Nat.Notation
import Mathlib.Tactic.Common

/-!
# The grammar of formulas

The grammar as a relation between the tokens of a piece of a formula and its tree, stated rule by
rule and without a parser. Chains and suffixes are lists here: a chain is an operand and any number
of links, each an operator of the level with an operand of the next tighter level, and its tree
nests to the left.

Each piece carries a third datum, its *need*: the levels of nesting that it takes up below the
level on which it stands. Parts that are read one after the other, each one level deeper than the
one before, need the levels that `needInTurn` counts.

## Main definitions

* `SheetFormula.Formula.Phrase` — a piece of a formula: tokens, tree and need.
* `SheetFormula.Formula.Category` — the kinds of pieces.
* `SheetFormula.Formula.Link`, `Suffix` — the parts of chains and of suffixed primaries.
* `SheetFormula.Formula.Derives` — the rules of the grammar.
* `SheetFormula.Formula.DerivesFormula` — the trees that the grammar gives to whole formulas.
-/

set_option relaxedAutoImplicit false
set_option autoImplicit false

namespace SheetFormula.Formula

/-! ## Phrases -/

/-- A piece of a formula: its tokens, its tree, and the levels of nesting that it needs. -/
structure Phrase where
  tokens : List Token
  value : Expr
  need : ℕ

/-- The need of parts of which each one stands a level deeper than the one before, the first one a
level deeper than the whole. -/
def needInTurn : List ℕ → ℕ
  | [] => 0
  | need :: rest => max need (needInTurn rest) + 1

/-- The greatest need of some expressions, each of which stands a level deeper than the whole. -/
def needOfAll (phrases : List Phrase) : ℕ :=
  (phrases.map fun phrase => phrase.need + 1).foldr max 0

/-- A further operator of a chain, with its right operand. -/
structure Link where
  op : Operator
  operand : Phrase

/-- The tokens of a link. -/
def Link.tokens (link : Link) : List Token :=
  .operator link.op :: link.operand.tokens

/-- The tree of a chain that is one link longer. -/
def Link.attach (left : Expr) (link : Link) : Expr :=
  .binary link.op left link.operand.value

/-- A suffix of a primary other than the arguments of a call: a key in brackets, or the name of a
property behind a point. -/
inductive Suffix where
  | key (inside : Phrase)
  | property (token : Token) (name : String)

/-- The tokens of a suffix. -/
def Suffix.tokens : Suffix → List Token
  | .key inside => .openBracket :: inside.tokens ++ [.closeBracket]
  | .property token _ => [.dot, token]

/-- The tree of an expression with one suffix more. -/
def Suffix.attach (object : Expr) : Suffix → Expr
  | .key inside => .index object inside.value
  | .property _ name => .member object name

/-- The need of a suffix: that of the expression inside it. -/
def Suffix.need : Suffix → ℕ
  | .key inside => inside.need + 1
  | .property _ _ => 0

/-- The tokens of the arguments of a call, with commas between them. -/
noncomputable def argumentTokens (arguments : List Phrase) : List Token :=
  [Token.comma].intercalate (arguments.map Phrase.tokens)

/-! ## Words -/

/-- The names that stand for constants, and their values. -/
def constants : List (String × Expr) :=
  [("true", .boolean true), ("TRUE", .boolean true), ("false", .boolean false),
   ("FALSE", .boolean false), ("PI", .number pi), ("E", .number euler)]

/-- The names that are no constants: they stand for data, and can be called. -/
def IsFreeName (name : String) : Prop :=
  ∀ value, (name, value) ∉ constants

/-- The tokens that can name a property: names, and the operators that are words. -/
inductive NamesProperty : Token → String → Prop
  | name (name : String) : NamesProperty (.name name) name
  | and : NamesProperty (.operator .and) "and"
  | or : NamesProperty (.operator .or) "or"
  | not : NamesProperty (.operator .not) "not"

/-- The levels of operators that chains join, loosest binding first. -/
def formulaLevels : List (List Operator) :=
  [[.or],
   [.and],
   [.same, .equal, .different, .unequal, .less, .greater, .atMost, .atLeast],
   [.plus, .minus],
   [.times, .divide, .modulo]]

/-! ## The rules -/

/-- The kinds of phrases. A chain has the operators of some levels; with no level left it is a
unary. -/
inductive Category where
  | conditional
  | chain (levels : List (List Operator))
  | unary
  | power
  | access
  | primary

/-- The grammar of formulas. -/
inductive Derives : Category → Phrase → Prop
  /-- `conditional := or` -/
  | plain {condition : Phrase} (hcondition : Derives (.chain formulaLevels) condition) :
    Derives .conditional condition
  /-- `conditional := or '?' conditional ':' conditional` -/
  | choice {condition whenTrue whenFalse : Phrase}
    (hcondition : Derives (.chain formulaLevels) condition)
    (hwhenTrue : Derives .conditional whenTrue) (hwhenFalse : Derives .conditional whenFalse) :
    Derives .conditional
      { tokens := condition.tokens ++ .question :: whenTrue.tokens ++ .colon :: whenFalse.tokens
        value := .choice condition.value whenTrue.value whenFalse.value
        need := max condition.need (max whenTrue.need whenFalse.need + 1) }
  /-- A chain of no level is a unary. -/
  | operand {operand : Phrase} (hoperand : Derives .unary operand) :
    Derives (.chain []) operand
  /-- `chain := tighter (operator tighter)*` -/
  | chain {level : List Operator} {tighter : List (List Operator)} {first : Phrase}
    {links : List Link} (hfirst : Derives (.chain tighter) first)
    (hlevel : ∀ link ∈ links, link.op ∈ level)
    (hlinks : ∀ link ∈ links, Derives (.chain tighter) link.operand) :
    Derives (.chain (level :: tighter))
      { tokens := first.tokens ++ links.flatMap Link.tokens
        value := links.foldl Link.attach first.value
        need := max first.need (needInTurn (links.map fun link => link.operand.need)) }
  /-- `unary := ('-' | '+' | 'not') unary` -/
  | signed {op : Operator} {operand : Phrase} (hop : op ∈ [Operator.minus, .plus, .not])
    (hoperand : Derives .unary operand) :
    Derives .unary
      { tokens := .operator op :: operand.tokens
        value := .unary op operand.value
        need := operand.need + 1 }
  /-- `unary := power` -/
  | unsigned {phrase : Phrase} (hphrase : Derives .power phrase) :
    Derives .unary phrase
  /-- `power := access` -/
  | unraised {phrase : Phrase} (hphrase : Derives .access phrase) :
    Derives .power phrase
  /-- `power := access '^' unary` -/
  | raised {base exponent : Phrase} (hbase : Derives .access base)
    (hexponent : Derives .unary exponent) :
    Derives .power
      { tokens := base.tokens ++ .operator .power :: exponent.tokens
        value := .binary .power base.value exponent.value
        need := max base.need (exponent.need + 1) }
  /-- `access := primary ('[' conditional ']' | '.' property)*` -/
  | suffixed {head : Phrase} {suffixes : List Suffix} (hhead : Derives .primary head)
    (hkeys : ∀ key, Suffix.key key ∈ suffixes → Derives .conditional key)
    (hnames : ∀ token name, Suffix.property token name ∈ suffixes → NamesProperty token name) :
    Derives .access
      { tokens := head.tokens ++ suffixes.flatMap Suffix.tokens
        value := suffixes.foldl Suffix.attach head.value
        need := max head.need (needInTurn (suffixes.map Suffix.need)) }
  /-- `access := NAME '(' [conditional (',' conditional)*] ')'` and suffixes as above -/
  | called {name : String} {arguments : List Phrase} {suffixes : List Suffix}
    (hname : IsFreeName name) (harguments : ∀ argument ∈ arguments, Derives .conditional argument)
    (hkeys : ∀ key, Suffix.key key ∈ suffixes → Derives .conditional key)
    (hnames : ∀ token name, Suffix.property token name ∈ suffixes → NamesProperty token name) :
    Derives .access
      { tokens := .name name :: .openParen :: argumentTokens arguments ++
          .closeParen :: suffixes.flatMap Suffix.tokens
        value := suffixes.foldl Suffix.attach (.call name (arguments.map Phrase.value))
        need := needInTurn (needOfAll arguments :: suffixes.map Suffix.need) }
  /-- `primary := number` -/
  | number (value : Float) : Derives .primary ⟨[.number value], .number value, 0⟩
  /-- `primary := text` -/
  | text (value : String) : Derives .primary ⟨[.text value], .text value, 0⟩
  /-- `primary := constant` -/
  | constant {name : String} {value : Expr} (hconstant : (name, value) ∈ constants) :
    Derives .primary ⟨[.name name], value, 0⟩
  /-- `primary := variable` -/
  | reference {name : String} (hname : IsFreeName name) :
    Derives .primary ⟨[.name name], .reference name, 0⟩
  /-- `primary := '(' conditional ')'` -/
  | group {inner : Phrase} (hinner : Derives .conditional inner) :
    Derives .primary
      { tokens := .openParen :: inner.tokens ++ [.closeParen]
        value := inner.value
        need := inner.need + 1 }

/-- The trees that the grammar gives to all of some tokens. -/
def DerivesFormula (tokens : List Token) (expr : Expr) : Prop :=
  ∃ need, Derives .conditional ⟨tokens, expr, need⟩

/-! ## Small facts about phrases -/

@[simp] lemma needInTurn_nil : needInTurn [] = 0 := rfl

@[simp] lemma needInTurn_cons (need : ℕ) (rest : List ℕ) :
    needInTurn (need :: rest) = max need (needInTurn rest) + 1 := rfl

@[simp] lemma needOfAll_nil : needOfAll [] = 0 := rfl

@[simp] lemma needOfAll_cons (phrase : Phrase) (rest : List Phrase) :
    needOfAll (phrase :: rest) = max (phrase.need + 1) (needOfAll rest) := rfl

@[simp] lemma argumentTokens_nil : argumentTokens [] = [] := rfl

@[simp] lemma argumentTokens_singleton (phrase : Phrase) :
    argumentTokens [phrase] = phrase.tokens := by
  simp [argumentTokens]

@[simp] lemma argumentTokens_cons_cons (phrase second : Phrase) (rest : List Phrase) :
    argumentTokens (phrase :: second :: rest) =
      phrase.tokens ++ .comma :: argumentTokens (second :: rest) := by
  simp [argumentTokens, List.intercalate_cons_cons]

/-- A unary is a chain of any levels, without further operators. -/
lemma Derives.chain_of_unary {phrase : Phrase} (h : Derives .unary phrase)
    (levels : List (List Operator)) : Derives (.chain levels) phrase := by
  induction levels with
  | nil => exact .operand h
  | cons level tighter ih =>
    have hchain := @Derives.chain level tighter phrase [] ih (by simp) (by simp)
    simpa using hchain

end SheetFormula.Formula
