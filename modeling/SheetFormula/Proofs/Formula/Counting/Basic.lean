import SheetFormula.Formula.Parser
import SheetFormula.Proofs.Formula.Grammar
import Mathlib.Data.Nat.Notation
import Mathlib.Tactic.Common

/-!
# A parser that counts

The rules of the parser again, as routines over one mutable state: how many tokens have been taken,
and how many levels the reading has gone down. Nothing is handed from routine to routine but trees.
A routine moves forward token by token. It goes down a level before it reads something nested, and
up again when that is done; loops go down a level for each turn, and all the way up at their end.
A count that would have to fall below zero stops the reading.

The state also keeps a note of each call of a routine that has returned a tree. The notes outlive a
failure, so they tell of all such calls of a reading, however it ends.

Routines call each other without a measure that Lean could see, so what is defined here is the least
fixed point of their equations, and a reading may have no outcome at all. That it always has one is
a theorem.

## Main definitions

* `SheetFormula.Formula.Counting.Routine` — the routines that return trees.
* `SheetFormula.Formula.Counting.Place`, `Call`, `State` — what is counted and noted.
* `SheetFormula.Formula.Counting.Reading` — what routines are made of.
* `SheetFormula.Formula.Counting.Tokens.run` — a call of a routine.
* `SheetFormula.Formula.Counting.Tokens.parse` — the tree of all of some tokens.

## Main results

* `SheetFormula.Formula.Counting.call_mem_calls_of_run` — every call that returns is noted.
-/

set_option relaxedAutoImplicit false
set_option autoImplicit false

namespace SheetFormula.Formula

/-- Whether a token begins branches. -/
def Token.isQuestion : Token → Bool
  | .question => true
  | _ => false

/-- Whether a token separates arguments. -/
def Token.isComma : Token → Bool
  | .comma => true
  | _ => false

/-- Whether a token is a name. -/
def Token.isName : Token → Bool
  | .name _ => true
  | _ => false

/-- The only token that begins branches. -/
lemma eq_question {token : Token} (h : token.isQuestion) : token = .question := by
  cases token <;> first | rfl | cases h

/-- The only token that separates arguments. -/
lemma eq_comma {token : Token} (h : token.isComma) : token = .comma := by
  cases token <;> first | rfl | cases h

namespace Counting

/-! ## States -/

/-- The tokens of a formula. -/
abbrev Tokens := List Token

/-- The routines that return a tree: one for each category of the grammar, and one for conditionals
that stand one level deeper. -/
inductive Routine where
  | expression
  | phrase (category : Category)

/-- How far a reading has come: the number of tokens taken, and of levels gone down. -/
structure Place where
  position : ℕ
  depth : ℕ

/-- A call of a routine that has returned a tree. -/
structure Call where
  routine : Routine
  entered : Place
  returned : Place
  tree : Expr

/-- The state of a reading: its place, and its calls, the last one to return first. -/
structure State where
  place : Place
  calls : List Call

/-- Where a reading begins. -/
def State.initial : State :=
  ⟨⟨0, 0⟩, []⟩

/-- Why a reading stops before its end: the tokens are no expression, or a count would have to fall
below zero. -/
inductive Halt where
  | fault (failure : ParseFailure)
  | underflow

/-- A reading changes the state, and ends with a value or a halt, if at all. -/
abbrev Reading (α : Type) := ExceptT Halt (StateT State Option) α

/-- How a reading ends that begins in some state. -/
def Reading.outcome {α : Type} (reading : Reading α) (state : State) :
    Option (Except Halt α × State) :=
  (ExceptT.run reading).run state

/-! ## Steps -/

/-- The place of the reading. -/
def here : Reading Place := do
  return (← get).place

/-- Goes to a place. -/
def moveTo (place : Place) : Reading Unit :=
  modify fun state => { state with place }

/-- Stops with a fault at the place of the reading. -/
def fail {α : Type} (fault : ParseFault) : Reading α := do
  throw (.fault ⟨fault, (← here).position⟩)

/-- Notes a call that returns. -/
def note (routine : Routine) (entered : Place) (tree : Expr) : Reading Unit :=
  modify fun state => { state with calls := ⟨routine, entered, state.place, tree⟩ :: state.calls }

/-- Goes down a level. -/
def descend : Reading Unit := do
  let place ← here
  moveTo { place with depth := place.depth + 1 }
  if maxDepth < place.depth + 1 then fail .tooDeep

/-- Goes up some levels. -/
def ascend (levels : ℕ) : Reading Unit := do
  let place ← here
  if place.depth < levels then throw .underflow
  else moveTo { place with depth := place.depth - levels }

section

variable (tokens : Tokens)

/-- The next token. -/
def Tokens.peek : Reading (Option Token) := do
  return tokens[(← here).position]?

/-- Takes the next token, if there is one; the value is the last token that has been taken. -/
def Tokens.advance : Reading (Option Token) := do
  let place ← here
  if place.position < tokens.length then
    moveTo { place with position := place.position + 1 }
  match (← here).position with
  | 0 => throw .underflow
  | before + 1 => return tokens[before]?

/-- Takes the next token if it is an expected one. -/
def Tokens.matchToken (expected : Token → Bool) : Reading Bool := do
  match ← tokens.peek with
  | some token =>
    if expected token then
      let _ ← tokens.advance
      return true
    else return false
  | none => return false

/-- Takes an expected token. -/
def Tokens.expectToken (expected : Token → Bool) (fault : ParseFault) : Reading Unit := do
  if ← tokens.matchToken expected then return () else fail fault

/-- Takes the next token if it is one of some operators. -/
def Tokens.matchOperator (ops : List Operator) : Reading (Option Operator) := do
  match ← tokens.peek with
  | some (.operator op) =>
    if op ∈ ops then
      let _ ← tokens.advance
      return some op
    else return none
  | _ => return none

/-- Takes the name of a property. A word operator can name one, too. -/
def Tokens.property : Reading String := do
  match ← tokens.advance with
  | some (.name name) => return name
  | some (.operator op) => if op.isWord then return op.text else fail .noProperty
  | _ => fail .noProperty

end

/-! ## Routines

Routines are called through a pipe, so that their calls stand out from the steps. -/

/-- A tree that a loop has built, and the levels that the loop has gone down. -/
structure Grown where
  tree : Expr
  levels : ℕ

mutual

/-- Calls a routine, and notes the call when it returns. -/
def Tokens.run (tokens : Tokens) (routine : Routine) : Reading Expr := do
  let entered ← here
  let tree ← tokens |>.body routine
  note routine entered tree
  return tree
partial_fixpoint

/-- What a routine does. -/
def Tokens.body (tokens : Tokens) (routine : Routine) : Reading Expr :=
  match routine with
  | .expression => tokens |>.expression
  | .phrase .conditional => tokens |>.conditional
  | .phrase (.chain levels) => tokens |>.chain levels
  | .phrase .unary => tokens |>.unary
  | .phrase .power => tokens |>.power
  | .phrase .access => tokens |>.access
  | .phrase .primary => tokens |>.primary
partial_fixpoint

/-- A conditional one level deeper. -/
def Tokens.expression (tokens : Tokens) : Reading Expr := do
  descend
  let tree ← tokens |>.run (.phrase .conditional)
  ascend 1
  return tree
partial_fixpoint

/-- A chain, possibly as the condition of two branches. -/
def Tokens.conditional (tokens : Tokens) : Reading Expr := do
  let condition ← tokens |>.run (.phrase (.chain levels))
  if ← tokens.matchToken Token.isQuestion then
    descend
    let whenTrue ← tokens |>.run (.phrase .conditional)
    tokens.expectToken Token.isColon .noColon
    let whenFalse ← tokens |>.run (.phrase .conditional)
    ascend 1
    return .choice condition whenTrue whenFalse
  else return condition
partial_fixpoint

/-- A chain of the first of some levels; of no level, a unary. -/
def Tokens.chain (tokens : Tokens) (levels : List Level) : Reading Expr :=
  match levels with
  | [] => tokens |>.run (.phrase .unary)
  | level :: tighter => do
    let first ← tokens |>.run (.phrase (.chain tighter))
    let grown ← tokens |>.chainLoop level tighter ⟨first, 0⟩
    ascend grown.levels
    return grown.tree
partial_fixpoint

/-- The further operators of a chain, a level deeper for each. -/
def Tokens.chainLoop (tokens : Tokens) (level : Level) (tighter : List Level) (left : Grown) :
    Reading Grown := do
  match ← tokens.matchOperator level with
  | some op =>
    descend
    let right ← tokens |>.run (.phrase (.chain tighter))
    tokens |>.chainLoop level tighter ⟨.binary op left.tree right, left.levels + 1⟩
  | none => return left
partial_fixpoint

/-- An operand, possibly with operators before it. -/
def Tokens.unary (tokens : Tokens) : Reading Expr := do
  match ← tokens.matchOperator unaryOperators with
  | some op =>
    descend
    let operand ← tokens |>.run (.phrase .unary)
    ascend 1
    return .unary op operand
  | none => tokens |>.run (.phrase .power)
partial_fixpoint

/-- A suffixed primary, possibly raised to a power. -/
def Tokens.power (tokens : Tokens) : Reading Expr := do
  let base ← tokens |>.run (.phrase .access)
  match ← tokens.matchOperator [.power] with
  | some op =>
    descend
    let exponent ← tokens |>.run (.phrase .unary)
    ascend 1
    return .binary op base exponent
  | none => return base
partial_fixpoint

/-- A primary and its suffixes. -/
def Tokens.access (tokens : Tokens) : Reading Expr := do
  let callable := (← tokens.peek).any Token.isName
  let head ← tokens |>.run (.phrase .primary)
  let grown ← tokens |>.suffixLoop callable ⟨head, 0⟩
  ascend grown.levels
  return grown.tree
partial_fixpoint

/-- The suffixes of an expression, a level deeper for each. Only a bare name can be called. -/
def Tokens.suffixLoop (tokens : Tokens) (callable : Bool) (object : Grown) : Reading Grown := do
  match ← tokens.peek with
  | some .openParen =>
    descend
    let _ ← tokens.advance
    let list ← tokens |>.arguments
    tokens.expectToken Token.closesParen .unclosedArguments
    match callable, object.tree with
    | true, .reference name => tokens |>.suffixLoop callable ⟨.call name list, object.levels + 1⟩
    | _, _ => fail .notCallable
  | some .openBracket =>
    descend
    let _ ← tokens.advance
    let key ← tokens |>.run .expression
    tokens.expectToken Token.closesBracket .unclosedKey
    tokens |>.suffixLoop false ⟨.index object.tree key, object.levels + 1⟩
  | some .dot =>
    descend
    let _ ← tokens.advance
    let name ← tokens.property
    tokens |>.suffixLoop false ⟨.member object.tree name, object.levels + 1⟩
  | _ => return object
partial_fixpoint

/-- The arguments of a call, up to the closing parenthesis. -/
def Tokens.arguments (tokens : Tokens) : Reading (List Expr) := do
  match ← tokens.peek with
  | some .closeParen => return []
  | _ =>
    let first ← tokens |>.run .expression
    tokens |>.argumentLoop [first]
partial_fixpoint

/-- The further arguments of a call. -/
def Tokens.argumentLoop (tokens : Tokens) (list : List Expr) : Reading (List Expr) := do
  if ← tokens.matchToken Token.isComma then
    let next ← tokens |>.run .expression
    tokens |>.argumentLoop (list ++ [next])
  else return list
partial_fixpoint

/-- A number, a text, a name, or an expression in parentheses. -/
def Tokens.primary (tokens : Tokens) : Reading Expr := do
  match ← tokens.peek with
  | some (.number value) =>
    let _ ← tokens.advance
    return .number value
  | some (.text value) =>
    let _ ← tokens.advance
    return .text value
  | some (.name name) =>
    let _ ← tokens.advance
    return ofName name
  | some .openParen =>
    let _ ← tokens.advance
    let inner ← tokens |>.run .expression
    tokens.expectToken Token.closesParen .unclosedGroup
    return inner
  | some token => fail (.unexpected token)
  | none => fail .endOfTokens
partial_fixpoint

end

/-- The expression that takes up all of the tokens. -/
def Tokens.parse (tokens : Tokens) : Reading Expr := do
  if tokens.isEmpty then fail .empty
  let tree ← tokens |>.run .expression
  match ← tokens.peek with
  | some token => fail (.trailing token)
  | none => return tree

/-! ## Outcomes -/

section

variable {α β : Type} {state state' : State}

/-- A reading goes on from where its first part has ended. -/
lemma outcome_bind_of_ok {first : Reading α} {next : α → Reading β} {value : α}
    (h : first.outcome state = some (.ok value, state')) :
    (first >>= next).outcome state = (next value).outcome state' := by
  have hrun : first state = some (.ok value, state') := h
  simp [Reading.outcome, bind, ExceptT.run, ExceptT.bind, ExceptT.mk, StateT.run, StateT.bind,
    hrun, ExceptT.bindCont]

/-- A reading ends where its first part halts. -/
lemma outcome_bind_of_error {first : Reading α} {next : α → Reading β} {halt : Halt}
    (h : first.outcome state = some (.error halt, state')) :
    (first >>= next).outcome state = some (.error halt, state') := by
  have hrun : first state = some (.error halt, state') := h
  have hend : (pure (.error halt) : StateT State Option (Except Halt β)) state' =
      some (.error halt, state') := rfl
  simp [Reading.outcome, bind, ExceptT.run, ExceptT.bind, ExceptT.mk, StateT.run, StateT.bind,
    hrun, ExceptT.bindCont, hend]

/-- A reading that ends with a value has got through its first part. -/
lemma of_outcome_bind {first : Reading α} {next : α → Reading β} {value : β}
    (h : (first >>= next).outcome state = some (.ok value, state')) :
    ∃ part middle, first.outcome state = some (.ok part, middle) ∧
      (next part).outcome middle = some (.ok value, state') := by
  cases hfirst : first.outcome state with
  | none =>
    have hrun : first state = none := hfirst
    simp [Reading.outcome, bind, ExceptT.run, ExceptT.bind, ExceptT.mk, StateT.run, StateT.bind,
      hrun] at h
  | some ended =>
    obtain ⟨result, middle⟩ := ended
    cases result with
    | error halt =>
      rw [outcome_bind_of_error hfirst] at h
      cases h
    | ok part =>
      rw [outcome_bind_of_ok hfirst] at h
      exact ⟨part, middle, rfl, h⟩

end

/-- **Every call that returns is noted**, with its place and tree. -/
theorem call_mem_calls_of_run {tokens : Tokens} {routine : Routine} {state final : State}
    {tree : Expr} (h : (tokens.run routine).outcome state = some (.ok tree, final)) :
    ⟨routine, state.place, final.place, tree⟩ ∈ final.calls := by
  rw [Tokens.run] at h
  obtain ⟨entered, start, hstart, h⟩ := of_outcome_bind h
  obtain ⟨value, middle, -, h⟩ := of_outcome_bind h
  obtain ⟨_, noted, hnote, h⟩ := of_outcome_bind h
  cases hstart
  cases hnote
  cases h
  exact List.mem_cons_self

/-! ## Steps from place to place -/

/-- A reading ends with a value at another place, and notes nothing. -/
def Passes {α : Type} (reading : Reading α) (place : Place) (value : α) (place' : Place) : Prop :=
  ∀ calls, reading.outcome ⟨place, calls⟩ = some (.ok value, ⟨place', calls⟩)

/-- The place in front of the last tokens `rest`, some levels down. -/
def standing (tokens : Tokens) (rest : List Token) (depth : ℕ) : Place :=
  ⟨tokens.length - rest.length, depth⟩

variable {α β : Type} {tokens : Tokens} {rest : List Token} {token : Token} {depth : ℕ}

/-- Steps follow each other. -/
lemma Passes.bind {first : Reading α} {next : α → Reading β} {place place' place'' : Place}
    {value : α} {value' : β} (hfirst : Passes first place value place')
    (hnext : Passes (next value) place' value' place'') :
    Passes (first >>= next) place value' place'' :=
  fun calls => (outcome_bind_of_ok (hfirst calls)).trans (hnext calls)

/-- A value is returned where the reading stands. -/
lemma passes_pure (value : α) (place : Place) : Passes (pure value) place value place :=
  fun _ => rfl

/-- The token at the place in front of some last tokens is the first one of them. -/
lemma getElem?_standing (h : rest <:+ tokens) :
    tokens[(standing tokens rest depth).position]? = rest.head? := by
  obtain ⟨before, rfl⟩ := h
  cases rest <;> simp [standing]

/-- The next token is the first one of those to come. -/
lemma passes_peek (h : rest <:+ tokens) :
    Passes tokens.peek (standing tokens rest depth) rest.head? (standing tokens rest depth) := by
  intro calls
  rw [← getElem?_standing h]
  rfl

/-- The place is where the reading stands. -/
lemma passes_here (place : Place) : Passes here place place place :=
  fun _ => rfl

/-- A place that is gone to is the place of the reading. -/
lemma passes_moveTo (place place' : Place) : Passes (moveTo place') place () place' :=
  fun _ => rfl

/-- The next token is taken. -/
lemma passes_advance (h : token :: rest <:+ tokens) :
    Passes tokens.advance (standing tokens (token :: rest) depth) (some token)
      (standing tokens rest depth) := by
  obtain ⟨before, rfl⟩ := h
  have hplace : standing (before ++ token :: rest) (token :: rest) depth =
      ⟨before.length, depth⟩ := by simp [standing]
  have hnext : standing (before ++ token :: rest) rest depth = ⟨before.length + 1, depth⟩ := by
    simp only [standing, List.length_append, List.length_cons, Place.mk.injEq, and_true]
    omega
  have hmore : before.length < (before ++ token :: rest).length := by simp
  have hlast : (before ++ token :: rest)[before.length]? = some token := by simp
  rw [hplace, hnext]
  refine (passes_here _).bind ?_
  simp only [hmore, ↓reduceIte]
  refine (passes_moveTo _ _).bind ((passes_here _).bind ?_)
  rw [← hlast]
  exact passes_pure _ _

/-- At the end, the token that was taken last is taken for the next one. -/
lemma passes_advance_end (h : [token] <:+ tokens) :
    Passes tokens.advance (standing tokens [] depth) (some token) (standing tokens [] depth) := by
  obtain ⟨before, rfl⟩ := h
  have hplace : standing (before ++ [token]) [] depth = ⟨before.length + 1, depth⟩ := by
    simp [standing]
  have hend : ¬ before.length + 1 < (before ++ [token]).length := by simp
  have hlast : (before ++ [token])[before.length]? = some token := by simp
  rw [hplace]
  refine (passes_here _).bind ?_
  simp only [hend, ↓reduceIte]
  refine (passes_here _).bind ?_
  rw [← hlast]
  exact passes_pure _ _

/-- A level is gone down if there is one. -/
lemma passes_descend (h : depth < maxDepth) :
    Passes descend (standing tokens rest depth) () (standing tokens rest (depth + 1)) := by
  have hnot : ¬ maxDepth < (standing tokens rest depth).depth + 1 := Nat.not_lt.mpr h
  refine (passes_here _).bind ((passes_moveTo _ _).bind ?_)
  rw [if_neg hnot]
  exact passes_pure _ _

/-- Levels that have been gone down are gone up. -/
lemma passes_ascend (levels : ℕ) :
    Passes (ascend levels) (standing tokens rest (depth + levels)) ()
      (standing tokens rest depth) := by
  have hnot : ¬ (standing tokens rest (depth + levels)).depth < levels :=
    Nat.not_lt.mpr (Nat.le_add_left _ _)
  have hplace : standing tokens rest depth =
      { standing tokens rest (depth + levels) with depth := depth + levels - levels } := by
    rw [Nat.add_sub_cancel]
    rfl
  refine (passes_here _).bind ?_
  rw [if_neg hnot, hplace]
  exact passes_moveTo _ _

/-- An expected token is taken. -/
lemma passes_matchToken_true {expected : Token → Bool} (h : token :: rest <:+ tokens)
    (hexpected : expected token) :
    Passes (tokens.matchToken expected) (standing tokens (token :: rest) depth) true
      (standing tokens rest depth) := by
  refine (passes_peek h).bind ?_
  simp only [List.head?_cons, hexpected, ↓reduceIte]
  exact (passes_advance h).bind (passes_pure _ _)

/-- An expected token is taken where nothing else may stand. -/
lemma passes_expectToken {expected : Token → Bool} {fault : ParseFault}
    (h : token :: rest <:+ tokens) (hexpected : expected token) :
    Passes (tokens.expectToken expected fault) (standing tokens (token :: rest) depth) ()
      (standing tokens rest depth) :=
  (passes_matchToken_true h hexpected).bind (passes_pure _ _)

/-- A token that is not expected is not taken. -/
lemma passes_matchToken_false {expected : Token → Bool} (h : rest <:+ tokens)
    (hexpected : ∀ token ∈ rest.head?, ¬ expected token) :
    Passes (tokens.matchToken expected) (standing tokens rest depth) false
      (standing tokens rest depth) := by
  refine (passes_peek h).bind ?_
  cases rest with
  | nil => exact passes_pure _ _
  | cons token more =>
    have hnot : expected token = false := by simpa using hexpected token rfl
    simp only [List.head?_cons, hnot, Bool.false_eq_true, ↓reduceIte]
    exact passes_pure _ _

/-- One of some operators is taken. -/
lemma passes_matchOperator_some {op : Operator} {ops : List Operator}
    (h : .operator op :: rest <:+ tokens) (hop : op ∈ ops) :
    Passes (tokens.matchOperator ops) (standing tokens (.operator op :: rest) depth) (some op)
      (standing tokens rest depth) := by
  refine (passes_peek h).bind ?_
  simp only [List.head?_cons, hop, ↓reduceIte]
  exact (passes_advance h).bind (passes_pure _ _)

/-- What is none of some operators is not taken. -/
lemma passes_matchOperator_none {ops : List Operator} (h : rest <:+ tokens)
    (hops : ∀ op more, rest = .operator op :: more → op ∉ ops) :
    Passes (tokens.matchOperator ops) (standing tokens rest depth) none
      (standing tokens rest depth) := by
  refine (passes_peek h).bind ?_
  cases rest with
  | nil => exact passes_pure _ _
  | cons token more =>
    cases token with
    | operator op =>
      have hnot : op ∉ ops := hops op more rfl
      simp only [List.head?_cons, hnot, ↓reduceIte]
      exact passes_pure _ _
    | _ => exact passes_pure _ _

end Counting

end SheetFormula.Formula
