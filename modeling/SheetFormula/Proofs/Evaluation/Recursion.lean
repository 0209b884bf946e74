import SheetFormula.Evaluation
import Mathlib.Data.Nat.Notation
import Mathlib.Tactic.Common

/-!
# How deep evaluation recurses

Evaluation with a limit on its recursion: it gives up where it would have to go one level deeper
than the limit allows. A limit of as many levels as the tree has is always enough. It is also
needed along the *spine* of a tree, the way from the root through first operands, which evaluation
takes before anything else.

## Main definitions

* `SheetFormula.evaluateWithin` — evaluation with a limit on its recursion.
* `SheetFormula.Formula.Expr.spine` — the levels on the way through first operands.

## Main results

* `SheetFormula.evaluateWithin_of_depth_le` — the levels of a tree are enough to evaluate it.
* `SheetFormula.evaluateWithin_of_lt_spine` — fewer levels than those of the spine never are.
-/

set_option relaxedAutoImplicit false
set_option autoImplicit false

namespace SheetFormula

open SheetFormula.Formula (Expr Operator)

/-- What evaluation with a limit comes to: nothing where the limit is too low. -/
abbrev Limited (α : Type) := ExceptT CalcError Option α

/-- A result that needs no recursion. -/
def Limited.ofResult {α : Type} (result : Except CalcError α) : Limited α :=
  ExceptT.mk (some result)

/-- The value of an expression, as long as the recursion goes no deeper than a limit. -/
def evaluateWithin (context : Context) (scope : Scope) : ℕ → Expr → Limited Value
  | 0, _ => ExceptT.mk none
  | _ + 1, .number value => pure (.number value)
  | _ + 1, .text value => pure (.text value)
  | _ + 1, .boolean value => pure (.boolean value)
  | _ + 1, .reference name => .ofResult (resolve scope name)
  | limit + 1, .member object property => do
    let value ← evaluateWithin context scope limit object
    return value.member property
  | limit + 1, .index object key => do
    let value ← evaluateWithin context scope limit object
    let part ← evaluateWithin context scope limit key
    return value.index part
  | limit + 1, .call name arguments => do
    let function ← Limited.ofResult (callee scope name)
    let values ← arguments.mapM (evaluateWithin context scope limit)
    Limited.ofResult (function.run context values)
  | limit + 1, .binary .and left right => do
    let first ← evaluateWithin context scope limit left
    if first.isTruthy then
      let second ← evaluateWithin context scope limit right
      return .boolean second.isTruthy
    else return .boolean false
  | limit + 1, .binary .or left right => do
    let first ← evaluateWithin context scope limit left
    if first.isTruthy then return .boolean true
    else
      let second ← evaluateWithin context scope limit right
      return .boolean second.isTruthy
  | limit + 1, .binary op left right => do
    let first ← evaluateWithin context scope limit left
    let second ← evaluateWithin context scope limit right
    Limited.ofResult (applyBinary op first second)
  | limit + 1, .unary op operand => do
    let value ← evaluateWithin context scope limit operand
    Limited.ofResult (applyUnary op value)
  | limit + 1, .choice condition whenTrue whenFalse => do
    let value ← evaluateWithin context scope limit condition
    if value.isTruthy then evaluateWithin context scope limit whenTrue
    else evaluateWithin context scope limit whenFalse

/-! ## Enough levels -/

/-- Steps that are not limited follow each other as they do without a limit. -/
lemma Limited.ofResult_bind {α β : Type} {result : Except CalcError α} {next : α → Limited β}
    {next' : α → Except CalcError β} (h : ∀ value, next value = .ofResult (next' value)) :
    (Limited.ofResult result >>= next) = .ofResult (result >>= next') := by
  cases result with
  | error fault => rfl
  | ok value => exact h value

variable {context : Context} {scope : Scope} {limit : ℕ}

/-- Some expressions are evaluated within a limit if each of them is. -/
lemma mapM_evaluateWithin {arguments : List Expr}
    (h : ∀ argument ∈ arguments, evaluateWithin context scope limit argument =
      .ofResult (evaluate context scope argument)) :
    arguments.mapM (evaluateWithin context scope limit) =
      .ofResult (evaluateAll context scope arguments) := by
  induction arguments with
  | nil => rfl
  | cons first rest ih =>
    rw [List.mapM_cons, h first (by simp),
      ih fun argument hargument => h argument (List.mem_cons_of_mem _ hargument)]
    exact Limited.ofResult_bind fun value => Limited.ofResult_bind fun values => rfl

/-- Every tree has a level. -/
lemma Formula.Expr.depth_pos (expr : Expr) : 0 < expr.depth := by
  cases expr <;> simp [Expr.depth]

/-- Each of some trees has at most the levels of the deepest one. -/
lemma Formula.Expr.depth_le_depthOfAll {expr : Expr} {list : List Expr} (h : expr ∈ list) :
    expr.depth ≤ Formula.depthOfAll list := by
  induction list with
  | nil => cases h
  | cons first rest ih =>
    rw [Formula.depthOfAll]
    rcases List.mem_cons.mp h with rfl | hrest
    · exact Nat.le_max_left _ _
    · exact Nat.le_trans (ih hrest) (Nat.le_max_right _ _)

/-- **Evaluation recurses at most once per level of the tree.** With as many levels as the tree has,
the evaluation that is limited comes to the same as the one that is not.

**Proof sketch.** Induction on the limit. The operands of the root have a level less than the tree,
so they are evaluated within the limit that is left for them. -/
theorem evaluateWithin_of_depth_le {expr : Expr} (h : expr.depth ≤ limit) :
    evaluateWithin context scope limit expr = .ofResult (evaluate context scope expr) := by
  induction limit generalizing expr with
  | zero => exact absurd expr.depth_pos (by omega)
  | succ limit ih =>
    cases expr with
    | number value | text value | boolean value | reference name => rfl
    | member object property =>
      rw [Expr.depth] at h
      rw [evaluateWithin, evaluate, ih (by omega)]
      exact Limited.ofResult_bind fun value => rfl
    | index object key =>
      rw [Expr.depth] at h
      rw [evaluateWithin, evaluate, ih (by omega), ih (by omega)]
      exact Limited.ofResult_bind fun value => Limited.ofResult_bind fun part => rfl
    | call name arguments =>
      rw [Expr.depth] at h
      have harguments := mapM_evaluateWithin fun argument hargument =>
        ih (Nat.le_trans (Expr.depth_le_depthOfAll hargument) (Nat.le_of_succ_le_succ h))
      rw [evaluateWithin, evaluate, harguments]
      exact Limited.ofResult_bind fun function => Limited.ofResult_bind fun values => rfl
    | binary op left right =>
      rw [Expr.depth] at h
      cases op with
      | and =>
        rw [evaluateWithin, evaluate, ih (by omega), ih (by omega)]
        refine Limited.ofResult_bind fun first => ?_
        split
        · exact Limited.ofResult_bind fun second => rfl
        · rfl
      | or =>
        rw [evaluateWithin, evaluate, ih (by omega), ih (by omega)]
        refine Limited.ofResult_bind fun first => ?_
        split
        · rfl
        · exact Limited.ofResult_bind fun second => rfl
      | _ =>
        rw [evaluateWithin, evaluate, ih (by omega), ih (by omega)]
        · exact Limited.ofResult_bind fun first => Limited.ofResult_bind fun second => rfl
        all_goals simp
    | unary op operand =>
      rw [Expr.depth] at h
      rw [evaluateWithin, evaluate, ih (by omega)]
      exact Limited.ofResult_bind fun value => rfl
    | choice condition whenTrue whenFalse =>
      rw [Expr.depth] at h
      rw [evaluateWithin, evaluate, ih (by omega), ih (by omega), ih (by omega)]
      refine Limited.ofResult_bind fun value => ?_
      split <;> rfl

/-! ## Too few levels -/

/-- The levels of a tree on the way from its root through first operands. -/
def Formula.Expr.spine : Expr → ℕ
  | .member object _ => object.spine + 1
  | .index object _ => object.spine + 1
  | .binary _ left _ => left.spine + 1
  | .unary _ operand => operand.spine + 1
  | .choice condition _ _ => condition.spine + 1
  | _ => 1

/-- The spine is no longer than the tree is deep. -/
lemma Formula.Expr.spine_le_depth : ∀ expr : Expr, expr.spine ≤ expr.depth
  | .member object _ => by
    have := object.spine_le_depth
    simp only [spine, depth]; omega
  | .index object _ => by
    have := object.spine_le_depth
    simp only [spine, depth]; omega
  | .binary _ left _ => by
    have := left.spine_le_depth
    simp only [spine, depth]; omega
  | .unary _ operand => by
    have := operand.spine_le_depth
    simp only [spine, depth]; omega
  | .choice condition _ _ => by
    have := condition.spine_le_depth
    simp only [spine, depth]; omega
  | .number _ | .text _ | .boolean _ | .reference _ | .call _ _ => by simp [spine, depth]

/-- Evaluation that gives up does so whatever would follow. -/
lemma Limited.none_bind {α β : Type} (next : α → Limited β) :
    ((ExceptT.mk none : Limited α) >>= next) = ExceptT.mk none :=
  rfl

/-- **Evaluation recurses through the whole spine of a tree.** With fewer levels than those of the
spine, the evaluation that is limited gives up.

**Proof sketch.** Induction on the limit. What is evaluated first at the root is its first operand,
which has one level of the spine less. -/
theorem evaluateWithin_of_lt_spine {expr : Expr} (h : limit < expr.spine) :
    evaluateWithin context scope limit expr = ExceptT.mk none := by
  induction limit generalizing expr with
  | zero => cases expr <;> rfl
  | succ limit ih =>
    cases expr with
    | number | text | boolean | reference | call => simp [Expr.spine] at h
    | member object property | index object key | unary op operand
    | choice condition whenTrue whenFalse =>
      rw [evaluateWithin, ih (Nat.lt_of_succ_lt_succ h), Limited.none_bind]
    | binary op left right =>
      have hleft := ih (Nat.lt_of_succ_lt_succ h)
      cases op <;> simp only [evaluateWithin, hleft, Limited.none_bind]

end SheetFormula
