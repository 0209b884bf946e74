import SheetFormula.Proofs.Evaluation.Failure
import Mathlib.Data.Nat.Notation
import Mathlib.Tactic.Common

/-!
# Names without a value

An evaluation fails for a missing name only where the expression mentions a name that has no value.
No operator and no function of the library fails in this way. If names are given values that had
none, every evaluation comes to the same, unless it failed for one of these names.

## Main definitions

* `SheetFormula.Formula.Expr.names` — the names that an expression mentions.
* `SheetFormula.Settled` — results that are no failure for a missing name.
* `SheetFormula.Scope.Extends` — scopes that keep all values of names.
* `SheetFormula.Kept` — what becomes of a result when names are given values.

## Main results

* `SheetFormula.FailsWith.settled` — operators and functions never fail for a missing name.
* `SheetFormula.kept_evaluate` — what becomes of an evaluation when names are given values.
-/

set_option relaxedAutoImplicit false
set_option autoImplicit false

namespace SheetFormula

open SheetFormula.Formula (Expr Operator)

/-! ## The names of an expression -/

mutual

/-- The names that an expression mentions, for a value or in a call, in the order in which they
stand. -/
def Formula.Expr.names : Expr → List String
  | .number _ => []
  | .text _ => []
  | .boolean _ => []
  | .reference name => [name]
  | .member object _ => object.names
  | .index object key => object.names ++ key.names
  | .call name arguments => name :: Formula.namesOfAll arguments
  | .binary _ left right => left.names ++ right.names
  | .unary _ operand => operand.names
  | .choice condition whenTrue whenFalse =>
    condition.names ++ (whenTrue.names ++ whenFalse.names)

/-- The names that some expressions mention. -/
def Formula.namesOfAll : List Expr → List String
  | [] => []
  | expr :: rest => expr.names ++ Formula.namesOfAll rest

end

/-- What an expression mentions is mentioned by any list that it is in. -/
lemma Formula.mem_namesOfAll {expr : Expr} {list : List Expr} (h : expr ∈ list) {name : String}
    (hname : name ∈ expr.names) : name ∈ Formula.namesOfAll list := by
  induction list with
  | nil => cases h
  | cons first rest ih =>
    rw [Formula.namesOfAll, List.mem_append]
    rcases List.mem_cons.mp h with rfl | hrest
    · exact .inl hname
    · exact .inr (ih hrest)

/-! ## Failures for a missing name -/

/-- A result that is no failure for a missing name: a value, or another failure. -/
def Settled {α : Type} (result : Except CalcError α) : Prop :=
  ∀ name, result ≠ .error (.undefinedVariable name)

/-- A value is no failure. -/
lemma Settled.ok {α : Type} (value : α) : Settled (.ok value : Except CalcError α) :=
  nofun

/-- What fails in ways other than for a missing name never does so. -/
lemma FailsWith.settled {α : Type} {kind : CalcError → Prop} {result : Except CalcError α}
    (h : FailsWith kind result) (hkind : ∀ name, ¬ kind (.undefinedVariable name)) :
    Settled result :=
  fun name hname => hkind name (h _ hname)

/-- Operators do not fail for a missing name. -/
lemma settled_applyBinary (op : Operator) (left right : Value) :
    Settled (applyBinary op left right) :=
  (failsWith_applyBinary op left right).settled nofun

/-- Signs do not fail for a missing name. -/
lemma settled_applyUnary (op : Operator) (value : Value) : Settled (applyUnary op value) :=
  (failsWith_applyUnary op value).settled nofun

/-! ## Scopes with more names -/

/-- A scope extends another one if it gives the same values to all names that have a value there. -/
def Scope.Extends (scope' scope : Scope) : Prop :=
  ∀ name value, scope.lookup name = some value → scope'.lookup name = some value

/-- What becomes of a result when names are given values: it is kept, unless it is the failure for a
name that is mentioned and had no value. Then it may become anything. -/
inductive Kept {α : Type} (scope : Scope) (mentioned : String → Prop) :
    Except CalcError α → Except CalcError α → Prop
  | same {result : Except CalcError α} (h : Settled result) : Kept scope mentioned result result
  | missing {name : String} {result : Except CalcError α} (hname : mentioned name)
    (hvalue : scope.lookup name = none) :
    Kept scope mentioned (.error (.undefinedVariable name)) result

namespace Kept

variable {α β : Type} {scope : Scope} {mentioned : String → Prop}

/-- A value is kept. -/
lemma ok (value : α) : Kept scope mentioned (.ok value) (.ok value) :=
  .same (.ok value)

/-- What is kept step by step is kept as a whole. -/
lemma bind {result result' : Except CalcError α} {next next' : α → Except CalcError β}
    (h : Kept scope mentioned result result')
    (hnext : ∀ value, Kept scope mentioned (next value) (next' value)) :
    Kept scope mentioned (result >>= next) (result' >>= next') := by
  cases h with
  | same hsettled =>
    cases result with
    | error fault => exact .same fun name hname => hsettled name (by cases hname; rfl)
    | ok value => exact hnext value
  | missing hname hvalue => exact .missing hname hvalue

end Kept

section Extension

variable {context : Context} {scope scope' : Scope} {mentioned : String → Prop}
  (hscope : scope'.Extends scope)

include hscope

/-- The value of a name is kept. -/
lemma kept_resolve {name : String} (hname : mentioned name) :
    Kept scope mentioned (resolve scope name) (resolve scope' name) := by
  unfold resolve
  cases hlookup : scope.lookup name with
  | none => exact .missing hname hlookup
  | some value =>
    rw [hscope name value hlookup]
    exact .ok value

/-- A call is kept if its arguments are. The name is looked for in the library first, and data of
that name matters only where the library has no such function. -/
lemma kept_call {name : String} (hname : mentioned name)
    {values values' : Except CalcError (List Value)}
    (hvalues : Kept scope mentioned values values') :
    Kept scope mentioned
      (do let function ← callee scope name; let values ← values; function.run context values)
      (do let function ← callee scope' name; let values ← values'; function.run context values) := by
  unfold callee
  cases hfind : Library.find? name with
  | some function =>
    have hrun := fun values =>
      Library.failsWith_run context values (List.mem_of_find?_eq_some hfind)
    exact hvalues.bind fun values => .same ((hrun values).settled nofun)
  | none =>
    cases hlookup : scope.lookup name with
    | none => exact .missing hname hlookup
    | some value =>
      rw [hscope name value hlookup]
      exact .same nofun

omit hscope in
/-- The values of some expressions are kept if each of them is. -/
lemma kept_evaluateAll {list : List Expr}
    (h : ∀ expr ∈ list,
      Kept scope mentioned (evaluate context scope expr) (evaluate context scope' expr)) :
    Kept scope mentioned (evaluateAll context scope list) (evaluateAll context scope' list) := by
  induction list with
  | nil =>
    rw [evaluateAll, evaluateAll]
    exact .ok _
  | cons expr rest ih =>
    rw [List.forall_mem_cons] at h
    rw [evaluateAll, evaluateAll]
    exact h.1.bind fun _ => (ih h.2).bind fun _ => .ok _

/-- **What becomes of an evaluation when names are given values.** Its result is kept, unless it is
the failure for a name that the expression mentions and that had no value.

**Proof sketch.** Induction on the tree. At the leaves names are looked up, and each step from the
operands to the result keeps what is kept and does not fail for a missing name. -/
theorem kept_evaluate : ∀ {expr : Expr}, (∀ name ∈ expr.names, mentioned name) →
    Kept scope mentioned (evaluate context scope expr) (evaluate context scope' expr)
  | .number value, _ => by
    rw [evaluate, evaluate]
    exact .ok _
  | .text value, _ => by
    rw [evaluate, evaluate]
    exact .ok _
  | .boolean value, _ => by
    rw [evaluate, evaluate]
    exact .ok _
  | .reference name, h => by
    rw [evaluate, evaluate]
    exact kept_resolve hscope (h name (by simp [Expr.names]))
  | .member object property, h => by
    rw [Expr.names] at h
    rw [evaluate, evaluate]
    exact (kept_evaluate h).bind fun _ => .ok _
  | .index object key, h => by
    rw [Expr.names, List.forall_mem_append] at h
    rw [evaluate, evaluate]
    exact (kept_evaluate h.1).bind fun _ => (kept_evaluate h.2).bind fun _ => .ok _
  | .call name arguments, h => by
    rw [Expr.names, List.forall_mem_cons] at h
    have harguments := kept_evaluateAll fun argument (hargument : argument ∈ arguments) =>
      kept_evaluate fun name hname => h.2 name (Formula.mem_namesOfAll hargument hname)
    rw [evaluate, evaluate]
    exact kept_call hscope h.1 harguments
  | .binary op left right, h => by
    rw [Expr.names, List.forall_mem_append] at h
    have hleft := kept_evaluate h.1
    have hright := kept_evaluate h.2
    cases op with
    | and =>
      rw [evaluate, evaluate]
      refine hleft.bind fun first => ?_
      split_ifs
      · exact hright.bind fun _ => .ok _
      · exact .ok _
    | or =>
      rw [evaluate, evaluate]
      refine hleft.bind fun first => ?_
      split_ifs
      · exact .ok _
      · exact hright.bind fun _ => .ok _
    | _ =>
      rw [evaluate, evaluate]
      · exact hleft.bind fun _ => hright.bind fun _ => .same (settled_applyBinary _ _ _)
      all_goals simp
  | .unary op operand, h => by
    rw [Expr.names] at h
    rw [evaluate, evaluate]
    exact (kept_evaluate h).bind fun _ => .same (settled_applyUnary _ _)
  | .choice condition whenTrue whenFalse, h => by
    rw [Expr.names, List.forall_mem_append, List.forall_mem_append] at h
    rw [evaluate, evaluate]
    refine (kept_evaluate h.1).bind fun _ => ?_
    split_ifs
    · exact kept_evaluate h.2.1
    · exact kept_evaluate h.2.2

end Extension

end SheetFormula
