import SheetFormula.Evaluation
import Mathlib.Data.Nat.Notation
import Mathlib.Tactic.Common
import Mathlib.Tactic.FinCases

/-!
# What evaluation depends on

An expression is evaluated alike in two scopes that give the same values to all names, and in two
contexts in which the functions that it calls do the same. The random number of a context matters
to one function of the library only.

## Main definitions

* `SheetFormula.Formula.Expr.calls` — the names that an expression calls.

## Main results

* `SheetFormula.evaluate_congr` — evaluation depends on the values of names and on the functions
  that are called.
* `SheetFormula.Library.run_eq_of_ne_random` — functions that do the same with any random number.
* `SheetFormula.evaluate_eq_of_no_random` — expressions that do not call for a random number.
-/

set_option relaxedAutoImplicit false
set_option autoImplicit false

namespace SheetFormula

open SheetFormula.Formula (Expr Operator)

/-! ## Calls -/

mutual

/-- The names that an expression calls, in the order in which they stand. -/
def Formula.Expr.calls : Expr → List String
  | .number _ => []
  | .text _ => []
  | .boolean _ => []
  | .reference _ => []
  | .member object _ => object.calls
  | .index object key => object.calls ++ key.calls
  | .call name arguments => name :: Formula.callsOfAll arguments
  | .binary _ left right => left.calls ++ right.calls
  | .unary _ operand => operand.calls
  | .choice condition whenTrue whenFalse =>
    condition.calls ++ (whenTrue.calls ++ whenFalse.calls)

/-- The names that some expressions call. -/
def Formula.callsOfAll : List Expr → List String
  | [] => []
  | expr :: rest => expr.calls ++ Formula.callsOfAll rest

end

/-- What an argument calls is called by all of them. -/
lemma Formula.mem_callsOfAll {argument : Expr} {arguments : List Expr} (h : argument ∈ arguments)
    {name : String} (hname : name ∈ argument.calls) : name ∈ Formula.callsOfAll arguments := by
  induction arguments with
  | nil => cases h
  | cons first rest ih =>
    rw [Formula.callsOfAll, List.mem_append]
    rcases List.mem_cons.mp h with rfl | hrest
    · exact .inl hname
    · exact .inr (ih hrest)

/-! ## Scopes and contexts that agree -/

/-- A function of the library does the same in two contexts. -/
def SameRun (context context' : Context) (name : String) : Prop :=
  ∀ function, Library.find? name = some function →
    function.run context = function.run context'

section Congruence

variable {context context' : Context} {scope scope' : Scope}
  (hlookup : ∀ name, scope.lookup name = scope'.lookup name)

include hlookup

/-- A called name stands for the same function in scopes that give the same values to names. -/
lemma callee_congr (name : String) : callee scope name = callee scope' name := by
  rw [callee, callee, hlookup]

/-- A call does the same in two contexts if its function does. -/
lemma call_congr {name : String} (hname : SameRun context context' name)
    (arguments : Except CalcError (List Value)) :
    (do let function ← callee scope name; let values ← arguments; function.run context values) =
      (do let function ← callee scope' name; let values ← arguments
          function.run context' values) := by
  rw [callee_congr hlookup]
  unfold callee
  cases hfind : Library.find? name with
  | some function =>
    have hrun := hname function hfind
    exact congrArg (arguments >>= ·) hrun
  | none => cases scope'.lookup name <;> rfl

omit hlookup in
/-- Some expressions are evaluated alike if each of them is. -/
lemma evaluateAll_congr {list : List Expr}
    (h : ∀ expr ∈ list, evaluate context scope expr = evaluate context' scope' expr) :
    evaluateAll context scope list = evaluateAll context' scope' list := by
  induction list with
  | nil => rw [evaluateAll, evaluateAll]
  | cons expr rest ih =>
    rw [List.forall_mem_cons] at h
    rw [evaluateAll, evaluateAll, h.1, ih h.2]

/-- **Evaluation depends on the values of names and on the functions that are called**, and on
nothing else of a scope and a context.

**Proof sketch.** Induction on the tree. Names are looked up at the leaves, and only calls depend on
the context. -/
theorem evaluate_congr : ∀ {expr : Expr}, (∀ name ∈ expr.calls, SameRun context context' name) →
    evaluate context scope expr = evaluate context' scope' expr
  | .number value, _ => by rw [evaluate, evaluate]
  | .text value, _ => by rw [evaluate, evaluate]
  | .boolean value, _ => by rw [evaluate, evaluate]
  | .reference name, _ => by rw [evaluate, evaluate, resolve, resolve, hlookup]
  | .member object property, h => by
    rw [Expr.calls] at h
    rw [evaluate, evaluate, evaluate_congr h]
  | .index object key, h => by
    rw [Expr.calls, List.forall_mem_append] at h
    rw [evaluate, evaluate, evaluate_congr h.1, evaluate_congr h.2]
  | .call name arguments, h => by
    rw [Expr.calls, List.forall_mem_cons] at h
    have harguments := evaluateAll_congr fun argument (hargument : argument ∈ arguments) =>
      evaluate_congr fun called hcalled => h.2 called (Formula.mem_callsOfAll hargument hcalled)
    rw [evaluate, evaluate, harguments]
    exact call_congr hlookup h.1 _
  | .binary op left right, h => by
    rw [Expr.calls, List.forall_mem_append] at h
    have hleft := evaluate_congr h.1
    have hright := evaluate_congr h.2
    cases op <;> simp only [evaluate, hleft, hright]
  | .unary op operand, h => by
    rw [Expr.calls] at h
    rw [evaluate, evaluate, evaluate_congr h]
  | .choice condition whenTrue whenFalse, h => by
    rw [Expr.calls, List.forall_mem_append, List.forall_mem_append] at h
    rw [evaluate, evaluate, evaluate_congr h.1, evaluate_congr h.2.1, evaluate_congr h.2.2]

end Congruence

/-! ## Functions and random numbers -/

/-- The name of the function that gives the random number of the context. -/
def Library.randomName : String := "RAND"

/-- **One function of the library depends on the random number of the context.** All others do the
same with any number. -/
theorem Library.run_eq_of_ne_random {function : Function} (h : function ∈ Library.standard)
    (hname : function.name ≠ Library.randomName) (context : Context) (chance : Float) :
    function.run { context with chance } = function.run context := by
  rw [Library.standard, List.mem_mergeSort] at h
  -- one case for each function; none but the excluded one mentions the random number
  fin_cases h
  all_goals first
    | rfl
    | exact absurd rfl hname

/-- What is found under a name is a function of that name. -/
lemma Library.mem_of_find? {name : String} {function : Function}
    (h : Library.find? name = some function) :
    function ∈ Library.standard ∧ function.name = name :=
  ⟨List.mem_of_find?_eq_some h, by simpa using List.find?_some h⟩

/-- A name other than that of the random number calls the same with any random number. -/
lemma sameRun_of_ne_random {name : String} (hname : name ≠ Library.randomName) (context : Context)
    (chance : Float) : SameRun { context with chance } context name := by
  intro function hfind
  obtain ⟨hmem, rfl⟩ := Library.mem_of_find? hfind
  exact Library.run_eq_of_ne_random hmem hname context chance

/-- **An expression that does not call for the random number is evaluated alike with any**, in
scopes that give the same values to names. -/
theorem evaluate_eq_of_no_random {scope scope' : Scope}
    (hlookup : ∀ name, scope.lookup name = scope'.lookup name) {expr : Expr}
    (hcalls : Library.randomName ∉ expr.calls) (context : Context) (chance : Float) :
    evaluate { context with chance } scope expr = evaluate context scope' expr :=
  evaluate_congr hlookup fun _ hname =>
    sameRun_of_ne_random (ne_of_mem_of_not_mem hname hcalls) context chance

end SheetFormula
