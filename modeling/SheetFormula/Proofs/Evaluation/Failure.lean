import SheetFormula.Evaluation
import SheetFormula.Proofs.Formula.Parts

/-!
# How evaluations fail

Operators and functions fail for the values that they are given, and in no other way: none of them
reports a missing name, a formula that cannot be read, or a file. A whole evaluation fails as its
operators and functions do, or for a name without a value. Some failures for dates stop the program.

An operator fails for an operand that is no number, unless it is one that evaluation does not know
in its place; a function fails for its arguments.

## Main definitions

* `SheetFormula.CalcError.IsOfOperands`, `IsOfArguments` — the failures of operators that are known,
  and of functions.
* `SheetFormula.CalcError.IsOfValues` — the failures for values that are reported.
* `SheetFormula.CalcError.IsOfEvaluation` — the failures of evaluations.
* `SheetFormula.FailsWith` — results whose failure, if there is one, is of some kind.

## Main results

* `SheetFormula.failsWith_applyBinary`, `failsWith_applyUnary` — how operators fail.
* `SheetFormula.Library.failsWith_run` — how the functions of the library fail.
* `SheetFormula.failsWith_evaluate_of_operators` — evaluations fail as the operators of the tree do,
  for arguments of functions, or for names.
* `SheetFormula.failsWith_evaluate` — how evaluations fail.
-/

set_option relaxedAutoImplicit false
set_option autoImplicit false

namespace SheetFormula

open SheetFormula.Formula (Expr Operator unaryOperators)

/-! ## Kinds of failures -/

/-- The failures of operators for an operand that is no number. -/
inductive CalcError.IsOfOperands : CalcError → Prop
  | operand (side : Side) (op : Operator) (kind text : String) :
    IsOfOperands (.eval (.operand side op kind text))

/-- The failures of functions for their arguments. -/
inductive CalcError.IsOfArguments : CalcError → Prop
  | arity (function : String) (arity : Arity) (count : ℕ) :
    IsOfArguments (.eval (.arity function arity count))
  | dateAmount (text : String) : IsOfArguments (.eval (.dateAmount text))
  | invalidDate (error : DateError) : IsOfArguments (.invalidDate error)
  | invalidUnit (text : String) : IsOfArguments (.invalidUnit text)
  | invalidTimezone (text : String) : IsOfArguments (.invalidTimezone text)

/-- The failures of operators and functions for the values that they are given, without those that
stop the program. -/
inductive CalcError.IsOfValues : CalcError → Prop
  | eval (fault : EvalFault) : IsOfValues (.eval fault)
  | invalidDate (error : DateError) (h : (CalcError.invalidDate error).stops = false) :
    IsOfValues (.invalidDate error)
  | invalidUnit (text : String) : IsOfValues (.invalidUnit text)
  | invalidTimezone (text : String) : IsOfValues (.invalidTimezone text)

/-- The failures of evaluations: those for values, those for names without a value, and those that
stop the program. -/
inductive CalcError.IsOfEvaluation : CalcError → Prop
  | ofValues {error : CalcError} (h : error.IsOfValues) : IsOfEvaluation error
  | missing (name : String) : IsOfEvaluation (.undefinedVariable name)
  | stopped {error : CalcError} (h : error.stops = true) : IsOfEvaluation error

/-- A failure of an operator is one for values. -/
lemma CalcError.IsOfOperands.isOfValues {error : CalcError} (h : error.IsOfOperands) :
    error.IsOfValues := by
  cases h
  exact .eval _

/-- A failure of a function is one for values, or it stops the program. -/
lemma CalcError.IsOfArguments.isOfEvaluation {error : CalcError} (h : error.IsOfArguments) :
    error.IsOfEvaluation := by
  cases h with
  | arity | dateAmount => exact .ofValues (.eval _)
  | invalidDate error =>
    cases hstops : (CalcError.invalidDate error).stops with
    | false => exact .ofValues (.invalidDate error hstops)
    | true => exact .stopped hstops
  | invalidUnit text => exact .ofValues (.invalidUnit text)
  | invalidTimezone text => exact .ofValues (.invalidTimezone text)

/-- A result whose failure, if there is one, is of some kind. -/
def FailsWith {α : Type} (kind : CalcError → Prop) (result : Except CalcError α) : Prop :=
  ∀ error, result = .error error → kind error

namespace FailsWith

variable {α β : Type} {kind kind' : CalcError → Prop}

/-- A value is no failure. -/
lemma ok (value : α) : FailsWith kind (.ok value) :=
  nofun

/-- A failure of the kind. -/
lemma error {fault : CalcError} (h : kind fault) :
    FailsWith kind (.error fault : Except CalcError α) := by
  rintro _ ⟨⟩
  exact h

/-- Steps that fail in some way do so together. -/
lemma bind {result : Except CalcError α} {next : α → Except CalcError β}
    (h : FailsWith kind result) (hnext : ∀ value, FailsWith kind (next value)) :
    FailsWith kind (result >>= next) := by
  cases result with
  | error fault => exact .error (h fault rfl)
  | ok value => exact hnext value

/-- Kinds of failures can be widened. -/
lemma mono {result : Except CalcError α} (h : FailsWith kind result)
    (hkind : ∀ error, kind error → kind' error) : FailsWith kind' result :=
  fun error herror => hkind error (h error herror)

end FailsWith

/-! ## Operators -/

/-- The number of an operand is missing for its kind only. -/
lemma failsWith_operand (side : Side) (op : Operator) (value : Value) :
    FailsWith CalcError.IsOfOperands (operand side op value) := by
  unfold operand
  split
  · exact .ok _
  · exact .error (.operand _ _ _ _)

/-- An operator on numbers fails for its operands only. -/
lemma failsWith_onNumbers (op : Operator) (f : Float → Float → Float) (left right : Value) :
    FailsWith CalcError.IsOfOperands (onNumbers op f left right) :=
  (failsWith_operand .left op left).bind fun _ =>
    (failsWith_operand .right op right).bind fun _ => .ok _

/-- A comparison fails for its operands only. -/
lemma failsWith_compareBy (op : Operator) (texts : String → String → Bool)
    (numbers : Float → Float → Bool) (left right : Value) :
    FailsWith CalcError.IsOfOperands (compareBy op texts numbers left right) := by
  unfold compareBy
  split
  · exact .ok _
  · exact (failsWith_operand .left op _).bind fun _ =>
      (failsWith_operand .right op _).bind fun _ => .ok _

/-- The operators that need the values of both of their operands. -/
def eagerOperators : List Operator :=
  [.plus, .minus, .times, .divide, .modulo, .power, .equal, .same, .different, .unequal, .less,
    .greater, .atMost, .atLeast]

/-- **An operator that needs both of its operands fails for them only.** -/
theorem failsWith_applyBinary_of_mem {op : Operator} (hop : op ∈ eagerOperators)
    (left right : Value) : FailsWith CalcError.IsOfOperands (applyBinary op left right) := by
  cases op with
  | plus =>
    unfold applyBinary add
    dsimp only
    split_ifs
    · exact .ok _
    · exact failsWith_onNumbers _ _ _ _
  | minus | times | divide | modulo | power => exact failsWith_onNumbers _ _ _ _
  | less | greater | atMost | atLeast => exact failsWith_compareBy _ _ _ _ _
  | equal | same | different | unequal => exact .ok _
  | and | or | not => exact absurd hop (by decide)

/-- An operator between operands fails for values only. -/
lemma failsWith_applyBinary (op : Operator) (left right : Value) :
    FailsWith CalcError.IsOfValues (applyBinary op left right) := by
  by_cases hop : op ∈ eagerOperators
  · exact (failsWith_applyBinary_of_mem hop left right).mono fun _ h => h.isOfValues
  · cases op with
    | and | or | not => exact .error (.eval _)
    | _ => exact absurd (by decide) hop

/-- **An operator before its operand fails for that operand only.** -/
theorem failsWith_applyUnary_of_mem {op : Operator} (hop : op ∈ unaryOperators) (value : Value) :
    FailsWith CalcError.IsOfOperands (applyUnary op value) := by
  cases op with
  | minus => exact (failsWith_operand .unary .minus value).bind fun _ => .ok _
  | plus | not => exact .ok _
  | _ => exact absurd hop (by decide)

/-- An operator before an operand fails for values only. -/
lemma failsWith_applyUnary (op : Operator) (value : Value) :
    FailsWith CalcError.IsOfValues (applyUnary op value) := by
  by_cases hop : op ∈ unaryOperators
  · exact (failsWith_applyUnary_of_mem hop value).mono fun _ h => h.isOfValues
  · cases op with
    | minus | plus | not => exact absurd (by decide) hop
    | _ => exact .error (.eval _)

/-! ## Functions -/

namespace Library

variable (context : Context) (arguments : List Value)

/-- A wrong number of arguments is a failure for arguments. -/
lemma failsWith_require (function : String) (arity : Arity) :
    FailsWith CalcError.IsOfArguments (Function.require function arity arguments) := by
  unfold Function.require
  split_ifs
  · exact .ok _
  · exact .error (.arity _ _ _)

omit arguments in
/-- An argument that is no zone is a failure for arguments. -/
lemma failsWith_zoneArgument (argument : Option Value) :
    FailsWith CalcError.IsOfArguments (zoneArgument context argument) := by
  unfold zoneArgument
  split
  · exact .ok _
  · exact .ok _
  · exact .ok _
  · split_ifs
    · exact .ok _
    · split
      · exact .ok _
      · exact .error (.invalidTimezone _)
  · exact .error (.invalidTimezone _)

/-- An argument that is no date is a failure for arguments. -/
lemma failsWith_dateArgument (function : String) (zone : Zone) (argument : Option Value) :
    FailsWith CalcError.IsOfArguments (dateArgument function zone argument) := by
  unfold dateArgument
  dsimp only
  split
  · exact .ok _
  · exact .error (.invalidDate _)

/-- An argument that is no unit is a failure for arguments. -/
lemma failsWith_unitArgument (argument : Option Value) :
    FailsWith CalcError.IsOfArguments (unitArgument argument) := by
  unfold unitArgument unitOf
  split
  · split
    · exact .ok _
    · exact .error (.invalidUnit _)
  · exact .error (.invalidUnit _)
  · exact .error (.invalidUnit _)

/-- A function that always has a value fails for the number of its arguments only. -/
lemma failsWith_checked (function : String) (arity : Arity) (value : Value) :
    FailsWith CalcError.IsOfArguments
      (do Function.require function arity arguments; return value) :=
  (failsWith_require arguments function arity).bind fun _ => .ok value

/-- A wall clock outside the range of dates is a failure for arguments. -/
lemma failsWith_requireCalendar (moment : Moment) :
    FailsWith CalcError.IsOfArguments (requireCalendar moment) := by
  unfold requireCalendar
  split_ifs
  · exact .ok _
  · exact .error (.invalidDate _)

/-- A moment that cannot be given is a failure for arguments. -/
lemma failsWith_rendered (moment : Moment) :
    FailsWith CalcError.IsOfArguments (rendered moment) := by
  unfold rendered
  dsimp only
  split_ifs
  · exact (failsWith_requireCalendar moment).bind fun _ => .ok _
  · exact .ok _

/-- What is read off a date fails for the arguments only. -/
lemma failsWith_ofDate (function : String) (arity : Arity) (zone date : Option Value)
    (value : Moment → Value) :
    FailsWith CalcError.IsOfArguments (do
      Function.require function arity arguments
      let zone ← zoneArgument context zone
      let moment ← dateArgument function zone date
      requireCalendar moment
      return value moment) :=
  (failsWith_require arguments function arity).bind fun _ =>
    (failsWith_zoneArgument context zone).bind fun zone =>
      (failsWith_dateArgument function zone date).bind fun moment =>
        (failsWith_requireCalendar moment).bind fun _ => .ok (value moment)

/-- The current time fails for its arguments only. -/
lemma failsWith_now : FailsWith CalcError.IsOfArguments (now context arguments) :=
  (failsWith_require _ _ _).bind fun _ => (failsWith_zoneArgument _ _).bind fun _ => .ok _

/-- The current date fails for its arguments and for its result. -/
lemma failsWith_today : FailsWith CalcError.IsOfArguments (today context arguments) :=
  (failsWith_require _ _ _).bind fun _ =>
    (failsWith_zoneArgument _ _).bind fun _ => failsWith_rendered _

/-- A step from a date fails for its arguments and for its result. -/
lemma failsWith_dateAdd : FailsWith CalcError.IsOfArguments (dateAdd context arguments) := by
  refine (failsWith_require _ _ _).bind fun _ => (failsWith_zoneArgument _ _).bind fun _ =>
    (failsWith_dateArgument _ _ _).bind fun _ => (failsWith_unitArgument _).bind fun _ => ?_
  dsimp only
  split_ifs
  · exact .error (.dateAmount _)
  · split
    · exact failsWith_rendered _
    · exact .error (.invalidDate _)

/-- A difference of dates fails for its arguments only. -/
lemma failsWith_dateDiff : FailsWith CalcError.IsOfArguments (dateDiff context arguments) :=
  (failsWith_require _ _ _).bind fun _ => (failsWith_zoneArgument _ _).bind fun _ =>
    (failsWith_dateArgument _ _ _).bind fun _ => (failsWith_dateArgument _ _ _).bind fun _ =>
      (failsWith_unitArgument _).bind fun _ => (failsWith_requireCalendar _).bind fun _ =>
        (failsWith_requireCalendar _).bind fun _ => .ok _

/-- The choice between two arguments fails for their number only. -/
lemma failsWith_choose : FailsWith CalcError.IsOfArguments (choose arguments) := by
  refine (failsWith_require _ _ _).bind fun _ => ?_
  split_ifs <;> exact .ok _

/-- The mean never fails. -/
lemma failsWith_average : FailsWith CalcError.IsOfArguments (average arguments) := by
  unfold average
  dsimp only
  split_ifs <;> exact .ok _

/-- **A function of the library fails for its arguments only.** -/
theorem failsWith_run {function : Function} (h : function ∈ standard) :
    FailsWith CalcError.IsOfArguments (function.run context arguments) := by
  simp only [standard, List.mem_mergeSort, arithmetic, logical, statistical, dates, List.mem_append,
    List.mem_cons, List.not_mem_nil, or_false] at h
  rcases h with ((h | h) | h) | h
  · rcases h with rfl | rfl | rfl | rfl | rfl
    all_goals exact failsWith_checked arguments _ _ _
  · rcases h with rfl | rfl | rfl | rfl
    · exact .ok _
    · exact .ok _
    · exact failsWith_checked arguments _ _ _
    · exact failsWith_choose arguments
  · rcases h with rfl | rfl | rfl | rfl
    · exact .ok _
    · exact failsWith_average arguments
    · exact .ok _
    · exact .ok _
  · rcases h with rfl | rfl | rfl | rfl | h
    · exact failsWith_now context arguments
    · exact failsWith_today context arguments
    · exact failsWith_dateAdd context arguments
    · exact failsWith_dateDiff context arguments
    · rcases h with rfl | rfl | rfl | rfl | rfl | rfl | rfl | rfl
      all_goals exact failsWith_ofDate context arguments _ _ _ _ _

end Library

/-! ## Evaluations -/

/-- The operator at the root of a tree, if there is one, fails in some way only. The two operators
that need not evaluate both operands do not fail. -/
def Formula.Expr.RootFailsWith (kind : CalcError → Prop) : Expr → Prop
  | .binary .and _ _ => True
  | .binary .or _ _ => True
  | .binary op _ _ => ∀ left right, FailsWith kind (applyBinary op left right)
  | .unary op _ => ∀ value, FailsWith kind (applyUnary op value)
  | _ => True

section Evaluation

variable {context : Context} {scope : Scope} {kind : CalcError → Prop}

/-- The look-up of a name fails for that name. -/
lemma failsWith_resolve (hmissing : ∀ name, kind (.undefinedVariable name)) (name : String) :
    FailsWith kind (resolve scope name) := by
  unfold resolve
  split
  · exact .ok _
  · exact .error (hmissing name)

/-- A call fails as its arguments and its function do, or for its name. -/
lemma failsWith_call (harguments : ∀ error : CalcError, error.IsOfArguments → kind error)
    (hcalled : ∀ name, kind (.eval (.notFunction name)))
    (hmissing : ∀ name, kind (.undefinedVariable name)) (name : String)
    {values : Except CalcError (List Value)} (hvalues : FailsWith kind values) :
    FailsWith kind
      (do let function ← callee scope name; let values ← values; function.run context values) := by
  unfold callee
  cases hfind : Library.find? name with
  | some function =>
    have hrun := fun values =>
      Library.failsWith_run context values (List.mem_of_find?_eq_some hfind)
    exact hvalues.bind fun values => (hrun values).mono harguments
  | none =>
    cases scope.lookup name with
    | none => exact .error (hmissing name)
    | some value => exact .error (hcalled name)

/-- Some expressions fail as each of them does. -/
lemma failsWith_evaluateAll {list : List Expr}
    (h : ∀ expr ∈ list, FailsWith kind (evaluate context scope expr)) :
    FailsWith kind (evaluateAll context scope list) := by
  induction list with
  | nil =>
    rw [evaluateAll]
    exact .ok _
  | cons expr rest ih =>
    rw [List.forall_mem_cons] at h
    rw [evaluateAll]
    exact h.1.bind fun _ => (ih h.2).bind fun _ => .ok _

/-- **Evaluations fail as the operators of the tree do**, for the arguments of functions, or for
names that are called or have no value.

**Proof sketch.** Induction on the tree. Each node fails as its parts do or as its operator, its
function or its name does. -/
theorem failsWith_evaluate_of_operators
    (harguments : ∀ error : CalcError, error.IsOfArguments → kind error)
    (hcalled : ∀ name, kind (.eval (.notFunction name)))
    (hmissing : ∀ name, kind (.undefinedVariable name)) :
    ∀ expr : Expr, (∀ part ∈ expr.parts, part.RootFailsWith kind) →
      FailsWith kind (evaluate context scope expr)
  | .number value, _ => by
    rw [evaluate]
    exact .ok _
  | .text value, _ => by
    rw [evaluate]
    exact .ok _
  | .boolean value, _ => by
    rw [evaluate]
    exact .ok _
  | .reference name, _ => by
    rw [evaluate]
    exact failsWith_resolve hmissing name
  | .member object property, h => by
    rw [Expr.parts, List.forall_mem_cons] at h
    rw [evaluate]
    exact (failsWith_evaluate_of_operators harguments hcalled hmissing object h.2).bind
      fun _ => .ok _
  | .index object key, h => by
    rw [Expr.parts, List.forall_mem_cons, List.forall_mem_append] at h
    have hobject := failsWith_evaluate_of_operators harguments hcalled hmissing object h.2.1
    have hkey := failsWith_evaluate_of_operators harguments hcalled hmissing key h.2.2
    rw [evaluate]
    exact hobject.bind fun _ => hkey.bind fun _ => .ok _
  | .call name arguments, h => by
    rw [Expr.parts, List.forall_mem_cons] at h
    rw [evaluate]
    refine failsWith_call harguments hcalled hmissing name
      (failsWith_evaluateAll fun argument hmem => ?_)
    refine failsWith_evaluate_of_operators harguments hcalled hmissing argument fun part hpart => ?_
    exact h.2 part (Formula.mem_partsOfAll.mpr ⟨argument, hmem, hpart⟩)
  | .binary op left right, h => by
    rw [Expr.parts, List.forall_mem_cons, List.forall_mem_append] at h
    have hleft := failsWith_evaluate_of_operators harguments hcalled hmissing left h.2.1
    have hright := failsWith_evaluate_of_operators harguments hcalled hmissing right h.2.2
    cases op with
    | and =>
      rw [evaluate]
      refine hleft.bind fun first => ?_
      split_ifs
      · exact hright.bind fun _ => .ok _
      · exact .ok _
    | or =>
      rw [evaluate]
      refine hleft.bind fun first => ?_
      split_ifs
      · exact .ok _
      · exact hright.bind fun _ => .ok _
    | _ =>
      rw [evaluate]
      · exact hleft.bind fun first => hright.bind fun second => h.1 first second
      all_goals simp
  | .unary op operand, h => by
    rw [Expr.parts, List.forall_mem_cons] at h
    rw [evaluate]
    exact (failsWith_evaluate_of_operators harguments hcalled hmissing operand h.2).bind h.1
  | .choice condition whenTrue whenFalse, h => by
    rw [Expr.parts, List.forall_mem_cons, List.forall_mem_append, List.forall_mem_append] at h
    have htrue := failsWith_evaluate_of_operators harguments hcalled hmissing whenTrue h.2.2.1
    have hfalse := failsWith_evaluate_of_operators harguments hcalled hmissing whenFalse h.2.2.2
    rw [evaluate]
    refine (failsWith_evaluate_of_operators harguments hcalled hmissing condition h.2.1).bind
      fun _ => ?_
    split_ifs
    · exact htrue
    · exact hfalse

/-- Whatever the operator at the root is, it fails for values only. -/
lemma rootFailsWith_isOfEvaluation (expr : Expr) :
    expr.RootFailsWith CalcError.IsOfEvaluation := by
  unfold Expr.RootFailsWith
  split
  · trivial
  · trivial
  · exact fun left right => (failsWith_applyBinary _ left right).mono fun _ => .ofValues
  · exact fun value => (failsWith_applyUnary _ value).mono fun _ => .ofValues
  · trivial

/-- **How evaluations fail**: for the values of operators and functions, for a missing name, or so
that the program stops. -/
theorem failsWith_evaluate (expr : Expr) :
    FailsWith CalcError.IsOfEvaluation (evaluate context scope expr) :=
  failsWith_evaluate_of_operators (fun _ h => h.isOfEvaluation) (fun _ => .ofValues (.eval _))
    .missing expr fun part _ => rootFailsWith_isOfEvaluation part

end Evaluation

end SheetFormula
