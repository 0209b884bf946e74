import SheetFormula.Proofs.Evaluation.Ambient

/-!
# Functions that operators can stand for

Four functions of the library say the same as operators: `AND` and `OR` as a chain of `and` or `or`,
`NOT` as `not`, and `IF` as a choice. A function runs on the values of all its arguments, while the
operators leave out the operands that no longer matter. So a call that has a value has the same
value when it is written with operators, and may only fail more often.

## Main definitions

* `SheetFormula.Formula.Expr.chainOf` — operands with one operator between them, from the left.
* `SheetFormula.Formula.OperatorForm` — a call, and the same written with operators.

## Main results

* `SheetFormula.Library.find?_name` — every function of the library is found under its name.
* `SheetFormula.evaluate_chainOf` — the value of a chain all of whose operands have one.
* `SheetFormula.evaluate_of_operatorForm` — calls that have a value have it with operators, too.
-/

set_option relaxedAutoImplicit false
set_option autoImplicit false

namespace SheetFormula

open SheetFormula.Formula (Expr Operator)

/-! ## Two ways to write -/

/-- Operands with one operator between them, the first two taken together first. -/
def Formula.Expr.chainOf (op : Operator) (first : Expr) (rest : List Expr) : Expr :=
  rest.foldl (.binary op) first

/-- A call, and the same written with operators. -/
inductive Formula.OperatorForm : Expr → Expr → Prop
  | all (first second : Expr) (rest : List Expr) :
    OperatorForm (.call "AND" (first :: second :: rest)) (.chainOf .and first (second :: rest))
  | any (first second : Expr) (rest : List Expr) :
    OperatorForm (.call "OR" (first :: second :: rest)) (.chainOf .or first (second :: rest))
  | negation (operand : Expr) : OperatorForm (.call "NOT" [operand]) (.unary .not operand)
  | choice (condition whenTrue whenFalse : Expr) :
    OperatorForm (.call "IF" [condition, whenTrue, whenFalse])
      (.choice condition whenTrue whenFalse)

/-- A chain calls what its operands call. -/
lemma Formula.Expr.calls_chainOf (op : Operator) (first : Expr) (rest : List Expr) :
    (chainOf op first rest).calls = first.calls ++ Formula.callsOfAll rest := by
  induction rest generalizing first with
  | nil => rw [chainOf, List.foldl_nil, Formula.callsOfAll, List.append_nil]
  | cons operand rest ih =>
    calc (chainOf op first (operand :: rest)).calls
        = (chainOf op (.binary op first operand) rest).calls := rfl
      _ = first.calls ++ operand.calls ++ Formula.callsOfAll rest := by rw [ih, calls]
      _ = first.calls ++ Formula.callsOfAll (operand :: rest) := by
        rw [List.append_assoc, Formula.callsOfAll]

/-- What is written with operators calls what the arguments of the call do. -/
lemma Formula.OperatorForm.calls_subset {called written : Expr} (h : OperatorForm called written) :
    written.calls ⊆ called.calls := by
  intro name hname
  cases h with
  | all | any =>
    rw [Expr.calls_chainOf] at hname
    exact List.mem_cons_of_mem _ hname
  | negation | choice =>
    refine List.mem_cons_of_mem _ ?_
    simpa [Expr.calls, Formula.callsOfAll] using hname

/-! ## Values of calls -/

/-- Functions of the library have different names. -/
lemma Library.nodup_names : (standard.map Function.name).Nodup := by
  have hperm := (List.mergeSort_perm (arithmetic ++ logical ++ statistical ++ dates)
    fun first second => decide (first.name ≤ second.name)).map Function.name
  exact hperm.nodup_iff.mpr (by decide)

/-- **Every function of the library is found under its name.** -/
theorem Library.find?_name {function : Function} (h : function ∈ standard) :
    find? function.name = some function := by
  obtain ⟨found, hfound⟩ : ∃ found, find? function.name = some found :=
    Option.isSome_iff_exists.mp (List.find?_isSome.mpr ⟨function, h, beq_self_eq_true _⟩)
  obtain ⟨hmem, hname⟩ := Library.mem_of_find? hfound
  rw [hfound, List.inj_on_of_nodup_map nodup_names hmem h hname]

section Values

variable {context : Context} {scope : Scope}

/-- Some expressions have values if the first one has and the others have. -/
lemma evaluateAll_cons_eq_ok {first : Expr} {rest : List Expr} {values : List Value} :
    evaluateAll context scope (first :: rest) = .ok values ↔
      ∃ value others, evaluate context scope first = .ok value ∧
        evaluateAll context scope rest = .ok others ∧ values = value :: others := by
  rw [evaluateAll]
  cases hfirst : evaluate context scope first with
  | error fault => simp [bind, Except.bind]
  | ok value =>
    cases hrest : evaluateAll context scope rest with
    | error fault => simp [bind, Except.bind]
    | ok others => simp [bind, Except.bind, pure, Except.pure, eq_comm]

/-- A call of a logical function has the value of the function for those of all arguments, whatever
data there is of its name. -/
lemma evaluate_call_eq_ok {name : String} {run : List Value → Except CalcError Value}
    (h : ∃ function ∈ Library.logical, function.name = name ∧ function.run context = run)
    {arguments : List Expr} {value : Value} :
    evaluate context scope (.call name arguments) = .ok value ↔
      ∃ values, evaluateAll context scope arguments = .ok values ∧ run values = .ok value := by
  obtain ⟨function, hmem, rfl, rfl⟩ := h
  have hcallee : callee scope function.name = .ok function := by
    rw [callee, Library.find?_name (Library.mem_standard_iff.mpr (.inl (.inr (.inl hmem))))]
  rw [evaluate, hcallee]
  cases evaluateAll context scope arguments <;> simp [bind, Except.bind]

/-- The operator `and` between operands with values. -/
lemma evaluate_and {left right : Expr} {first second : Value}
    (hleft : evaluate context scope left = .ok first)
    (hright : evaluate context scope right = .ok second) :
    evaluate context scope (.binary .and left right) =
      .ok (.boolean (first.isTruthy && second.isTruthy)) := by
  rw [evaluate, hleft, hright]
  cases htruthy : first.isTruthy <;> simp [htruthy, bind, Except.bind, pure, Except.pure]

/-- The operator `or` between operands with values. -/
lemma evaluate_or {left right : Expr} {first second : Value}
    (hleft : evaluate context scope left = .ok first)
    (hright : evaluate context scope right = .ok second) :
    evaluate context scope (.binary .or left right) =
      .ok (.boolean (first.isTruthy || second.isTruthy)) := by
  rw [evaluate, hleft, hright]
  cases htruthy : first.isTruthy <;> simp [htruthy, bind, Except.bind, pure, Except.pure]

/-- **The value of a chain all of whose operands have one.** If an operator joins the truth of two
operands, a chain of it joins that of all of them.

**Proof sketch.** Induction on the operands behind the first two. These two have a truth value
together, which is the first operand of a shorter chain. -/
theorem evaluate_chainOf {op : Operator} {join : Bool → Bool → Bool}
    (hop : ∀ {left right : Expr} {first second : Value},
      evaluate context scope left = .ok first → evaluate context scope right = .ok second →
        evaluate context scope (.binary op left right) =
          .ok (.boolean (join first.isTruthy second.isTruthy)))
    {first second : Expr} {rest : List Expr} {values : List Value}
    (hvalues : evaluateAll context scope (first :: second :: rest) = .ok values) :
    ∃ value others, values = value :: others ∧
      evaluate context scope (.chainOf op first (second :: rest)) =
        .ok (.boolean (others.foldl (fun truth value => join truth value.isTruthy)
          value.isTruthy)) := by
  induction rest generalizing first second values with
  | nil =>
    obtain ⟨value, others, hfirst, hothers, rfl⟩ := evaluateAll_cons_eq_ok.mp hvalues
    obtain ⟨value', none, hsecond, hnone, rfl⟩ := evaluateAll_cons_eq_ok.mp hothers
    rw [evaluateAll] at hnone
    cases hnone
    exact ⟨value, [value'], rfl, hop hfirst hsecond⟩
  | cons third rest ih =>
    obtain ⟨value, others, hfirst, hothers, rfl⟩ := evaluateAll_cons_eq_ok.mp hvalues
    obtain ⟨value', further, hsecond, hfurther, rfl⟩ := evaluateAll_cons_eq_ok.mp hothers
    -- the first two operands together are the first one of the chain that is left
    obtain ⟨_, _, hpair, hchain⟩ :=
      ih (evaluateAll_cons_eq_ok.mpr ⟨_, further, hop hfirst hsecond, hfurther, rfl⟩)
    cases hpair
    exact ⟨value, value' :: further, rfl, hchain⟩

/-- Conjunctions of truth values, taken together from the left. -/
lemma foldl_and_isTruthy (values : List Value) (truth : Bool) :
    values.foldl (fun truth value => truth && value.isTruthy) truth =
      (truth && values.all Value.isTruthy) := by
  induction values generalizing truth with
  | nil => simp
  | cons value values ih => rw [List.foldl_cons, ih, List.all_cons, Bool.and_assoc]

/-- Disjunctions of truth values, taken together from the left. -/
lemma foldl_or_isTruthy (values : List Value) (truth : Bool) :
    values.foldl (fun truth value => truth || value.isTruthy) truth =
      (truth || values.any Value.isTruthy) := by
  induction values generalizing truth with
  | nil => simp
  | cons value values ih => rw [List.foldl_cons, ih, List.any_cons, Bool.or_assoc]

end Values

/-! ## Functions and operators -/

namespace Library

/-- The negation of one argument. -/
lemma negate_singleton (value : Value) : negate [value] = .ok (.boolean (!value.isTruthy)) := by
  rw [negate, List.any_cons, List.any_nil, Bool.or_false]
  rfl

/-- The choice between two arguments. -/
lemma choose_triple (condition whenTrue whenFalse : Value) :
    choose [condition, whenTrue, whenFalse] =
      .ok (if condition.isTruthy then whenTrue else whenFalse) := by
  cases hcondition : condition.isTruthy <;>
    simp [choose, Function.require, Arity.accepts, Function.argument, hcondition, bind,
      Except.bind, pure, Except.pure]

end Library

section Forms

variable {context : Context} {scope : Scope} {called written : Expr}

/-- **A call that has a value has the same value when it is written with operators.**

**Proof sketch.** If the call has a value, all its arguments have. Then the operators, whichever of
their operands they need, have the value of the function for these. -/
theorem evaluate_written {value : Value} (h : Formula.OperatorForm called written)
    (hcalled : evaluate context scope called = .ok value) :
    evaluate context scope written = .ok value := by
  cases h with
  | all first second rest =>
    have hand : ∃ function ∈ Library.logical,
        function.name = "AND" ∧ function.run context = Library.allTruthy := by
      simp [Library.logical]
    obtain ⟨values, hvalues, hrun⟩ := (evaluate_call_eq_ok hand).mp hcalled
    obtain ⟨value, others, rfl, hchain⟩ := evaluate_chainOf evaluate_and hvalues
    rw [hchain, foldl_and_isTruthy, ← List.all_cons]
    exact hrun
  | any first second rest =>
    have hor : ∃ function ∈ Library.logical,
        function.name = "OR" ∧ function.run context = Library.anyTruthy := by
      simp [Library.logical]
    obtain ⟨values, hvalues, hrun⟩ := (evaluate_call_eq_ok hor).mp hcalled
    obtain ⟨value, others, rfl, hchain⟩ := evaluate_chainOf evaluate_or hvalues
    rw [hchain, foldl_or_isTruthy, ← List.any_cons]
    exact hrun
  | negation operand =>
    have hnot : ∃ function ∈ Library.logical,
        function.name = "NOT" ∧ function.run context = Library.negate := by
      simp [Library.logical]
    obtain ⟨values, hvalues, hrun⟩ := (evaluate_call_eq_ok hnot).mp hcalled
    obtain ⟨truth, others, hoperand, hothers, rfl⟩ := evaluateAll_cons_eq_ok.mp hvalues
    rw [evaluateAll] at hothers
    cases hothers
    rw [evaluate, hoperand]
    exact (Library.negate_singleton truth).symm.trans hrun
  | choice condition whenTrue whenFalse =>
    have hif : ∃ function ∈ Library.logical,
        function.name = "IF" ∧ function.run context = Library.choose := by
      simp [Library.logical]
    obtain ⟨values, hvalues, hrun⟩ := (evaluate_call_eq_ok hif).mp hcalled
    obtain ⟨truth, branches, hcondition, hbranches, rfl⟩ := evaluateAll_cons_eq_ok.mp hvalues
    obtain ⟨first, others, hwhenTrue, hothers, rfl⟩ := evaluateAll_cons_eq_ok.mp hbranches
    obtain ⟨second, none, hwhenFalse, hnone, rfl⟩ := evaluateAll_cons_eq_ok.mp hothers
    rw [evaluateAll] at hnone
    cases hnone
    have hchosen := (Library.choose_triple truth first second).symm.trans hrun
    rw [evaluate, hcondition, ← hchosen]
    simp only [bind, Except.bind, hwhenTrue, hwhenFalse]
    split_ifs <;> rfl

end Forms

/-- **Functions and operators that say the same.** A call that does not draw a random number and has
a value has the same value when it is written with operators, with any random number; so where the
operators fail, the call does. Names are looked up in any scope: a call means the function even
where data has its name. -/
theorem evaluate_of_operatorForm {called written : Expr}
    (h : Formula.OperatorForm called written) (hrandom : Library.randomName ∉ called.calls)
    (context : Context) (scope : Scope) (chance : Float) :
    (∀ value, evaluate context scope called = .ok value →
      evaluate { context with chance } scope written = .ok value) ∧
    ∀ error, evaluate { context with chance } scope written = .error error →
      ∃ error', evaluate context scope called = .error error' := by
  -- what is written with operators draws no random number, either
  have hsame : evaluate { context with chance } scope written = evaluate context scope written :=
    evaluate_eq_of_no_random (fun _ => rfl) (fun hcalls => hrandom (h.calls_subset hcalls)) _ _
  rw [hsame]
  refine ⟨fun value => evaluate_written h, fun error herror => ?_⟩
  cases hcalled : evaluate context scope called with
  | error error' => exact ⟨error', rfl⟩
  | ok value => rw [evaluate_written h hcalled] at herror; cases herror

/-- Where data has the name `AND`, a call of it with this data among its arguments, one of them
false, is false with operators, too. -/
theorem evaluate_of_bound_conjunction :
    let context : Context := ⟨⟨0, 0⟩, .utc, 0.5, fun _ => none⟩
    let scope : Scope := ⟨[], [[("AND", .boolean true), ("paid", .null)]], .european⟩
    let called : Expr := .call "AND" [.reference "AND", .text "yes", .reference "paid"]
    let written : Expr :=
      .binary .and (.binary .and (.reference "AND") (.text "yes")) (.reference "paid")
    Formula.OperatorForm called written ∧ Library.randomName ∉ called.calls ∧
      evaluate context scope called = .ok (.boolean false) ∧
      evaluate { context with chance := 0.25 } scope written = .ok (.boolean false) := by
  intro context scope called written
  have hform : Formula.OperatorForm called written := .all _ _ _
  have hrandom : Library.randomName ∉ called.calls := by decide
  have hcalled : evaluate context scope called = .ok (.boolean false) :=
    (evaluate_call_eq_ok ⟨_, .head _, rfl, rfl⟩).mpr
      ⟨[.boolean true, .text "yes", .null], rfl, rfl⟩
  exact ⟨hform, hrandom, hcalled,
    (evaluate_of_operatorForm hform hrandom context scope 0.25).1 _ hcalled⟩

end SheetFormula
