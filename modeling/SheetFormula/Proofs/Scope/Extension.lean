import SheetFormula.Proofs.Evaluation.Missing
import SheetFormula.Proofs.Scope.Merging

/-!
# Giving values to more names

If names are given values that had none, a formula has the same result as before, unless it failed
for one of these names. The calculator shows such a failure as the argument `default`, or without
one as empty text, so more data can change nothing else that it shows.

## Main results

* `SheetFormula.Scope.extends_of_new_name` — data for a name that had no value extends a scope.
* `SheetFormula.stable_under_more_names` — what more names can change.
* `SheetFormula.default_gives_way` — a result that is not empty text and is changed by more names.
-/

set_option relaxedAutoImplicit false
set_option autoImplicit false

namespace SheetFormula

open SheetFormula.Formula (Expr)
open SheetFormula.Json (Fields)

/-! ## More data -/

/-- Data for a name that had no value extends a scope. -/
lemma Scope.extends_of_new_name {scope scope' : Scope} {name : String}
    (hnone : scope.lookup name = none) (hinstants : scope'.instants = scope.instants)
    (hformat : scope'.format = scope.format)
    (hdata : ∀ other, other ≠ name → scope'.data? other = scope.data? other) :
    scope'.Extends scope := by
  intro other value hvalue
  have hother : other ≠ name := by
    rintro rfl
    rw [hnone] at hvalue
    cases hvalue
  rw [← hvalue]
  unfold lookup
  rw [hinstants, hformat, hdata other hother]

/-- The library has no function of a name that none of its parts has. -/
lemma Library.find?_eq_none {name : String}
    (h : ∀ function ∈ arithmetic ++ logical ++ statistical ++ dates, function.name ≠ name) :
    find? name = none := by
  rw [find?, List.find?_eq_none]
  intro function hfunction
  rw [standard, List.mem_mergeSort] at hfunction
  simpa using h function hfunction

/-! ## Results -/

section Outcome

variable {context : Context} {scope scope' : Scope} {expr : Expr}

/-- A result that is no failure for a missing name is kept. -/
lemma evaluate_of_extends (hscope : scope'.Extends scope)
    (hsettled : Settled (evaluate context scope expr)) :
    evaluate context scope' expr = evaluate context scope expr := by
  have hkept : Kept scope (· ∈ expr.names) (evaluate context scope expr)
      (evaluate context scope' expr) := kept_evaluate hscope fun _ => id
  generalize evaluate context scope expr = result at hkept hsettled
  cases hkept with
  | same => rfl
  | missing => exact absurd rfl (hsettled _)

/-- **A name for which an evaluation fails** is mentioned, and it has no value. -/
theorem mem_names_of_evaluate {name : String}
    (h : evaluate context scope expr = .error (.undefinedVariable name)) :
    name ∈ expr.names ∧ scope.lookup name = none := by
  have hkept : Kept scope (· ∈ expr.names) (evaluate context scope expr)
      (evaluate context scope expr) := kept_evaluate (fun _ _ => id) fun _ => id
  rw [h] at hkept
  cases hkept with
  | same hsettled => exact absurd rfl (hsettled name)
  | missing hname hvalue => exact ⟨hname, hvalue⟩

end Outcome

namespace Calculator

/-- What stands in for the result of a formula that fails for a missing name. -/
def standIn (sources : Sources) : Scalar :=
  ((sources.named.get? defaultName).map Scalar.ofJson).getD (.text "")

variable {calculator : Calculator} {surroundings : Surroundings} {text : String}
  {sources sources' : Sources}

/-- A formula that fails for a missing name shows what stands in for it. -/
lemma evaluate_of_missing {name : String}
    (h : calculator.attempt surroundings text sources = .error (.undefinedVariable name)) :
    calculator.evaluate surroundings text sources = .ok (standIn sources) := by
  unfold evaluate standIn
  rw [h]
  dsimp only
  cases Json.Fields.get? sources.named defaultName <;> rfl

/-- A formula that fails for a missing name has an expression, which mentions the name. -/
lemma exists_of_attempt {name : String}
    (h : calculator.attempt surroundings text sources = .error (.undefinedVariable name)) :
    ∃ expr, compileFormula text = .ok expr ∧ name ∈ expr.names ∧
      (calculator.scope sources).lookup name = none := by
  unfold attempt at h
  cases hcompile : compileFormula text with
  | error fault =>
    unfold compileFormula at hcompile
    rw [compileFormula] at h
    cases hparse : Formula.compile text with
    | error failure => rw [hparse] at h; cases h
    | ok expr => rw [hparse] at hcompile; cases hcompile
  | ok expr =>
    rw [hcompile] at h
    exact ⟨expr, rfl, mem_names_of_evaluate h⟩

/-- The value of a formula is kept, unless the formula fails for a missing name. -/
lemma attempt_of_extends (hscope : (calculator.scope sources').Extends (calculator.scope sources))
    (hsettled : Settled (calculator.attempt surroundings text sources)) :
    calculator.attempt surroundings text sources' = calculator.attempt surroundings text sources := by
  unfold attempt at hsettled ⊢
  cases hcompile : compileFormula text with
  | error fault => rfl
  | ok expr =>
    rw [hcompile] at hsettled
    exact evaluate_of_extends hscope hsettled

end Calculator

/-- **What more names can change.** If a second scope gives the same values to all names that have a
value in the first one, then every evaluation that does not fail for a missing name comes to the
same value or to the same failure. An evaluation that does fail for a missing name does so for one
that the expression mentions and that has no value. So more data changes what a calculator shows of
a formula only if that formula failed for a missing name; it then showed the argument `default`, or
without one empty text. -/
theorem stable_under_more_names :
    (∀ (context : Context) (scope scope' : Scope) (expr : Expr), scope'.Extends scope →
      Settled (evaluate context scope expr) →
      evaluate context scope' expr = evaluate context scope expr) ∧
    (∀ (context : Context) (scope : Scope) (expr : Expr) (name : String),
      evaluate context scope expr = .error (.undefinedVariable name) →
      name ∈ expr.names ∧ scope.lookup name = none) ∧
    ∀ (calculator : Calculator) (surroundings : Surroundings) (text : String)
      (sources sources' : Sources),
      (calculator.scope sources').Extends (calculator.scope sources) →
      sources'.named.get? Calculator.defaultName = sources.named.get? Calculator.defaultName →
      calculator.evaluate surroundings text sources' ≠
        calculator.evaluate surroundings text sources →
      ∃ expr name, compileFormula text = .ok expr ∧ name ∈ expr.names ∧
        (calculator.scope sources).lookup name = none ∧
        calculator.attempt surroundings text sources = .error (.undefinedVariable name) ∧
        calculator.evaluate surroundings text sources = .ok (Calculator.standIn sources) := by
  refine ⟨fun _ _ _ _ => evaluate_of_extends, fun _ _ _ _ => mem_names_of_evaluate, ?_⟩
  intro calculator surroundings text sources sources' hscope hdefault hdifferent
  by_cases hsettled : Settled (calculator.attempt surroundings text sources)
  · refine absurd ?_ hdifferent
    unfold Calculator.evaluate
    rw [Calculator.attempt_of_extends hscope hsettled, hdefault]
  · obtain ⟨name, hname⟩ : ∃ name,
        calculator.attempt surroundings text sources = .error (.undefinedVariable name) := by
      simpa [Settled] using hsettled
    obtain ⟨expr, hcompile, hmem, hvalue⟩ := Calculator.exists_of_attempt hname
    exact ⟨expr, name, hcompile, hmem, hvalue, hname, Calculator.evaluate_of_missing hname⟩

/-- A formula that is a single name. -/
lemma compileFormula_name : compileFormula "x" = .ok (.reference "x") := by
  with_unfolding_all rfl

/-- A formula that is a single name fails where the name has no value. -/
lemma Calculator.attempt_name {calculator : Calculator} {sources : Sources}
    (h : (calculator.scope sources).lookup "x" = none) (surroundings : Surroundings) :
    calculator.attempt surroundings "x" sources = .error (.undefinedVariable "x") := by
  rw [attempt, compileFormula_name]
  change resolve (calculator.scope sources) "x" = _
  rw [resolve, h]

/-- Two texts that are joined, and the name of data that is added. -/
theorem stable_under_second_name :
    let surroundings : Surroundings := { now := ⟨0, 0⟩, chance := 0.5 }
    let sources : Sources := { rootData := some (.object [("y", .text "a")]) }
    let sources' : Sources := { sources with localData := some (.object [("x", .text "b")]) }
    let context := Calculator.standard.context surroundings
    let scope := Calculator.standard.scope sources
    let scope' := Calculator.standard.scope sources'
    let joined : Expr := .binary .plus (.reference "y") (.text "!")
    scope'.Extends scope ∧ evaluate context scope' joined = evaluate context scope joined ∧
      (evaluate context scope (.reference "x") = .error (.undefinedVariable "x") ∧
        "x" ∈ (Expr.reference "x").names ∧ scope.lookup "x" = none) ∧
      Calculator.standard.evaluate surroundings "x" sources' = .ok (.text "b") ∧
      Calculator.standard.evaluate surroundings "x" sources = .ok (.text "") := by
  intro surroundings sources sources' context scope scope' joined
  obtain ⟨hkept, hmissing, hchanged⟩ := stable_under_more_names
  have hnone : scope.lookup "x" = none := by
    rw [Scope.lookup, Library.find?_eq_none (by decide)]
    rfl
  have hscope : scope'.Extends scope := by
    refine Scope.extends_of_new_name hnone rfl rfl fun name hname => ?_
    simp only [scope, scope', Calculator.scope, Scope.data?_ofSources]
    simp [sources', sources, Sources.fieldsOf, Json.fields?, Fields.get?_cons, hname]
  have hjoined : evaluate context scope joined = .ok (.text "a!") := rfl
  have hfails : evaluate context scope (.reference "x") = .error (.undefinedVariable "x") := by
    rw [evaluate, resolve, hnone]
  have hshown : Calculator.standard.evaluate surroundings "x" sources' = .ok (.text "b") := by
    rw [Calculator.evaluate, Calculator.attempt, compileFormula_name]
    rfl
  have hempty : Calculator.standard.evaluate surroundings "x" sources = .ok (.text "") :=
    Calculator.evaluate_of_missing (Calculator.attempt_name hnone surroundings)
  have hdifferent : Calculator.standard.evaluate surroundings "x" sources' ≠
      Calculator.standard.evaluate surroundings "x" sources := by
    rw [hshown, hempty]
    simp
  obtain ⟨-, -, -, -, -, -, hstandIn⟩ :=
    hchanged Calculator.standard surroundings "x" sources sources' hscope rfl hdifferent
  exact ⟨hscope, hkept context scope scope' joined hscope (hjoined ▸ .ok _), ⟨hfails,
    hmissing context scope (.reference "x") "x" hfails⟩, hshown, hstandIn⟩

/-- **A result that is not empty text and is changed by more names**: that of a name without a
value, for which an argument stands in until the name has a value. -/
theorem default_gives_way :
    let surroundings : Surroundings := { now := ⟨0, 0⟩, chance := 0.5 }
    let sources : Sources := { named := [("default", .text "-")] }
    let sources' : Sources := { sources with rootData := some (.object [("x", .text "a")]) }
    (Calculator.standard.scope sources').Extends (Calculator.standard.scope sources) ∧
      Calculator.standard.evaluate surroundings "x" sources = .ok (.text "-") ∧
      Calculator.standard.evaluate surroundings "x" sources' = .ok (.text "a") := by
  intro surroundings sources sources'
  have hnone : (Calculator.standard.scope sources).lookup "x" = none := by
    rw [Scope.lookup, Library.find?_eq_none (by decide)]
    rfl
  refine ⟨Scope.extends_of_new_name hnone rfl rfl fun name hname => ?_,
    Calculator.evaluate_of_missing (Calculator.attempt_name hnone surroundings), ?_⟩
  · simp only [Calculator.scope, Scope.data?_ofSources]
    simp [sources', sources, Sources.fieldsOf, Json.fields?, Fields.get?_cons, hname]
  · rw [Calculator.evaluate, Calculator.attempt, compileFormula_name]
    rfl

end SheetFormula
