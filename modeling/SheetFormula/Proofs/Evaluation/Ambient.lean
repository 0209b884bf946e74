import SheetFormula.Proofs.Evaluation.Congruence

/-!
# The clock and the zone of a context

The context of an evaluation reaches a formula through the functions that it calls, and each
function uses its own part of it: two functions look at the clock, the twelve date functions take
the zone of the context where they are given none, and one function is the random number. What a
formula says without these is the same at any time and in any zone.

## Main definitions

* `SheetFormula.Library.clockNames` — the functions that look at the clock.

## Main results

* `SheetFormula.Library.run_eq_of_same_zone` — functions that do not look at the clock.
* `SheetFormula.Library.run_eq_of_no_date` — functions that do not look at the zone either.
* `SheetFormula.evaluate_eq_of_no_clock_of_no_date` — formulas that are the same at any time, and
  those that are the same in any zone.
-/

set_option relaxedAutoImplicit false
set_option autoImplicit false

namespace SheetFormula

open SheetFormula.Formula (Expr)

namespace Library

/-- The names of the functions that look at the clock. -/
def clockNames : List String := ["NOW", "TODAY"]

variable {context context' : Context} {function : Function}

/-! ## The parts of the library -/

/-- A function of the library belongs to one of its parts. -/
lemma mem_standard_iff :
    function ∈ standard ↔ (function ∈ arithmetic ∨ function ∈ logical ∨ function ∈ statistical) ∨
      function ∈ dates := by
  simp only [standard, List.mem_mergeSort, List.mem_append, or_assoc]

/-- The parts other than the dates look at the random number only. -/
lemma run_eq_of_numeric
    (h : function ∈ arithmetic ∨ function ∈ logical ∨ function ∈ statistical)
    (hrandom : function.name ≠ randomName) (context context' : Context) :
    function.run context = function.run context' := by
  -- none of these functions but the excluded one mentions its context
  rcases h with harithmetic | hlogical | hstatistical
  · fin_cases harithmetic
    iterate 4 rfl
    exact absurd rfl hrandom
  · fin_cases hlogical <;> rfl
  · fin_cases hstatistical <;> rfl

/-! ## The zone of a date function -/

section Zone

variable (hzone : context.zone = context'.zone) (hzones : context.zones = context'.zones)

include hzone hzones

/-- A zone is the same in contexts with the same zones. -/
lemma zoneArgument_congr : zoneArgument context = zoneArgument context' := by
  funext argument
  unfold zoneArgument
  rw [hzone, hzones]

/-- A field of a date is the same in contexts with the same zones. -/
lemma dateField_congr (name : String) (field : Moment → Int) :
    dateField name field context = dateField name field context' := by
  funext arguments
  rw [dateField, dateField, zoneArgument_congr hzone hzones]

/-- A date function that does not look at the clock does the same in contexts with the same
zones. -/
lemma run_eq_of_mem_dates (h : function ∈ dates) (hclock : function.name ∉ clockNames) :
    function.run context = function.run context' := by
  have hargument := zoneArgument_congr hzone hzones
  fin_cases h
  · exact absurd (by simp [clockNames]) hclock
  · exact absurd (by simp [clockNames]) hclock
  · show dateAdd context = dateAdd context'
    funext arguments
    rw [dateAdd, dateAdd, hargument]
  · show dateDiff context = dateDiff context'
    funext arguments
    rw [dateDiff, dateDiff, hargument]
  -- the fields from the year to the second
  iterate 6 exact dateField_congr hzone hzones _ _
  · show weekday context = weekday context'
    funext arguments
    rw [weekday, weekday, hargument]
  · show weekNumber context = weekNumber context'
    funext arguments
    rw [weekNumber, weekNumber, hargument]

/-- **Two functions look at the clock**, and one is the random number. All others do the same in
contexts with the same zones. -/
theorem run_eq_of_same_zone (h : function ∈ standard) (hrandom : function.name ≠ randomName)
    (hclock : function.name ∉ clockNames) : function.run context = function.run context' := by
  rcases mem_standard_iff.mp h with hnumeric | hdate
  · exact run_eq_of_numeric hnumeric hrandom context context'
  · exact run_eq_of_mem_dates hzone hzones hdate hclock

end Zone

/-- **The date functions look at the clock and the zone**, and one function is the random number.
All others do the same in any context. -/
theorem run_eq_of_no_date (h : function ∈ standard) (hrandom : function.name ≠ randomName)
    (hdate : ∀ date ∈ dates, date.name ≠ function.name) (context context' : Context) :
    function.run context = function.run context' := by
  rcases mem_standard_iff.mp h with hnumeric | hmem
  · exact run_eq_of_numeric hnumeric hrandom context context'
  · exact absurd rfl (hdate function hmem)

end Library

/-! ## Formulas -/

/-- **Formulas depend on the clock and the zone only through the functions that say so.** A formula
without a random number is evaluated alike at any time in one zone, unless it calls one of the two
functions that look at the clock; and at any time and in any zone, whatever zones have a name,
unless it calls one of the date functions. -/
theorem evaluate_eq_of_no_clock_of_no_date {expr : Expr} (hrandom : Library.randomName ∉ expr.calls)
    (scope : Scope) (context context' : Context) :
    ((∀ name ∈ Library.clockNames, name ∉ expr.calls) → context.zone = context'.zone →
      context.zones = context'.zones →
      evaluate context scope expr = evaluate context' scope expr) ∧
    ((∀ function ∈ Library.dates, function.name ∉ expr.calls) →
      evaluate context scope expr = evaluate context' scope expr) := by
  refine ⟨fun hclock hzone hzones => ?_, fun hdates => ?_⟩
  · apply evaluate_congr fun _ => rfl
    intro name hname function hfind
    obtain ⟨hmem, rfl⟩ := Library.mem_of_find? hfind
    exact Library.run_eq_of_same_zone hzone hzones hmem (ne_of_mem_of_not_mem hname hrandom)
      fun hlooks => hclock _ hlooks hname
  · apply evaluate_congr fun _ => rfl
    intro name hname function hfind
    obtain ⟨hmem, rfl⟩ := Library.mem_of_find? hfind
    exact Library.run_eq_of_no_date hmem (ne_of_mem_of_not_mem hname hrandom)
      (fun date hdate hsame => hdates date hdate (hsame ▸ hname)) context context'

/-- The year of an instant is the same at two times, and whether it is set at all is the same in two
zones as well. -/
theorem evaluate_eq_of_year_of_choice :
    let early : Context := ⟨⟨0, 0⟩, .utc, 0.5, fun _ => none⟩
    let later : Context := ⟨⟨86400, 0⟩, .utc, 0.25, fun _ => none⟩
    let scope : Scope := ⟨[("day", ⟨0, 0⟩)], [], .us⟩
    evaluate early scope (.call "YEAR" [.reference "day"]) =
        evaluate later scope (.call "YEAR" [.reference "day"]) ∧
      evaluate early scope (.call "NOT" [.reference "day"]) =
        evaluate { later with zone := .fixed 3600 } scope (.call "NOT" [.reference "day"]) := by
  intro early later scope
  exact ⟨(evaluate_eq_of_no_clock_of_no_date (by decide) _ _ _).1 (by decide) rfl rfl,
    (evaluate_eq_of_no_clock_of_no_date (by decide) _ _ _).2 (by decide)⟩

end SheetFormula
