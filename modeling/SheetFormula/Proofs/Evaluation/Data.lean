import SheetFormula.Evaluation
import SheetFormula.Proofs.Amount.Dates
import SheetFormula.Proofs.Evaluation.Congruence

/-!
# Data in formulas

Names, properties and keys lead into the data of a scope. What they reach has the value of that
data: compound data stays a node, and text is read as an amount where that is possible. A date is
never an amount, so a date in the data is the same to a formula as one that is written in it.

## Main definitions

* `SheetFormula.Json.property?`, `SheetFormula.Json.part?` — the parts of data.
* `SheetFormula.StandsFor` — the data that an expression stands for.

## Main results

* `SheetFormula.evaluate_of_standsFor` — such an expression has the value of its data.
* `SheetFormula.evaluate_call_congr` — an argument counts by its value only.
* `SheetFormula.dates_of_data_stay_text` — dates in the data are used as if they were written out.
-/

set_option relaxedAutoImplicit false
set_option autoImplicit false

namespace SheetFormula

open SheetFormula.Formula (Expr)

/-! ## The parts of data -/

/-- The part of compound data that a property names. -/
def Json.property? (data : Json) (key : String) : Option Json :=
  match data with
  | .object fields => Json.Fields.get? fields key
  | .array items =>
    if key = "length" then none else (Node.position? key).bind fun position => items[position]?
  | _ => none

/-- The part of compound data that a key names: a position in an array, or a property. -/
def Json.part? (data : Json) (key : Value) : Option Json :=
  match data, key with
  | .array items, .number number =>
    (Number.whole? number).bind fun position =>
      if 0 ≤ position then items[position.toNat]? else none
  | data, key => data.property? key.toText

/-- A property of a node that the data has is the value of that part. -/
lemma Node.get_of_property? (node : Node) {key : String} {data : Json}
    (h : node.data.property? key = some data) :
    ∃ place, node.get key = Value.ofJson node.format place data := by
  obtain ⟨whole, place, format⟩ := node
  cases whole with
  | object fields =>
    have hfield : Json.Fields.get? fields key = some data := h
    exact ⟨place.enter (.field key), by simp only [get, hfield, part]⟩
  | array items =>
    simp only [Json.property?] at h
    split_ifs at h with hlength
    obtain ⟨position, hposition, hitem⟩ := Option.bind_eq_some_iff.mp h
    refine ⟨place.enter (.item position), ?_⟩
    simp only [get, if_neg hlength, hposition, hitem, part]
  | _ => cases h

/-- A key that is no position in an array names a property. -/
lemma Json.part?_eq_property? {data : Json} {key : Value}
    (h : ∀ items number, data = .array items → key ≠ .number number) :
    data.part? key = data.property? key.toText := by
  unfold part?
  split
  next items number => exact absurd rfl (h items number rfl)
  next => rfl

/-- A key of a node that is no position in an array names a property. -/
lemma Node.index_eq_get {node : Node} {key : Value}
    (h : ∀ items number, node.data = .array items → key ≠ .number number) :
    node.index key = node.get key.toText := by
  unfold index
  split
  next items number hdata => exact absurd rfl (h items number hdata)
  next => rfl

/-- A part of a node that the data has is the value of that part. -/
lemma Node.index_of_part? (node : Node) {key : Value} {data : Json}
    (h : node.data.part? key = some data) :
    ∃ place, node.index key = Value.ofJson node.format place data := by
  by_cases hkey : ∃ items number, node.data = .array items ∧ key = .number number
  · obtain ⟨whole, place, format⟩ := node
    obtain ⟨items, number, hdata, rfl⟩ := hkey
    obtain rfl : whole = .array items := hdata
    obtain ⟨position, hposition, hitem⟩ := Option.bind_eq_some_iff.mp h
    split_ifs at hitem with hpos
    refine ⟨place.enter (.item position.toNat), ?_⟩
    simp only [index, item, hposition, if_pos hpos, hitem, part]
  · have hproperty : ∀ items number, node.data = .array items → key ≠ .number number :=
      fun items number hdata hnumber => hkey ⟨items, number, hdata, hnumber⟩
    rw [Json.part?_eq_property? hproperty] at h
    rw [Node.index_eq_get hproperty]
    exact node.get_of_property? h

/-- Data that has parts is a node. -/
lemma Value.ofJson_of_part {whole data : Json} (h : (∃ key, whole.property? key = some data) ∨
    ∃ key, whole.part? key = some data) (format : NumberFormat) (place : Place) :
    ofJson format place whole = .node ⟨whole, place, format⟩ := by
  cases whole with
  | object fields => rfl
  | array items => rfl
  | _ => rcases h with ⟨key, h⟩ | ⟨key, h⟩ <;> cases h

/-! ## Expressions for data -/

/-- The data that an expression stands for: a name stands for data if no instant has that name, and
properties and keys stand for the parts. -/
inductive StandsFor (context : Context) (scope : Scope) : Expr → Json → Prop
  | name {name : String} {data : Json} (hinstant : scope.instants.lookup name = none)
      (hdata : scope.data? name = some data) : StandsFor context scope (.reference name) data
  | member {object : Expr} {whole data : Json} {key : String}
      (hobject : StandsFor context scope object whole) (hpart : whole.property? key = some data) :
      StandsFor context scope (.member object key) data
  | index {object key : Expr} {whole data : Json} {value : Value}
      (hobject : StandsFor context scope object whole)
      (hkey : evaluate context scope key = .ok value) (hpart : whole.part? value = some data) :
      StandsFor context scope (.index object key) data

variable {context : Context} {scope : Scope}

/-- **An expression that stands for data has the value of that data.**

**Proof sketch.** Induction on the way into the data. -/
theorem evaluate_of_standsFor {expr : Expr} {data : Json} (h : StandsFor context scope expr data) :
    ∃ place, evaluate context scope expr = .ok (Value.ofJson scope.format place data) := by
  induction h with
  | @name name data hinstant hdata =>
    refine ⟨⟨name, []⟩, ?_⟩
    rw [evaluate, resolve, Scope.lookup, hinstant]
    simp only [hdata]
  | @member object whole data key hobject hpart ih =>
    obtain ⟨place, hobject⟩ := ih
    rw [Value.ofJson_of_part (.inl ⟨_, hpart⟩)] at hobject
    obtain ⟨inner, hvalue⟩ := Node.get_of_property? ⟨whole, place, scope.format⟩ hpart
    refine ⟨inner, ?_⟩
    rw [evaluate, hobject]
    exact congrArg Except.ok hvalue
  | @index object key whole data value hobject hkey hpart ih =>
    obtain ⟨place, hobject⟩ := ih
    rw [Value.ofJson_of_part (.inr ⟨_, hpart⟩)] at hobject
    obtain ⟨inner, hvalue⟩ := Node.index_of_part? ⟨whole, place, scope.format⟩ hpart
    refine ⟨inner, ?_⟩
    rw [evaluate, hobject, hkey]
    exact congrArg Except.ok hvalue

/-- **An argument of a call counts by its value only.** -/
theorem evaluate_call_congr {expr expr' : Expr}
    (h : evaluate context scope expr = evaluate context scope expr') (name : String)
    (before behind : List Expr) :
    evaluate context scope (.call name (before ++ expr :: behind)) =
      evaluate context scope (.call name (before ++ expr' :: behind)) := by
  have hvalues : evaluateAll context scope (before ++ expr :: behind) =
      evaluateAll context scope (before ++ expr' :: behind) := by
    induction before with
    | nil => rw [List.nil_append, List.nil_append, evaluateAll, evaluateAll, h]
    | cons first before ih => rw [List.cons_append, List.cons_append, evaluateAll, evaluateAll, ih]
  rw [evaluate, evaluate, hvalues]

/-! ## Dates in the data -/

/-- **A date in the data is never turned into a number.** A text that is read as a date in some zone
is an amount in no format. An expression that stands for such a text in the data therefore has it as
its value, and every function is given the same as if the text were written in the formula. -/
theorem dates_of_data_stay_text {zone : Zone} {text : String}
    (h : (Moment.ofText? zone text).isSome) :
    (∀ format, Amount.read? format text = none) ∧
      ∀ (context : Context) (scope : Scope) (expr : Expr),
        StandsFor context scope expr (.text text) →
          evaluate context scope expr = .ok (.text text) ∧
          ∀ name before behind, evaluate context scope (.call name (before ++ expr :: behind)) =
            evaluate context scope (.call name (before ++ .text text :: behind)) := by
  obtain ⟨moment, hmoment⟩ := Option.isSome_iff_exists.mp h
  have hread := Amount.read?_eq_none_of_ofText? hmoment
  refine ⟨hread, ?_⟩
  intro context scope expr hexpr
  obtain ⟨place, hvalue⟩ := evaluate_of_standsFor hexpr
  have htext : Value.ofJson scope.format place (.text text) = .text text := by
    simp only [Value.ofJson, Value.coerce, hread]
  rw [htext] at hvalue
  refine ⟨hvalue, evaluate_call_congr ?_⟩
  rw [hvalue, evaluate]

/-- A date that would be an amount with points between its groups, if it were not one. -/
theorem year_of_due_date :
    let context : Context := ⟨⟨0, 0⟩, .utc, 0.0, fun _ => none⟩
    let scope : Scope :=
      ⟨[], [[("invoice", .object [("due", .text "30.09.2025")])]], .european⟩
    (Moment.ofText? .utc "30.09.2025").isSome ∧
      evaluate context scope (.call "YEAR" [.member (.reference "invoice") "due"]) =
        evaluate context scope (.call "YEAR" [.text "30.09.2025"]) := by
  intro context scope
  have hdate : (Moment.ofText? .utc "30.09.2025").isSome := by decide +kernel
  have hdue : StandsFor context scope (.member (.reference "invoice") "due") (.text "30.09.2025") :=
    .member (.name rfl rfl) rfl
  exact ⟨hdate, ((dates_of_data_stay_text hdate).2 context scope _ hdue).2 "YEAR" [] []⟩

end SheetFormula
