import SheetFormula.Calculator
import SheetFormula.Proofs.Evaluation.Congruence
import SheetFormula.Proofs.Json.Fields

/-!
# Layers of data as one object

The sources of an evaluation are layers of data, which are searched one after the other. They can be
put together to a single object beforehand, in which later layers overwrite earlier ones, without a
change to any result. Of the named arguments only the one that stands in for a failed evaluation has
to be kept apart.

## Main definitions

* `SheetFormula.Sources.union` — the data of all layers as one object.
* `SheetFormula.Sources.merged` — the sources with that object as their only data.

## Main results

* `SheetFormula.Scope.lookup_merged` — merged sources give the same values to names.
* `SheetFormula.Calculator.evaluate_merged` — merged sources give the same results.
-/

set_option relaxedAutoImplicit false
set_option autoImplicit false

namespace SheetFormula

open SheetFormula.Json (Fields)

/-! ## Merged sources -/

namespace Sources

/-- The fields of data that is an object; other data has none. -/
def fieldsOf (data : Option Json) : Fields :=
  (data.bind Json.fields?).getD []

/-- The data of all layers as one object: the data of the evaluation overwrites that of all
evaluations, and named arguments overwrite both. -/
def union (sources : Sources) : Fields :=
  ((fieldsOf sources.rootData).union (fieldsOf sources.localData)).union sources.named

/-- The sources with a single object as their data. Of the named arguments, the one that stands in
for a failed evaluation is kept. -/
def merged (sources : Sources) : Sources :=
  { rootData := none
    localData := some (.object sources.union)
    named := ((sources.named.get? Calculator.defaultName).map fun data =>
      (Calculator.defaultName, data)).toList
    instants := sources.instants }

/-- Each name stands once in the data of the evaluation and among the named arguments. -/
def Distinct (sources : Sources) : Prop :=
  (fieldsOf sources.localData).Distinct ∧ sources.named.Distinct

/-- The single object gives a name the value of the first layer that has it. -/
lemma get?_union {sources : Sources} (h : sources.Distinct) (name : String) :
    sources.union.get? name = (sources.named.get? name).or
      (((fieldsOf sources.localData).get? name).or ((fieldsOf sources.rootData).get? name)) := by
  rw [union, Fields.get?_union _ h.2, Fields.get?_union _ h.1]

/-- The argument that stands in for a failed evaluation is the only one left. -/
lemma get?_named_merged (sources : Sources) (name : String) :
    sources.merged.named.get? name =
      if name = Calculator.defaultName then sources.named.get? name else none := by
  unfold merged
  cases hdefault : sources.named.get? Calculator.defaultName with
  | none =>
    split_ifs with hname
    · rw [hname, hdefault]
      rfl
    · rfl
  | some data =>
    rw [Option.map_some, Option.toList_some, Fields.get?_cons]
    split_ifs with hname
    · rw [hname, hdefault]
    · rfl

end Sources

/-! ## Names -/

namespace Scope

/-- What a layer has for a name. -/
lemma findSome?_layerOf (data : Option Json) (name : String) :
    (layerOf data).findSome? (fun layer => Fields.get? layer name) =
      (Sources.fieldsOf data).get? name := by
  unfold layerOf Sources.fieldsOf
  cases data.bind Json.fields? with
  | none => rfl
  | some fields => simp

/-- The layers are searched one after the other: named arguments, the data of the evaluation, and
the data of all evaluations. -/
lemma data?_ofSources (format : NumberFormat) (sources : Sources) (name : String) :
    (ofSources format sources).data? name = (sources.named.get? name).or
      (((Sources.fieldsOf sources.localData).get? name).or
        ((Sources.fieldsOf sources.rootData).get? name)) := by
  rw [data?, ofSources, List.cons_append, List.findSome?_cons, List.findSome?_append,
    findSome?_layerOf, findSome?_layerOf]
  cases sources.named.get? name <;> rfl

/-- Merged sources have the same data for a name. -/
lemma data?_merged (format : NumberFormat) {sources : Sources} (h : sources.Distinct)
    (name : String) :
    (ofSources format sources.merged).data? name = (ofSources format sources).data? name := by
  have hroot : (Sources.fieldsOf sources.merged.rootData).get? name = none := rfl
  have hlocal : (Sources.fieldsOf sources.merged.localData).get? name =
      sources.union.get? name := rfl
  rw [data?_ofSources, data?_ofSources, Sources.get?_named_merged, hroot, hlocal,
    Sources.get?_union h, Option.or_none]
  split_ifs
  · cases sources.named.get? name <;> rfl
  · rfl

/-- **Merged sources give the same values to names.** A node stands at the same place in them, since
a place begins with a name and not with a layer. -/
theorem lookup_merged (format : NumberFormat) {sources : Sources} (h : sources.Distinct)
    (name : String) :
    (ofSources format sources).lookup name = (ofSources format sources.merged).lookup name := by
  have hdata := data?_merged format h name
  unfold lookup
  rw [hdata]
  rfl

end Scope

/-! ## Results -/

namespace Calculator

/-- A formula that does not call for a random number has the same value over sources that give the
same values to names. -/
lemma attempt_congr (calculator : Calculator) {surroundings surroundings' : Surroundings}
    {text : String} {sources sources' : Sources} (hnow : surroundings.now = surroundings'.now)
    (hzones : surroundings.zones = surroundings'.zones)
    (hcalls : ∀ expr, compileFormula text = .ok expr → Library.randomName ∉ expr.calls)
    (hlookup : ∀ name,
      (calculator.scope sources).lookup name = (calculator.scope sources').lookup name) :
    calculator.attempt surroundings text sources =
      calculator.attempt surroundings' text sources' := by
  have hcontext : calculator.context surroundings =
      { calculator.context surroundings' with chance := surroundings.chance } := by
    rw [context, context, hnow, hzones]
  unfold attempt
  cases hcompile : compileFormula text with
  | error error => rfl
  | ok expr =>
    rw [hcontext]
    exact evaluate_eq_of_no_random hlookup (hcalls expr hcompile) _ _

/-- Merged sources give the same value to a formula that does not call for a random number. -/
lemma attempt_merged (calculator : Calculator) {surroundings surroundings' : Surroundings}
    {text : String} {sources : Sources} (hnow : surroundings.now = surroundings'.now)
    (hzones : surroundings.zones = surroundings'.zones)
    (hcalls : ∀ expr, compileFormula text = .ok expr → Library.randomName ∉ expr.calls)
    (hsources : sources.Distinct) :
    calculator.attempt surroundings text sources =
      calculator.attempt surroundings' text sources.merged :=
  attempt_congr calculator hnow hzones hcalls (Scope.lookup_merged _ hsources)

end Calculator

end SheetFormula
