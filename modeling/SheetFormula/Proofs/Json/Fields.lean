import SheetFormula.Json.Basic
import Mathlib.Data.List.Nodup
import Mathlib.Tactic.Common

/-!
# Finding fields

Which value an object has for a name after a field has been set, and after two objects have been put
together. Fields that are set one by one stay in the order of their names, each name once.

## Main definitions

* `SheetFormula.Json.Fields.Distinct` — each name stands once among the fields of an object.
* `SheetFormula.Json.Fields.InOrder` — the fields of an object are in the order of their names.

## Main results

* `SheetFormula.Json.Fields.get?_insert` — setting a field changes the value of its name only.
* `SheetFormula.Json.Fields.get?_union` — the second of two objects comes first.
* `SheetFormula.Json.Fields.inOrder_ofList` — fields that are collected are in order.
-/

set_option relaxedAutoImplicit false
set_option autoImplicit false

namespace SheetFormula.Json.Fields

/-- Each name stands once among the fields of an object. -/
def Distinct (fields : Fields) : Prop :=
  (fields.map Prod.fst).Nodup

instance (fields : Fields) : Decidable fields.Distinct :=
  inferInstanceAs (Decidable (List.Nodup _))

/-- A name has the value of the first field if that has this name, and otherwise the value that the
other fields give to it. -/
lemma get?_cons (field : String × Json) (rest : Fields) (name : String) :
    get? (field :: rest) name = if name = field.1 then some field.2 else get? rest name := by
  unfold get?
  by_cases h : name = field.1
  · rw [if_pos h, List.lookup_cons, beq_iff_eq.mpr h]
  · rw [if_neg h, List.lookup_cons, beq_eq_false_iff_ne.mpr h]

/-- **Setting a field changes the value of its name only.** -/
theorem get?_insert (fields : Fields) (name other : String) (value : Json) :
    get? (fields.insert name value) other =
      if other = name then some value else get? fields other := by
  induction fields with
  | nil => rw [insert, get?_cons]
  | cons field rest ih =>
    obtain ⟨first, old⟩ := field
    rw [insert]
    by_cases hother : other = name
    · subst hother
      rw [if_pos rfl] at ih ⊢
      split_ifs with hsame hbefore
      · rw [get?_cons, if_pos rfl]
      · rw [get?_cons, if_pos rfl]
      · rw [get?_cons, if_neg hsame, ih]
    · rw [if_neg hother] at ih ⊢
      split_ifs with hsame hbefore
      · subst hsame
        rw [get?_cons, get?_cons, if_neg hother, if_neg hother]
      · rw [get?_cons, if_neg hother]
      · rw [get?_cons, get?_cons, ih]

/-- A name that no field has is given no value. -/
lemma get?_eq_none {fields : Fields} {name : String} (h : name ∉ fields.map Prod.fst) :
    get? fields name = none := by
  induction fields with
  | nil => rfl
  | cons field rest ih =>
    rw [List.map_cons, List.mem_cons, not_or] at h
    rw [get?_cons, if_neg h.1, ih h.2]

/-- **The second of two objects comes first**: both together give a name the value of the second
one, if that has the name, and otherwise the value of the first one. -/
theorem get?_union (first : Fields) {second : Fields} (h : second.Distinct) (name : String) :
    get? (first.union second) name = (get? second name).or (get? first name) := by
  induction second generalizing first with
  | nil => rfl
  | cons field rest ih =>
    obtain ⟨hnew, hrest⟩ := List.nodup_cons.mp h
    have hunion : first.union (field :: rest) = (first.insert field.1 field.2).union rest := rfl
    rw [hunion, ih _ hrest, get?_insert, get?_cons]
    split_ifs with hname
    · subst hname
      rw [get?_eq_none hnew, Option.none_or, Option.some_or]
    · rfl

/-! ## The order of fields -/

/-- The fields of an object are in the order of their names, each name once. -/
def InOrder (fields : Fields) : Prop :=
  (fields.map Prod.fst).Pairwise (· < ·)

/-- In order, each name stands once. -/
lemma InOrder.distinct {fields : Fields} (h : fields.InOrder) : fields.Distinct := by
  refine h.imp fun {first second} hlt => ?_
  rintro rfl
  exact String.lt_irrefl _ hlt

/-- The names after a field has been set are its name and those that were there before. -/
lemma mem_names_insert {fields : Fields} {name other : String} {value : Json}
    (h : other ∈ (fields.insert name value).map Prod.fst) :
    other = name ∨ other ∈ fields.map Prod.fst := by
  induction fields with
  | nil => exact .inl (List.mem_singleton.mp h)
  | cons field rest ih =>
    rw [List.map_cons, List.mem_cons]
    rw [insert] at h
    split_ifs at h with hsame hbefore
    · rw [List.map_cons, List.mem_cons] at h
      exact h.imp_right .inr
    · rw [List.map_cons, List.mem_cons, List.map_cons, List.mem_cons] at h
      exact h
    · rw [List.map_cons, List.mem_cons] at h
      rcases h with hfirst | hrest
      · exact .inr (.inl hfirst)
      · exact (ih hrest).imp_right .inr

/-- **Setting a field keeps the order.** -/
theorem InOrder.insert {fields : Fields} (h : fields.InOrder) (name : String) (value : Json) :
    (fields.insert name value).InOrder := by
  induction fields with
  | nil => exact List.pairwise_singleton _ _
  | cons field rest ih =>
    obtain ⟨other, old⟩ := field
    obtain ⟨hlater, hrest⟩ := List.pairwise_cons.mp h
    rw [Fields.insert]
    split_ifs with hsame hbefore
    · subst hsame
      exact h
    · refine List.pairwise_cons.mpr ⟨fun later hmem => ?_, h⟩
      rcases List.mem_cons.mp hmem with rfl | hmem
      · exact hbefore
      · exact String.lt_trans hbefore (hlater later hmem)
    · refine List.pairwise_cons.mpr ⟨fun later hmem => ?_, ih hrest⟩
      rcases mem_names_insert hmem with rfl | hmem
      · exact Std.lt_of_le_of_ne (String.not_lt.mp hbefore) (Ne.symm hsame)
      · exact hlater later hmem

/-- Fields that are collected are in order. -/
theorem inOrder_ofList (list : List (String × Json)) : (ofList list).InOrder := by
  have hfold : ∀ fields : Fields, fields.InOrder →
      InOrder (list.foldl (fun fields field => fields.insert field.1 field.2) fields) := by
    induction list with
    | nil => exact fun fields h => h
    | cons field rest ih => exact fun fields h => ih _ (h.insert field.1 field.2)
  exact hfold [] .nil

end SheetFormula.Json.Fields
