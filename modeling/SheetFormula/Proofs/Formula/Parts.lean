import SheetFormula.Formula.Expr
import Mathlib.Data.List.Basic
import Mathlib.Tactic.Common

/-!
# The parts of an expression

The parts of a tree are the trees at all its nodes. What holds of the parts of the operands, and of
a node itself, holds of all parts of the node.

## Main definitions

* `SheetFormula.Formula.Expr.parts` — the parts of a tree, the tree itself first.

## Main results

* `SheetFormula.Formula.Expr.parts_subset` — the parts of a part are parts.
-/

set_option relaxedAutoImplicit false
set_option autoImplicit false

namespace SheetFormula.Formula

mutual

/-- The parts of a tree, the tree itself first. -/
def Expr.parts : Expr → List Expr
  | .number value => [.number value]
  | .text value => [.text value]
  | .boolean value => [.boolean value]
  | .reference name => [.reference name]
  | .member object property => .member object property :: object.parts
  | .index object key => .index object key :: (object.parts ++ key.parts)
  | .call name arguments => .call name arguments :: partsOfAll arguments
  | .binary op left right => .binary op left right :: (left.parts ++ right.parts)
  | .unary op operand => .unary op operand :: operand.parts
  | .choice condition whenTrue whenFalse =>
    .choice condition whenTrue whenFalse ::
      (condition.parts ++ (whenTrue.parts ++ whenFalse.parts))

/-- The parts of some trees. -/
def partsOfAll : List Expr → List Expr
  | [] => []
  | expr :: rest => expr.parts ++ partsOfAll rest

end

/-- A part of some trees is a part of one of them. -/
lemma mem_partsOfAll {part : Expr} {list : List Expr} :
    part ∈ partsOfAll list ↔ ∃ expr ∈ list, part ∈ expr.parts := by
  induction list with
  | nil => simp [partsOfAll]
  | cons expr rest ih => simp [partsOfAll, ih]

namespace Expr

/-- **The parts of a part are parts.**

**Proof sketch.** Induction on the tree: a part is the tree itself or a part of one of its
operands. -/
theorem parts_subset {part : Expr} : ∀ {expr : Expr}, part ∈ expr.parts → part.parts ⊆ expr.parts
  | .number _, h | .text _, h | .boolean _, h | .reference _, h => by
    rw [parts, List.mem_singleton] at h
    rw [h]
    exact List.Subset.refl _
  | .member object property, h | .unary op object, h => by
    rw [parts, List.mem_cons] at h
    rcases h with rfl | h
    · exact List.Subset.refl _
    · rw [parts]
      exact List.subset_cons_of_subset _ (parts_subset h)
  | .index left right, h | .binary op left right, h => by
    rw [parts, List.mem_cons, List.mem_append] at h
    rcases h with rfl | h | h
    · exact List.Subset.refl _
    all_goals
      rw [parts]
      refine List.subset_cons_of_subset _ ?_
    · exact List.subset_append_of_subset_left _ (parts_subset h)
    · exact List.subset_append_of_subset_right _ (parts_subset h)
  | .call name arguments, h => by
    rw [parts, List.mem_cons, mem_partsOfAll] at h
    rcases h with rfl | ⟨argument, hargument, h⟩
    · exact List.Subset.refl _
    · have hsubset := parts_subset h
      rw [parts]
      refine List.subset_cons_of_subset _ fun inner hinner => ?_
      exact mem_partsOfAll.mpr ⟨argument, hargument, hsubset hinner⟩
  | .choice condition whenTrue whenFalse, h => by
    rw [parts, List.mem_cons, List.mem_append, List.mem_append] at h
    rcases h with rfl | h | h | h
    · exact List.Subset.refl _
    all_goals
      rw [parts]
      refine List.subset_cons_of_subset _ ?_
    · exact List.subset_append_of_subset_left _ (parts_subset h)
    · exact List.subset_append_of_subset_right _
        (List.subset_append_of_subset_left _ (parts_subset h))
    · exact List.subset_append_of_subset_right _
        (List.subset_append_of_subset_right _ (parts_subset h))

end Expr

end SheetFormula.Formula
