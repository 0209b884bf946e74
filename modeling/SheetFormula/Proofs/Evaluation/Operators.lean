import SheetFormula.Proofs.Evaluation.Failure
import SheetFormula.Proofs.Formula.Words

/-!
# The operators of a formula

The type of trees lets every operator stand between two operands and before one. Evaluation knows
all operators but `not` between operands, and three before one; at any other place an operator is
*unknown*, which is a failure of its own. The grammar writes only operators that are known where
they stand, so the evaluation of a formula never comes upon an unknown one.

## Main definitions

* `SheetFormula.CalcError.IsUnknownOperator` — the failures of unknown operators.
* `SheetFormula.Formula.Operator.IsImplementedBetween`, `IsImplementedBefore` — the operators that
  evaluation knows between two operands, and before one.
* `SheetFormula.Formula.Expr.RootIsImplemented` — the operator at the root of a tree is known there.

## Main results

* `SheetFormula.Formula.Derives.rootIsImplemented` — the grammar writes known operators only.
* `SheetFormula.failsWith_evaluate_of_implemented` — where all operators are known, evaluation never
  fails for an unknown one.
* `SheetFormula.operators_of_compiled` — both, of every part of a formula.
-/

set_option relaxedAutoImplicit false
set_option autoImplicit false

namespace SheetFormula

open SheetFormula.Formula

/-! ## Unknown operators -/

/-- The failures of operators that evaluation does not know where they stand. -/
inductive CalcError.IsUnknownOperator : CalcError → Prop
  | between (op : Operator) : IsUnknownOperator (.eval (.unknownOperator op))
  | before (op : Operator) : IsUnknownOperator (.eval (.unknownUnaryOperator op))

/-- A failure for an operand is none of an unknown operator. -/
lemma CalcError.IsOfOperands.not_isUnknownOperator {error : CalcError} (h : error.IsOfOperands) :
    ¬ error.IsUnknownOperator := by
  cases h
  nofun

/-- A failure for arguments is none of an unknown operator. -/
lemma CalcError.IsOfArguments.not_isUnknownOperator {error : CalcError} (h : error.IsOfArguments) :
    ¬ error.IsUnknownOperator := by
  cases h <;> nofun

/-- Evaluation knows the operator between two operands: where both of them have values, it does not
fail for an unknown operator. -/
def Formula.Operator.IsImplementedBetween (op : Operator) : Prop :=
  ∀ (context : Context) (scope : Scope) (left right : Expr) (first second : Value),
    evaluate context scope left = .ok first → evaluate context scope right = .ok second →
      FailsWith (fun error => ¬ error.IsUnknownOperator)
        (evaluate context scope (.binary op left right))

/-- Evaluation knows the operator before an operand: where that has a value, it does not fail for an
unknown operator. -/
def Formula.Operator.IsImplementedBefore (op : Operator) : Prop :=
  ∀ (context : Context) (scope : Scope) (operand : Expr) (value : Value),
    evaluate context scope operand = .ok value →
      FailsWith (fun error => ¬ error.IsUnknownOperator)
        (evaluate context scope (.unary op operand))

/-- The operator at the root of a tree, if there is one, is known where it stands. -/
def Formula.Expr.RootIsImplemented : Expr → Prop
  | .binary op _ _ => op.IsImplementedBetween
  | .unary op _ => op.IsImplementedBefore
  | _ => True

/-! ## Which operators are known -/

/-- Between two operands, an operator other than `not` needs the values of both or is one of the two
that may not. -/
lemma mem_eagerOperators {op : Operator} (hop : op ≠ .not) :
    op ∈ eagerOperators ∨ op = .and ∨ op = .or := by
  cases op with
  | not => exact absurd rfl hop
  | _ => decide

section Evaluation

variable {context : Context} {scope : Scope} {left right : Expr}

/-- A truth value is its own. -/
lemma evaluate_boolean (value : Bool) :
    evaluate context scope (.boolean value) = .ok (.boolean value) := by
  rw [evaluate]

/-- An operator other than the two that may not need both of their operands needs their values. -/
lemma evaluate_binary_of_ne {op : Operator} (hand : op ≠ .and) (hor : op ≠ .or) :
    evaluate context scope (.binary op left right) = (do
      let first ← evaluate context scope left
      let second ← evaluate context scope right
      applyBinary op first second) := by
  cases op with
  | and => exact absurd rfl hand
  | or => exact absurd rfl hor
  | _ =>
    rw [evaluate]
    all_goals simp

/-- Between operands with values, the operators that may not need both of them never fail. -/
lemma failsWith_and_or {kind : CalcError → Prop} {op : Operator} (hop : op = .and ∨ op = .or)
    {first second : Value} (hleft : evaluate context scope left = .ok first)
    (hright : evaluate context scope right = .ok second) :
    FailsWith kind (evaluate context scope (.binary op left right)) := by
  rcases hop with rfl | rfl
  all_goals
    rw [evaluate, hleft, hright]
    simp only [bind, Except.bind]
    split_ifs <;> exact .ok _

end Evaluation

/-- Between two operands, evaluation knows all operators but `not`. -/
theorem isImplementedBetween_iff {op : Operator} : op.IsImplementedBetween ↔ op ≠ .not := by
  constructor
  · rintro h rfl
    refine h ⟨⟨0, 0⟩, .utc, 0, fun _ => none⟩ ⟨[], [], .european⟩ _ _ _ _ (evaluate_boolean true)
      (evaluate_boolean true) (.eval (.unknownOperator .not)) ?_ (.between .not)
    rw [evaluate_binary_of_ne (by decide) (by decide), evaluate_boolean]
    rfl
  · intro hop context scope left right first second hleft hright
    rcases mem_eagerOperators hop with hmem | hlazy
    · have hand : op ≠ .and := by rintro rfl; exact absurd hmem (by decide)
      have hor : op ≠ .or := by rintro rfl; exact absurd hmem (by decide)
      rw [evaluate_binary_of_ne hand hor, hleft, hright]
      exact (failsWith_applyBinary_of_mem hmem first second).mono fun _ h => h.not_isUnknownOperator
    · exact failsWith_and_or hlazy hleft hright

/-- Before an operand, evaluation knows the operators that the grammar writes there. -/
theorem isImplementedBefore_iff {op : Operator} :
    op.IsImplementedBefore ↔ op ∈ unaryOperators := by
  constructor
  · intro h
    by_contra hop
    refine h ⟨⟨0, 0⟩, .utc, 0, fun _ => none⟩ ⟨[], [], .european⟩ _ _ (evaluate_boolean true)
      (.eval (.unknownUnaryOperator op)) ?_ (.before op)
    rw [evaluate, evaluate_boolean]
    cases op with
    | minus | plus | not => exact absurd (by decide) hop
    | _ => rfl
  · intro hop context scope operand value hvalue
    rw [evaluate, hvalue]
    exact (failsWith_applyUnary_of_mem hop value).mono fun _ h => h.not_isUnknownOperator

/-- Where the operator at the root of a tree is known, it never fails for being unknown. -/
lemma Formula.Expr.RootIsImplemented.rootFailsWith {expr : Expr} (h : expr.RootIsImplemented) :
    expr.RootFailsWith fun error => ¬ error.IsUnknownOperator := by
  unfold Expr.RootFailsWith
  split
  · trivial
  · trivial
  · next op left right hand hor =>
    have hmem : op ∈ eagerOperators :=
      (mem_eagerOperators (isImplementedBetween_iff.mp h)).resolve_right (not_or.mpr ⟨hand, hor⟩)
    exact fun first second =>
      (failsWith_applyBinary_of_mem hmem first second).mono fun _ h => h.not_isUnknownOperator
  · exact fun value => (failsWith_applyUnary_of_mem (isImplementedBefore_iff.mp h) value).mono
      fun _ h => h.not_isUnknownOperator
  · trivial

/-- **Where all operators of a tree are known, its evaluation never comes upon an unknown one.** -/
theorem failsWith_evaluate_of_implemented {expr : Expr}
    (h : ∀ part ∈ expr.parts, part.RootIsImplemented) (context : Context) (scope : Scope) :
    FailsWith (fun error => ¬ error.IsUnknownOperator) (evaluate context scope expr) :=
  failsWith_evaluate_of_operators (fun _ h => h.not_isUnknownOperator) (fun _ => nofun)
    (fun _ => nofun) expr fun part hpart => (h part hpart).rootFailsWith

/-! ## The operators that the grammar writes -/

namespace Formula

/-- The chains of a category are of operators that are known between two operands. -/
def Category.IsImplemented : Category → Prop
  | .chain levels => ∀ level ∈ levels, ∀ op ∈ level, op.IsImplementedBetween
  | _ => True

/-- The operators of the chains of a formula are known between two operands. -/
lemma isImplemented_formulaLevels : (Category.chain formulaLevels).IsImplemented := by
  have hnot : ∀ level ∈ formulaLevels, Operator.not ∉ level := by decide
  intro level hlevel op hop
  refine isImplementedBetween_iff.mpr ?_
  rintro rfl
  exact hnot level hlevel hop

/-- What holds of the parts of the first operand, of the links and of the parts of their operands
holds of the parts of a chain. -/
lemma forall_parts_chain {P : Expr → Prop} {links : List Link} {first : Expr}
    (hfirst : ∀ part ∈ first.parts, P part)
    (hlinks : ∀ link ∈ links, ∀ left, P (link.attach left))
    (hoperands : ∀ link ∈ links, ∀ part ∈ link.operand.value.parts, P part) :
    ∀ part ∈ (links.foldl Link.attach first).parts, P part := by
  induction links generalizing first with
  | nil => exact hfirst
  | cons link links ih =>
    rw [List.forall_mem_cons] at hlinks hoperands
    refine ih ?_ hlinks.2 hoperands.2
    rw [Link.attach, Expr.parts, List.forall_mem_cons, List.forall_mem_append]
    exact ⟨hlinks.1 first, hfirst, hoperands.1⟩

/-- What holds of all keys and members, of the parts of an object and of those of the keys that
follow it holds of the parts of the object with its suffixes. -/
lemma forall_parts_suffixes {P : Expr → Prop} {suffixes : List Suffix} {object : Expr}
    (hobject : ∀ part ∈ object.parts, P part) (hindex : ∀ object key, P (.index object key))
    (hmember : ∀ object name, P (.member object name))
    (hkeys : ∀ key, Suffix.key key ∈ suffixes → ∀ part ∈ key.value.parts, P part) :
    ∀ part ∈ (suffixes.foldl Suffix.attach object).parts, P part := by
  induction suffixes generalizing object with
  | nil => exact hobject
  | cons suffix suffixes ih =>
    refine ih ?_ fun key hkey => hkeys key (List.mem_cons_of_mem _ hkey)
    cases suffix with
    | key inside =>
      rw [Suffix.attach, Expr.parts, List.forall_mem_cons, List.forall_mem_append]
      exact ⟨hindex _ _, hobject, hkeys inside (List.mem_cons_self ..)⟩
    | property token name =>
      rw [Suffix.attach, Expr.parts, List.forall_mem_cons]
      exact ⟨hmember _ _, hobject⟩

/-- **The grammar writes an operator only where it is known.**

**Proof sketch.** Induction on the derivation. Each rule adds at most one operator to those of its
parts; that of a link is one of the level of its chain. -/
theorem Derives.rootIsImplemented {category : Category} {phrase : Phrase}
    (h : Derives category phrase) (hcategory : category.IsImplemented) :
    ∀ part ∈ phrase.value.parts, part.RootIsImplemented := by
  induction h with
  | plain _ ih => exact ih isImplemented_formulaLevels
  | choice _ _ _ ihcondition ihwhenTrue ihwhenFalse =>
    rw [Expr.parts, List.forall_mem_cons, List.forall_mem_append, List.forall_mem_append]
    exact ⟨trivial, ihcondition isImplemented_formulaLevels, ihwhenTrue trivial,
      ihwhenFalse trivial⟩
  | operand _ ih => exact ih trivial
  | chain _ hlevel _ ihfirst ihlinks =>
    have htighter := (List.forall_mem_cons.mp hcategory).2
    refine forall_parts_chain (ihfirst htighter) (fun link hlink _ => ?_)
      fun link hlink => ihlinks link hlink htighter
    exact (List.forall_mem_cons.mp hcategory).1 link.op (hlevel link hlink)
  | signed hop _ ih =>
    rw [Expr.parts, List.forall_mem_cons]
    exact ⟨isImplementedBefore_iff.mpr hop, ih trivial⟩
  | unsigned _ ih => exact ih trivial
  | unraised _ ih => exact ih trivial
  | raised _ _ ihbase ihexponent =>
    rw [Expr.parts, List.forall_mem_cons, List.forall_mem_append]
    exact ⟨isImplementedBetween_iff.mpr (by decide), ihbase trivial, ihexponent trivial⟩
  | suffixed _ _ _ ihhead ihkeys =>
    exact forall_parts_suffixes (ihhead trivial) (fun _ _ => trivial) (fun _ _ => trivial)
      fun key hkey => ihkeys key hkey trivial
  | called _ _ _ _ iharguments ihkeys =>
    refine forall_parts_suffixes ?_ (fun _ _ => trivial) (fun _ _ => trivial)
      fun key hkey => ihkeys key hkey trivial
    rw [Expr.parts, List.forall_mem_cons]
    refine ⟨trivial, fun part hpart => ?_⟩
    obtain ⟨expr, hexpr, hpart⟩ := mem_partsOfAll.mp hpart
    obtain ⟨argument, hargument, rfl⟩ := List.mem_map.mp hexpr
    exact iharguments argument hargument trivial part hpart
  | number | text | reference =>
    rw [Expr.parts, List.forall_mem_singleton]
    trivial
  | constant hconstant =>
    simp only [constants, List.mem_cons, Prod.mk.injEq, List.not_mem_nil, or_false] at hconstant
    rcases hconstant with ⟨-, rfl⟩ | ⟨-, rfl⟩ | ⟨-, rfl⟩ | ⟨-, rfl⟩ | ⟨-, rfl⟩ | ⟨-, rfl⟩
    all_goals
      rw [Expr.parts, List.forall_mem_singleton]
      trivial
  | group _ ih => exact ih trivial

end Formula

/-! ## Formulas -/

/-- **A formula and its evaluation agree on the operators.** Every operator of a tree that a text
compiles to is one that evaluation knows where it stands, and no part of the tree, whatever the
scope and the context, fails for an unknown operator.

**Proof sketch.** The tree of a text has a derivation, by soundness of the reader, and so all its
operators are known where they stand. The parts of a part are parts of the tree, so the same is true
of each of them; and a tree whose operators are all known never fails for an unknown one. -/
theorem operators_of_compiled {text : String} {expr : Expr} (h : compile text = .ok expr) :
    ∀ part ∈ expr.parts, part.RootIsImplemented ∧
      ∀ context scope, FailsWith (fun error => ¬ error.IsUnknownOperator)
        (evaluate context scope part) := by
  obtain ⟨tokens, need, -, hderives⟩ := derives_of_compile h
  have himplemented := hderives.rootIsImplemented trivial
  intro part hpart
  refine ⟨himplemented part hpart, failsWith_evaluate_of_implemented fun inner hinner => ?_⟩
  exact himplemented inner (Expr.parts_subset hpart hinner)

/-- In the formula `not a or -b ^ c <> d`, with an operator of each kind, the sign stands before the
power. -/
theorem operators_of_negated_power :
    ∃ whole power, compile "not a or -b ^ c <> d" = .ok whole ∧
      .unary .minus power ∈ whole.parts ∧ (Expr.unary .minus power).RootIsImplemented ∧
      ∀ context scope, FailsWith (fun error => ¬ error.IsUnknownOperator)
        (evaluate context scope (.unary .minus power)) := by
  have hshape : (match compile "not a or -b ^ c <> d" with
      | .ok (.binary .or (.unary .not _) (.binary .unequal (.unary .minus _) _)) => true
      | _ => false) = true := by decide +kernel
  split at hshape
  · next operand power last hcompile =>
    have hpart : Expr.unary .minus power ∈ (Expr.binary .or (.unary .not operand)
        (.binary .unequal (.unary .minus power) last)).parts := by simp [Expr.parts]
    exact ⟨_, power, hcompile, hpart, operators_of_compiled hcompile _ hpart⟩
  · cases hshape

end SheetFormula
