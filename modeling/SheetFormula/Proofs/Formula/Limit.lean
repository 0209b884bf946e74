import Mathlib
import SheetFormula.Proofs.Formula.Completeness

/-!
# The limit on nesting is exact

The tokens of a formula fix its need, and a formula is refused as nested too deeply exactly if the
levels that it takes up, its own included, are more than the limit. No rule forgets a level or gives
one back twice: in a chain and in a run of suffixes, the `i`-th part stands `i` levels deeper than
the first one, whatever has been read before it.

## Main results

* `SheetFormula.Formula.max_needInTurn` — the need of parts in a row.
* `SheetFormula.Formula.Derives.need_unique` — tokens have one need.
* `SheetFormula.Formula.parse_tooDeep_iff` — the formulas that are nested too deeply.
-/

set_option relaxedAutoImplicit false
set_option autoImplicit false

namespace SheetFormula.Formula

/-! ## Parts in a row -/

/-- Parts in turn fit into some levels if each one does, the `i`-th of them with `i` levels in front
of it. -/
lemma needInTurn_le_iff {needs : List ℕ} {limit : ℕ} :
    needInTurn needs ≤ limit ↔ ∀ i < needs.length, i + 1 + needs.getD i 0 ≤ limit := by
  induction needs generalizing limit with
  | nil => simp
  | cons need rest ih =>
    rw [needInTurn_cons, List.length_cons, Nat.forall_lt_succ_left']
    cases limit with
    | zero => simp
    | succ below =>
      rw [Nat.succ_le_succ_iff, Nat.max_le, ih]
      simp only [List.getD_cons_zero, List.getD_cons_succ]
      refine and_congr (by omega) (forall₂_congr fun i _ => by omega)

/-- **The need of parts in a row** is the greatest need of a part with the number of those in front
of it. -/
theorem max_needInTurn (first : ℕ) (rest : List ℕ) :
    max first (needInTurn rest) =
      (Finset.range (rest.length + 1)).sup fun i => i + (first :: rest).getD i 0 := by
  refine eq_of_forall_ge_iff fun limit => ?_
  rw [max_le_iff, needInTurn_le_iff, Finset.sup_le_iff]
  simp only [Finset.mem_range, Nat.forall_lt_succ_left', List.getD_cons_zero, List.getD_cons_succ,
    Nat.zero_add]

/-! ## One need -/

/-- **Tokens have one need**: with as many levels as the smaller one of two needs, the phrase is
read, and so the other need is no greater. -/
theorem Derives.need_unique {category : Category} {phrase other : Phrase}
    (h : Derives category phrase) (hother : Derives category other) (hproper : category.Proper)
    (htokens : other.tokens = phrase.tokens) : other.need = phrase.need := by
  have hle {p q : Phrase} (hp : Derives category p) (hq : Derives category q)
      (hsame : p.tokens = q.tokens) : q.need ≤ p.need := by
    by_contra hmore
    have hread := reads_of_derives hp hproper p.need p.tokens [] (by simp) (stops_nil _)
    have hdeep := reads_of_derives hq hproper p.need p.tokens [] (by simp [hsame]) (stops_nil _)
    obtain ⟨shorter, hok⟩ := hread.1 le_rfl
    obtain ⟨left, herror⟩ := hdeep.2 hmore
    rw [hok] at herror
    cases herror
  exact Nat.le_antisymm (hle h hother htokens.symm) (hle hother h htokens)

/-! ## The limit -/

/-- **A formula is nested too deeply exactly if its need is beyond the limit.** A formula takes up
one level and, below it, those that its phrase needs; there is one need to its tokens. In the rules
of the grammar, the need of parts in a row, as the operands of a chain and the suffixes behind a
primary, is the greatest sum of the number of a part, from zero on, and its need. -/
theorem parse_tooDeep_iff {phrase : Phrase} (h : Derives .conditional phrase) :
    ((∃ failure, parse phrase.tokens = .error failure ∧
        failure.fault.message = "Expression nested too deeply") ↔ 128 < 1 + phrase.need) ∧
      (∀ other, Derives .conditional other → other.tokens = phrase.tokens →
        other.need = phrase.need) ∧
      ∀ first rest, max first (needInTurn rest) =
        (Finset.range (rest.length + 1)).sup fun i => i + (first :: rest).getD i 0 := by
  refine ⟨⟨?_, fun hneed => ?_⟩, fun other hother => h.need_unique hother trivial,
    max_needInTurn⟩
  · rintro ⟨failure, hfailure, -⟩
    by_contra hneed
    have hparse := parse_of_derives (show phrase.need < maxDepth by unfold maxDepth; omega) h
    rw [hfailure] at hparse
    cases hparse
  · obtain ⟨position, hparse⟩ :=
      parse_tooDeep_of_derives (show maxDepth ≤ phrase.need by unfold maxDepth; omega) h
    exact ⟨_, hparse, rfl⟩

/-- Signs before a number need a level each. -/
lemma exists_signs (count : ℕ) :
    ∃ value, Derives .conditional
      ⟨List.replicate count (.operator .minus) ++ [.number 1], value, count⟩ := by
  suffices h : ∃ value, Derives .unary
      ⟨List.replicate count (.operator .minus) ++ [.number 1], value, count⟩ by
    obtain ⟨value, hvalue⟩ := h
    exact ⟨value, .plain (hvalue.chain_of_unary _)⟩
  induction count with
  | zero =>
    exact ⟨_, .unsigned (.unraised (@Derives.suffixed _ [] (.number 1) (by simp) (by simp)))⟩
  | succ count ih =>
    obtain ⟨value, hvalue⟩ := ih
    exact ⟨_, .signed (by simp) hvalue⟩

/-- As many signs before a number as the limit allows, and one more. -/
theorem parse_tooDeep_of_signs :
    (∃ value, Derives .conditional
        ⟨List.replicate 128 (.operator .minus) ++ [.number 1], value, 128⟩) ∧
      (∃ failure, parse (List.replicate 128 (.operator .minus) ++ [.number 1]) = .error failure ∧
        failure.fault.message = "Expression nested too deeply") ∧
      ¬ ∃ failure, parse (List.replicate 127 (.operator .minus) ++ [.number 1]) = .error failure ∧
        failure.fault.message = "Expression nested too deeply" := by
  obtain ⟨value, hvalue⟩ := exists_signs 128
  obtain ⟨value', hvalue'⟩ := exists_signs 127
  have hmore : 128 < 1 + 128 := by decide
  refine ⟨⟨value, hvalue⟩, (parse_tooDeep_iff hvalue).1.mpr hmore, fun hdeep => ?_⟩
  have hless : 128 < 1 + 127 := (parse_tooDeep_iff hvalue').1.mp hdeep
  omega

end SheetFormula.Formula
