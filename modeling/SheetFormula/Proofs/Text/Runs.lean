import SheetFormula.Number.Numeral
import Mathlib.Data.List.Basic
import Mathlib.Tactic.Common

/-!
# Runs before another text

A run of characters of a kind at the head of a text is the same if more text follows that does not
begin with a character of that kind, and so is a sign.

## Main results

* `SheetFormula.Text.takeWhile_append_of_head`, `SheetFormula.Text.dropWhile_append_of_head` — the
  run, and what follows it.
* `SheetFormula.Number.takeSign_append_of_head` — the sign.
-/

set_option relaxedAutoImplicit false
set_option autoImplicit false

namespace SheetFormula

namespace Text

variable {p : Char → Bool} {more : List Char} (hmore : ∀ d ∈ more.head?, p d = false)
  (text : List Char)

include hmore

/-- A run ends before a character that is not of its kind as it does at the end of the text. -/
lemma takeWhile_append_of_head : (text ++ more).takeWhile p = text.takeWhile p := by
  induction text with
  | nil =>
    cases more with
    | nil => rfl
    | cons d more => simp [hmore d rfl]
  | cons c rest ih => rw [List.cons_append, List.takeWhile_cons, List.takeWhile_cons, ih]

/-- What follows a run goes on with what follows the text. -/
lemma dropWhile_append_of_head : (text ++ more).dropWhile p = text.dropWhile p ++ more := by
  induction text with
  | nil =>
    cases more with
    | nil => rfl
    | cons d more => simp [hmore d rfl]
  | cons c rest ih =>
    rw [List.cons_append, List.dropWhile_cons, List.dropWhile_cons, ih]
    split <;> rfl

end Text

/-- A sign, or none, stays as it is. -/
lemma Number.takeSign_append_of_head {more : List Char}
    (hmore : ∀ d ∈ more.head?, d ≠ '-' ∧ d ≠ '+') (text : List Char) :
    takeSign (text ++ more) = ((takeSign text).1, (takeSign text).2 ++ more) := by
  cases text with
  | nil =>
    cases more with
    | nil => rfl
    | cons d more => simp [takeSign, hmore d rfl]
  | cons c rest =>
    rw [List.cons_append]
    unfold takeSign
    split <;> simp_all

end SheetFormula
