import SheetFormula.Amount.Reader
import Mathlib.Data.Nat.Notation
import Mathlib.Tactic.Common

/-!
# Amounts, divided at their separators

A text of digits, marks and white space falls into runs of digits with separators between them: a
mark each, or a whole run of white space. This division is stated as a relation, without reading
from left to right, and shown to be the one that the reader of amounts works with.

## Main definitions

* `SheetFormula.Amount.Separator` — a point, a comma, or white space.
* `SheetFormula.Amount.Part` — a separator and the digits behind it.
* `SheetFormula.Amount.Divides` — the first digits of a text and the parts behind them.
* `SheetFormula.Amount.groupsOf` — the groups of a divided text.

## Main results

* `SheetFormula.Amount.exists_divides` — every text of digits, marks and white space is divided.
* `SheetFormula.Amount.groups_of_divides` — the groups of a text are those of its division.
* `SheetFormula.Amount.Divides.unique` — a text has one division.
-/

set_option relaxedAutoImplicit false
set_option autoImplicit false

namespace SheetFormula.Amount

open SheetFormula.Text (isBlank)

/-! ## Divisions -/

/-- What stands between two runs of digits. -/
inductive Separator where
  | point
  | comma
  | space
  deriving DecidableEq

/-- The character that stands for a separator; that of white space is a space. -/
def Separator.char : Separator → Char
  | .point => '.'
  | .comma => ','
  | .space => ' '

/-- A separator and the digits behind it. -/
structure Part where
  separator : Separator
  digits : List Char

/-- The separators of some parts. -/
abbrev separatorsOf (parts : List Part) : List Separator :=
  parts.map Part.separator

/-- The division of a text into its first digits and the parts behind them. Each mark separates by
itself. White space separates as a whole run. -/
inductive Divides : List Char → List Char → List Part → Prop
  | last {digits : List Char} (hdigits : ∀ c ∈ digits, c.isDigit) : Divides digits digits []
  | mark {separator : Separator} {digits rest next : List Char} {parts : List Part}
    (hmark : separator ≠ .space) (hdigits : ∀ c ∈ digits, c.isDigit)
    (hrest : Divides rest next parts) :
    Divides (digits ++ separator.char :: rest) digits (⟨separator, next⟩ :: parts)
  | space {digits blanks rest next : List Char} {parts : List Part} (hblanks : blanks ≠ [])
    (hall : ∀ c ∈ blanks, isBlank c) (hend : ∀ c ∈ rest.head?, isBlank c = false)
    (hdigits : ∀ c ∈ digits, c.isDigit) (hrest : Divides rest next parts) :
    Divides (digits ++ (blanks ++ rest)) digits (⟨.space, next⟩ :: parts)

/-- The characters that a text is divided by: ASCII digits, the two marks, and white space. -/
def IsPlain (c : Char) : Prop :=
  c.isDigit ∨ c = '.' ∨ c = ',' ∨ isBlank c

/-! ## Classes of characters -/

/-- White space is no digit. -/
lemma isDigit_of_isBlank {c : Char} (h : isBlank c = true) : c.isDigit = false := by
  by_contra hdigit
  rw [Bool.not_eq_false] at hdigit
  simp only [Char.isDigit, Bool.and_eq_true, decide_eq_true_eq, ge_iff_le, UInt32.le_iff_toNat_le]
    at hdigit
  simp only [isBlank, Char.toNat, Bool.or_eq_true, Bool.and_eq_true, decide_eq_true_eq,
    beq_iff_eq] at h
  have hlower : 48 ≤ c.val.toNat := hdigit.1
  have hupper : c.val.toNat ≤ 57 := hdigit.2
  omega

/-- A mark is no digit. -/
lemma isDigit_char (separator : Separator) : separator.char.isDigit = false := by
  cases separator <;> rfl

/-- A mark is no white space. -/
lemma isBlank_char {separator : Separator} (h : separator ≠ .space) :
    isBlank separator.char = false := by
  cases separator with
  | space => exact absurd rfl h
  | point | comma => rfl

/-! ## Every text has a division -/

/-- A digit before a divided text belongs to its first digits. -/
lemma Divides.cons_digit {text first : List Char} {parts : List Part}
    (h : Divides text first parts) {c : Char} (hc : c.isDigit) :
    Divides (c :: text) (c :: first) parts := by
  have hcons : ∀ {digits : List Char}, (∀ c ∈ digits, c.isDigit) → ∀ c' ∈ c :: digits, c'.isDigit :=
    fun hdigits => by simpa [hc] using hdigits
  cases h with
  | last hdigits => exact .last (hcons hdigits)
  | mark hmark hdigits hrest => exact .mark hmark (hcons hdigits) hrest
  | space hblanks hall hend hdigits hrest => exact .space hblanks hall hend (hcons hdigits) hrest

/-- A text that begins with white space has no first digits. -/
lemma eq_nil_of_isBlank_head {digits rest : List Char} (hdigits : ∀ c ∈ digits, c.isDigit) {c : Char}
    (hc : c ∈ (digits ++ rest).head?) (hblank : isBlank c) : digits = [] := by
  cases digits with
  | nil => rfl
  | cons c' digits =>
    obtain rfl : c' = c := by simpa using hc
    have hdigit := hdigits c' (by simp)
    rw [isDigit_of_isBlank hblank] at hdigit
    cases hdigit

/-- White space before a divided text is a separator by itself, or more of the one that the text
begins with. -/
lemma Divides.cons_blank {text first : List Char} {parts : List Part}
    (h : Divides text first parts) {c : Char} (hc : isBlank c) :
    ∃ next parts', Divides (c :: text) [] (⟨.space, next⟩ :: parts') := by
  by_cases hend : ∀ c' ∈ text.head?, isBlank c' = false
  · exact ⟨first, parts, @Divides.space [] [c] text first parts (by simp) (by simpa using hc) hend
      (by simp) h⟩
  · simp only [not_forall, Bool.not_eq_false] at hend
    obtain ⟨c', hhead, hblank⟩ := hend
    cases h with
    | last hdigits =>
      rw [← List.append_nil text] at hhead
      obtain rfl := eq_nil_of_isBlank_head hdigits hhead hblank
      cases hhead
    | mark hmark hdigits hrest =>
      obtain rfl := eq_nil_of_isBlank_head hdigits hhead hblank
      obtain rfl : _ = c' := by simpa using hhead
      rw [isBlank_char hmark] at hblank
      cases hblank
    | @space digits blanks rest next parts' hblanks hall hend hdigits hrest =>
      obtain rfl := eq_nil_of_isBlank_head hdigits hhead hblank
      have hall' : ∀ c' ∈ c :: blanks, isBlank c' := by simpa [hc] using hall
      exact ⟨next, parts', @Divides.space [] (c :: blanks) rest next parts' (by simp) hall' hend
        (by simp) hrest⟩

/-- **Every text of digits, marks and white space has a division.** -/
theorem exists_divides {text : List Char} (h : ∀ c ∈ text, IsPlain c) :
    ∃ first parts, Divides text first parts := by
  induction text with
  | nil => exact ⟨[], [], .last (by simp)⟩
  | cons c rest ih =>
    obtain ⟨first, parts, hrest⟩ := ih fun c' hc' => h c' (List.mem_cons_of_mem _ hc')
    rcases h c (by simp) with hc | rfl | rfl | hc
    · exact ⟨c :: first, parts, hrest.cons_digit hc⟩
    · exact ⟨[], _, @Divides.mark .point [] rest first parts (by simp) (by simp) hrest⟩
    · exact ⟨[], _, @Divides.mark .comma [] rest first parts (by simp) (by simp) hrest⟩
    · obtain ⟨next, parts', hdivides⟩ := hrest.cons_blank hc
      exact ⟨[], _, hdivides⟩

/-! ## The groups of a divided text -/

/-- The groups of some first digits and the parts behind them, the last of which is ended by a
given separator, or by none. -/
def groupsOf (last : Option Separator) (first : List Char) : List Part → List Group
  | [] => [⟨first, last.map Separator.char⟩]
  | part :: rest => ⟨first, some part.separator.char⟩ :: groupsOf last part.digits rest

/-- Digits go to the group that is being read. -/
lemma groupsFrom_digits {digits : List Char} (h : ∀ c ∈ digits, c.isDigit)
    (sofar rest : List Char) :
    groupsFrom sofar false (digits ++ rest) = groupsFrom (digits.reverse ++ sofar) false rest := by
  induction digits generalizing sofar with
  | nil => rfl
  | cons c digits ih =>
    rw [List.cons_append, groupsFrom, if_pos (h c (by simp)),
      ih fun c' hc' => h c' (List.mem_cons_of_mem _ hc')]
    simp

/-- White space behind white space is skipped. -/
lemma groupsFrom_blanks {blanks : List Char} (h : ∀ c ∈ blanks, isBlank c)
    (sofar rest : List Char) :
    groupsFrom sofar true (blanks ++ rest) = groupsFrom sofar true rest := by
  induction blanks with
  | nil => rfl
  | cons c blanks ih =>
    have hc := h c (by simp)
    rw [List.cons_append, groupsFrom, isDigit_of_isBlank hc]
    simpa [hc] using ih fun c' hc' => h c' (List.mem_cons_of_mem _ hc')

/-- What does not begin with white space is read alike behind white space and elsewhere. -/
lemma groupsFrom_true {rest : List Char} (h : ∀ c ∈ rest.head?, isBlank c = false)
    (sofar : List Char) : groupsFrom sofar true rest = groupsFrom sofar false rest := by
  cases rest with
  | nil => rfl
  | cons c rest =>
    have hc : isBlank c = false := h c (by simp)
    simp [groupsFrom, hc]

/-- **The groups of a text are those of its division.**

**Proof sketch.** Induction on the division. The digits before a separator fill a group, the
separator ends it, and the groups behind are those of the rest. -/
theorem groups_of_divides {text first : List Char} {parts : List Part}
    (h : Divides text first parts) : groups text = groupsOf none first parts := by
  unfold groups
  induction h with
  | @last digits hdigits =>
    have hread := groupsFrom_digits hdigits [] []
    rw [List.append_nil, List.append_nil] at hread
    simp [hread, groupsFrom, groupsOf]
  | @mark separator digits rest next parts hmark hdigits hrest ih =>
    rw [groupsFrom_digits hdigits, groupsFrom, isDigit_char, isBlank_char hmark, ih]
    simp [groupsOf]
  | @space digits blanks rest next parts hblanks hall hend hdigits hrest ih =>
    obtain ⟨c, blanks, rfl⟩ := List.exists_cons_of_ne_nil hblanks
    have hc := hall c (by simp)
    have hskip := groupsFrom_blanks (fun c' hc' => hall c' (List.mem_cons_of_mem _ hc')) [] rest
    rw [groupsFrom_digits hdigits, List.cons_append, groupsFrom, isDigit_of_isBlank hc, hskip,
      groupsFrom_true hend, ih]
    simp [hc, groupsOf, Separator.char]

/-- Different separators stand for different characters. -/
lemma char_injective {separator separator' : Separator} (h : separator.char = separator'.char) :
    separator = separator' := by
  cases separator <;> cases separator' <;> first | rfl | exact absurd h (by decide)

/-- Different divisions have different groups. -/
lemma groupsOf_injective {first first' : List Char} {parts parts' : List Part}
    (h : groupsOf none first parts = groupsOf none first' parts') :
    first = first' ∧ parts = parts' := by
  induction parts generalizing first first' parts' with
  | nil => cases parts' <;> simp_all [groupsOf]
  | cons part rest ih =>
    cases parts' with
    | nil => simp [groupsOf] at h
    | cons part' rest' =>
      simp only [groupsOf, List.cons.injEq, Group.mk.injEq, Option.some.injEq] at h
      obtain ⟨⟨hfirst, hseparator⟩, hrest⟩ := h
      obtain ⟨hdigits, rfl⟩ := ih hrest
      obtain ⟨separator, digits⟩ := part
      obtain ⟨separator', digits'⟩ := part'
      obtain rfl : separator = separator' := char_injective hseparator
      obtain rfl : digits = digits' := hdigits
      exact ⟨hfirst, rfl⟩

/-- **A text has one division.** -/
theorem Divides.unique {text first first' : List Char} {parts parts' : List Part}
    (h : Divides text first parts) (h' : Divides text first' parts') :
    first = first' ∧ parts = parts' :=
  groupsOf_injective ((groups_of_divides h).symm.trans (groups_of_divides h'))

end SheetFormula.Amount
