import SheetFormula.Text.Shape
import Mathlib.Data.List.Basic
import Mathlib.Data.List.DropRight
import Mathlib.Data.Nat.Notation
import Mathlib.Tactic.Common

/-!
# Texts of a shape

What a text looks like of which a shape has been found: it is a run of characters of a class, one
run behind the other, and the rest. The classes of digits, white space and marks have no characters
in common.

## Main definitions

* `SheetFormula.Text.IsForeignDigit` — the decimal digits of other scripts.

## Main results

* `SheetFormula.Text.Shape.mem_times`, `mem_oneOrTwoDigits` — the texts that begin with a run.
* `SheetFormula.Text.Shape.mem_sequence_cons` — the texts that begin with one shape after another.
* `SheetFormula.Text.Shape.spans_iff`, `begins_iff` — what it means to have a shape.
* `SheetFormula.Text.isBlank_of_isDecimalDigit` — digits are no white space.
* `SheetFormula.Text.IsForeignDigit.notMem_of_isAscii` — ASCII texts have no digits of other
  scripts.
* `SheetFormula.Text.trim_of_ends` — cutting off white space changes nothing where there is none.
* `SheetFormula.Text.filter_trim` — cutting off white space keeps the other characters.
-/

set_option relaxedAutoImplicit false
set_option autoImplicit false

namespace SheetFormula.Text

/-! ## Classes of characters -/

/-- The code points of white space. -/
def blankCodes : List ℕ :=
  [9, 10, 11, 12, 13, 0x20, 0x85, 0xa0, 0x1680, 0x2000, 0x2001, 0x2002, 0x2003, 0x2004, 0x2005,
   0x2006, 0x2007, 0x2008, 0x2009, 0x200a, 0x2028, 0x2029, 0x202f, 0x205f, 0x3000]

/-- White space has one of its code points. -/
lemma mem_blankCodes {c : Char} (h : isBlank c = true) : c.toNat ∈ blankCodes := by
  simp only [isBlank, Bool.or_eq_true, Bool.and_eq_true, decide_eq_true_eq, beq_iff_eq] at h
  simp only [blankCodes, List.mem_cons, List.not_mem_nil, or_false]
  omega

/-- White space is no digit of any script. -/
lemma isDecimalDigit_of_isBlank {c : Char} (h : isBlank c = true) : isDecimalDigit c = false := by
  have hcodes : ∀ n ∈ blankCodes, isDecimalDigit (Char.ofNat n) = false := by decide
  rw [← Char.ofNat_toNat c]
  exact hcodes c.toNat (mem_blankCodes h)

/-- Digits of any script are no white space. -/
lemma isBlank_of_isDecimalDigit {c : Char} (h : isDecimalDigit c = true) : isBlank c = false := by
  by_contra hblank
  rw [isDecimalDigit_of_isBlank (by simpa using hblank)] at h
  cases h

/-- ASCII digits are digits. -/
lemma isDecimalDigit_of_isDigit {c : Char} (h : c.isDigit = true) : isDecimalDigit c = true := by
  simp [isDecimalDigit, h]

/-- A decimal digit that is none of ASCII. -/
structure IsForeignDigit (c : Char) : Prop where
  isDecimalDigit : isDecimalDigit c = true
  isDigit : c.isDigit = false

/-- Foreign digits are no white space. -/
lemma IsForeignDigit.isBlank {c : Char} (h : IsForeignDigit c) : Text.isBlank c = false :=
  isBlank_of_isDecimalDigit h.isDecimalDigit

/-- Foreign digits are other characters than those that are no digits. -/
lemma IsForeignDigit.ne {c d : Char} (h : IsForeignDigit c) (hd : Text.isDecimalDigit d = false) :
    c ≠ d := by
  rintro rfl
  rw [h.isDecimalDigit] at hd
  cases hd

/-- Foreign digits are not among ASCII digits. -/
lemma IsForeignDigit.notMem {c : Char} (h : IsForeignDigit c) {digits : List Char}
    (hdigits : ∀ d ∈ digits, d.isDigit) : c ∉ digits := by
  intro hmem
  have hascii := hdigits c hmem
  rw [h.isDigit] at hascii
  cases hascii

/-- Foreign digits are outside ASCII. -/
lemma IsForeignDigit.le_toNat {c : Char} (h : IsForeignDigit c) : 128 ≤ c.toNat := by
  have hdigit := h.isDecimalDigit
  simp only [Text.isDecimalDigit, h.isDigit, Bool.false_or, Bool.and_eq_true,
    decide_eq_true_eq] at hdigit
  exact hdigit.1

/-- Whether a text has ASCII characters only. -/
def isAscii (text : List Char) : Bool :=
  text.all (·.toNat < 128)

/-- ASCII texts have no foreign digit. -/
lemma IsForeignDigit.notMem_of_isAscii {c : Char} (hc : IsForeignDigit c) {text : List Char}
    (h : isAscii text) : c ∉ text := by
  intro hmem
  have hcode : c.toNat < 128 := by simpa using List.all_eq_true.mp h c hmem
  exact absurd hc.le_toNat (Nat.not_le_of_lt hcode)

/-! ## Cutting off white space -/

/-- A text with other characters than white space at its two ends is kept as it is. -/
lemma trim_of_ends {text : List Char} (hfirst : ∀ c ∈ text.head?, isBlank c = false)
    (hlast : ∀ c ∈ text.getLast?, isBlank c = false) : trim text = text := by
  have hkept : ∀ run : List Char, (∀ c ∈ run.head?, isBlank c = false) →
      run.dropWhile isBlank = run := by
    intro run hrun
    cases run with
    | nil => rfl
    | cons c rest => exact List.dropWhile_cons_of_neg (by simp [hrun c rfl])
  rw [trim, trimStart, hkept text hfirst, trimEnd, hkept _ (by rwa [List.head?_reverse]),
    List.reverse_reverse]

/-- A text without white space is kept as it is. -/
lemma trim_of_forall {text : List Char} (h : ∀ c ∈ text, isBlank c = false) : trim text = text :=
  trim_of_ends (fun c hc => h c (List.mem_of_mem_head? hc))
    fun c hc => h c (List.mem_of_mem_getLast? hc)

/-- Two texts without white space are kept with a character between them. -/
lemma trim_append_cons {first last : List Char} (hfirst : ∀ c ∈ first, isBlank c = false)
    (hlast : ∀ c ∈ last, isBlank c = false) (hne : first ≠ [] ∧ last ≠ []) (c : Char) :
    trim (first ++ c :: last) = first ++ c :: last := by
  refine trim_of_ends ?_ ?_
  · intro d hd
    rw [List.head?_append_of_ne_nil _ hne.1] at hd
    exact hfirst d (List.mem_of_mem_head? hd)
  · intro d hd
    rw [← List.singleton_append, ← List.append_assoc, List.getLast?_append_of_ne_nil _ hne.2] at hd
    exact hlast d (List.mem_of_mem_getLast? hd)

/-- Cutting off white space at the end keeps what is before another character. -/
lemma trimEnd_cons {c : Char} (hc : isBlank c = false) (rest : List Char) :
    trimEnd (c :: rest) = c :: trimEnd rest := by
  rw [trimEnd, trimEnd, List.reverse_cons, List.dropWhile_append]
  split_ifs with hempty
  · rw [List.isEmpty_iff.mp hempty]
    simp [hc]
  · simp

/-- A text without white space at its two ends does not begin with white space. -/
lemma trimStart_trim (text : List Char) : trimStart (trim text) = trim text := by
  unfold trim
  have hhead := List.head?_dropWhile_not isBlank text
  cases htext : trimStart text with
  | nil => rfl
  | cons c rest =>
    rw [trimStart] at htext
    rw [htext] at hhead
    have hc : isBlank c = false := hhead
    rw [trimEnd_cons hc, trimStart, List.dropWhile_cons_of_neg (by simp [hc])]

/-- Cutting off white space twice is cutting it off once. -/
lemma trim_trim (text : List Char) : trim (trim text) = trim text := by
  have hend : trimEnd (trim text) = trim text := by
    simp only [trim, trimEnd, List.reverse_reverse, List.dropWhile_idempotent]
  rw [trim, trimStart_trim, hend]

/-- Cutting off white space keeps the first character of a text that is none. -/
lemma trim_cons {c : Char} (hc : isBlank c = false) (rest : List Char) :
    trim (c :: rest) = c :: trimEnd rest := by
  rw [trim, trimStart, List.dropWhile_cons_of_neg (by simp [hc]), trimEnd_cons hc]

/-- Cutting off white space keeps the other characters of a text. -/
lemma filter_trimStart {accepts : Char → Bool} (h : ∀ c, isBlank c = true → accepts c = false)
    (text : List Char) : (trimStart text).filter accepts = text.filter accepts := by
  induction text with
  | nil => rfl
  | cons c rest ih =>
    by_cases hc : isBlank c
    · rw [trimStart, List.dropWhile_cons_of_pos hc, ← trimStart, ih,
        List.filter_cons_of_neg (by simp [h c hc])]
    · rw [trimStart, List.dropWhile_cons_of_neg hc]

/-- Cutting off white space at both ends keeps the other characters of a text. -/
lemma filter_trim {accepts : Char → Bool} (h : ∀ c, isBlank c = true → accepts c = false)
    (text : List Char) : (trim text).filter accepts = text.filter accepts := by
  rw [trim, trimEnd, List.filter_reverse, ← trimStart, filter_trimStart h, ← List.filter_reverse,
    List.reverse_reverse, filter_trimStart h]

/-- A character that is no white space is not cut off at the beginning. -/
lemma mem_trimStart {c : Char} (hc : isBlank c = false) {text : List Char} :
    c ∈ trimStart text ↔ c ∈ text := by
  have hfilter : (trimStart text).filter (!isBlank ·) = text.filter (!isBlank ·) :=
    filter_trimStart (fun c hc => by simp [hc]) text
  simpa [hc] using congrArg (c ∈ ·) hfilter

/-- A character that is no white space is not cut off. -/
lemma mem_trim {c : Char} (hc : isBlank c = false) {text : List Char} :
    c ∈ trim text ↔ c ∈ text := by
  rw [trim, trimEnd, List.mem_reverse, ← trimStart, mem_trimStart hc, List.mem_reverse,
    mem_trimStart hc]

/-! ## Shapes -/

namespace Shape

variable {accepts : Char → Bool} {shape : Shape} {text rest : List Char}

/-- A text begins with one character of a class. -/
lemma mem_one : rest ∈ one accepts text ↔ ∃ c, accepts c = true ∧ text = c :: rest := by
  cases text with
  | nil => simp [one]
  | cons c tail =>
    rw [one]
    split_ifs with hc
    · constructor
      · intro h
        obtain rfl : rest = tail := by simpa using h
        exact ⟨c, hc, rfl⟩
      · rintro ⟨c', -, heq⟩
        simp [(List.cons.inj heq).2]
    · simp only [List.not_mem_nil, false_iff, not_exists, not_and]
      rintro c' hc' heq
      exact hc ((List.cons.inj heq).1 ▸ hc')

/-- A text begins with a given character. -/
lemma mem_char {c : Char} : rest ∈ char c text ↔ text = c :: rest := by
  simp [char, mem_one]

/-- A text begins with a run of characters of a class, of a given length. -/
lemma mem_times {n : ℕ} :
    rest ∈ times accepts n text ↔
      ∃ run, run.length = n ∧ (∀ c ∈ run, accepts c = true) ∧ text = run ++ rest := by
  induction n generalizing text with
  | zero =>
    rw [times, List.mem_singleton]
    constructor
    · rintro rfl
      exact ⟨[], rfl, by simp, rfl⟩
    · rintro ⟨run, hlength, -, rfl⟩
      rw [List.length_eq_zero_iff.mp hlength, List.nil_append]
  | succ n ih =>
    simp only [times, mem_andThen, mem_one, ih]
    constructor
    · rintro ⟨_, ⟨c, hc, rfl⟩, run, hlength, hrun, rfl⟩
      exact ⟨c :: run, by simp [hlength], by simpa [hc] using hrun, rfl⟩
    · rintro ⟨run, hlength, hrun, rfl⟩
      obtain ⟨c, run, rfl⟩ := List.exists_cons_of_length_eq_add_one hlength
      rw [List.forall_mem_cons] at hrun
      exact ⟨run ++ rest, ⟨c, hrun.1, rfl⟩, run, by simpa using hlength, hrun.2, rfl⟩

/-- A text begins with a run of characters of a class, up to a given length. -/
lemma mem_upTo {n : ℕ} :
    rest ∈ upTo accepts n text ↔
      ∃ run, run.length ≤ n ∧ (∀ c ∈ run, accepts c = true) ∧ text = run ++ rest := by
  induction n generalizing text with
  | zero =>
    rw [upTo, List.mem_singleton]
    constructor
    · rintro rfl
      exact ⟨[], by simp, by simp, rfl⟩
    · rintro ⟨run, hlength, -, rfl⟩
      rw [List.length_eq_zero_iff.mp (Nat.le_zero.mp hlength), List.nil_append]
  | succ n ih =>
    simp only [upTo, optional, List.mem_cons, mem_andThen, mem_one, ih]
    constructor
    · rintro (rfl | ⟨_, ⟨c, hc, rfl⟩, run, hlength, hrun, rfl⟩)
      · exact ⟨[], by simp, by simp, rfl⟩
      · exact ⟨c :: run, by simpa using hlength, by simpa [hc] using hrun, rfl⟩
    · rintro ⟨run, hlength, hrun, rfl⟩
      cases run with
      | nil => exact .inl rfl
      | cons c run =>
        rw [List.forall_mem_cons] at hrun
        exact .inr ⟨run ++ rest, ⟨c, hrun.1, rfl⟩, run, by simpa using hlength, hrun.2, rfl⟩

/-- A text begins with one or two digits. -/
lemma mem_oneOrTwoDigits :
    rest ∈ oneOrTwoDigits text ↔ ∃ run, (1 ≤ run.length ∧ run.length ≤ 2) ∧
      (∀ c ∈ run, isDecimalDigit c = true) ∧ text = run ++ rest := by
  simp only [oneOrTwoDigits, digits, mem_andThen, mem_times, mem_upTo]
  constructor
  · rintro ⟨_, ⟨first, hfirst, hall, rfl⟩, second, hsecond, hall', rfl⟩
    refine ⟨first ++ second, by simp; omega, ?_, by simp⟩
    simpa [or_imp, forall_and] using ⟨hall, hall'⟩
  · rintro ⟨run, ⟨hpos, htwo⟩, hall, rfl⟩
    obtain ⟨c, run, rfl⟩ := List.exists_cons_of_length_pos hpos
    rw [List.forall_mem_cons] at hall
    exact ⟨run ++ rest, ⟨[c], rfl, by simpa using hall.1, rfl⟩, run, by simpa using htwo, hall.2,
      rfl⟩

/-- Behind no shape at all comes the whole text. -/
lemma mem_sequence_nil : rest ∈ sequence [] text ↔ text = rest := by
  simp [sequence, eq_comm]

/-- A text begins with one shape and goes on with the others. -/
lemma mem_sequence_cons {shapes : List Shape} :
    rest ∈ sequence (shape :: shapes) text ↔
      ∃ middle ∈ shape text, rest ∈ sequence shapes middle :=
  mem_andThen

/-- A shape that may be missing. -/
lemma mem_optional : rest ∈ optional shape text ↔ rest = text ∨ rest ∈ shape text := by
  simp [optional]

/-- A text has a shape as a whole if nothing need come behind it. -/
lemma spans_iff : shape.spans text ↔ [] ∈ shape text := by
  simp [spans]

/-- A text has a shape at its head if something can come behind it. -/
lemma begins_iff : shape.begins text ↔ ∃ rest, rest ∈ shape text := by
  simp [begins, List.eq_nil_iff_forall_not_mem]

end Shape

end SheetFormula.Text
