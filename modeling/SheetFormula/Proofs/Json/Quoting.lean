import SheetFormula.Json.Reader
import SheetFormula.Json.Writer
import Mathlib.Data.List.Basic
import Mathlib.Tactic.Common

/-!
# Quoted texts

A text that is written as a JSON string is read back as it was, whatever follows it. A quotation
mark inside of it stands behind a backslash, so the last quoted text of a text begins at its last
quotation mark behind another character.

## Main results

* `SheetFormula.Json.readString?_escaped` — a quoted text is read back.
* `SheetFormula.Json.getLast?_of_flatMap_escaped` — what stands before a quotation mark in a quoted
  text.
* `SheetFormula.Json.eq_of_append_quote` — a text that ends with a quoted text behind a colon tells
  that text.
-/

set_option relaxedAutoImplicit false
set_option autoImplicit false

namespace SheetFormula.Json

/-! ## Reading what is quoted -/

/-- The digits of a number below 32 are read as they are written. -/
lemma readHex?_hexDigit {n : ℕ} (h : n < 32) (rest : List Char) :
    readHex? ('0' :: '0' :: hexDigit (n / 16) :: hexDigit (n % 16) :: rest) = some (n, rest) := by
  have hdigits : ∀ n < 32, hexValue? (hexDigit (n / 16)) = some (n / 16) ∧
      hexValue? (hexDigit (n % 16)) = some (n % 16) := by decide
  have hzero : hexValue? '0' = some 0 := by decide
  obtain ⟨hhigh, hlow⟩ := hdigits n h
  simp [readHex?, hzero, hhigh, hlow, Nat.div_add_mod]

/-- A control character is read from its numbered escape. -/
lemma readUnicode?_hexDigit {c : Char} (h : c.toNat < 32) (rest : List Char) :
    readUnicode? ('0' :: '0' :: hexDigit (c.toNat / 16) :: hexDigit (c.toNat % 16) :: rest) =
      some (c, rest) := by
  have hlow : ¬ (0xd800 ≤ c.toNat ∧ c.toNat < 0xdc00) := by omega
  have hhigh : ¬ (0xdc00 ≤ c.toNat ∧ c.toNat < 0xe000) := by omega
  simp [readUnicode?, readHex?_hexDigit h, hlow, hhigh, Char.ofNat_toNat]

/-- A character is read in one step from what it is written as. -/
lemma stringLoop_escaped (fuel : ℕ) (read : List Char) (c : Char) (rest : List Char) :
    stringLoop (fuel + 1) read (escaped c ++ rest) = stringLoop fuel (c :: read) rest := by
  unfold escaped
  split
  iterate 7 rfl
  · next hquote hbackslash _ _ _ _ _ =>
    split_ifs with hcontrol
    · simp [stringLoop, readEscape?, readUnicode?_hexDigit hcontrol]
    · rw [List.singleton_append, stringLoop, if_neg hquote, if_neg hbackslash, if_neg hcontrol]

/-- A string is read to its closing quotation mark. -/
lemma stringLoop_flatMap_escaped {fuel : ℕ} (read text rest : List Char)
    (hfuel : text.length < fuel) :
    stringLoop fuel read (text.flatMap escaped ++ '"' :: rest) =
      some (String.ofList (read.reverse ++ text), rest) := by
  induction text generalizing fuel read with
  | nil =>
    obtain ⟨fuel, rfl⟩ := Nat.exists_eq_add_of_lt hfuel
    simp [stringLoop]
  | cons c text ih =>
    obtain ⟨fuel, rfl⟩ : ∃ less, fuel = less + 1 := ⟨fuel - 1, by omega⟩
    rw [List.flatMap_cons, List.append_assoc, stringLoop_escaped,
      ih _ (Nat.lt_of_succ_lt_succ hfuel), List.reverse_cons, List.append_assoc,
      List.singleton_append]

/-- A text is at most as long as what it is written as. -/
lemma length_le_flatMap_escaped (text : List Char) :
    text.length ≤ (text.flatMap escaped).length := by
  have hone : ∀ c, 1 ≤ (escaped c).length := by
    intro c
    unfold escaped
    split
    iterate 7 decide
    · split_ifs <;> simp
  induction text with
  | nil => exact Nat.le_refl _
  | cons c text ih =>
    have := hone c
    rw [List.flatMap_cons, List.length_append, List.length_cons]
    omega

/-- **A quoted text is read back as it was**, whatever follows it.

**Proof sketch.** Induction on the text. Each character is read in one step from what it is written
as, and none of them is taken for the closing quotation mark. -/
theorem readString?_escaped (text : String) (rest : List Char) :
    readString? (text.toList.flatMap escaped ++ '"' :: rest) = some (text, rest) := by
  have hlength := length_le_flatMap_escaped text.toList
  unfold readString?
  rw [stringLoop_flatMap_escaped [] text.toList rest]
  · rw [List.reverse_nil, List.nil_append, String.ofList_toList]
  · rw [List.length_append, List.length_cons]
    omega

/-! ## Quotation marks in quoted texts -/

/-- A hexadecimal digit is no quotation mark. -/
lemma hexDigit_ne_quote {n : ℕ} (h : n < 16) : hexDigit n ≠ '"' := by
  have hdigits : ∀ n < 16, hexDigit n ≠ '"' := by decide
  exact hdigits n h

/-- A quotation mark is written for itself only. -/
lemma eq_of_quote_mem_escaped {c : Char} (h : '"' ∈ escaped c) : c = '"' := by
  unfold escaped at h
  split at h
  · rfl
  iterate 6 exact absurd h (by decide)
  · split_ifs at h with hcontrol
    · have hhigh : hexDigit (c.toNat / 16) ≠ '"' := hexDigit_ne_quote (by omega)
      have hlow : hexDigit (c.toNat % 16) ≠ '"' := hexDigit_ne_quote (by omega)
      simp [hhigh.symm, hlow.symm] at h
    · exact (List.mem_singleton.mp h).symm

/-- In a quoted text, a quotation mark stands behind a backslash. -/
theorem getLast?_of_flatMap_escaped {text front rest : List Char}
    (h : text.flatMap escaped = front ++ '"' :: rest) : front.getLast? = some '\\' := by
  induction text generalizing front with
  | nil => simp at h
  | cons c text ih =>
    rw [List.flatMap_cons] at h
    rcases List.append_eq_append_iff.mp h with ⟨middle, rfl, htext⟩ | ⟨middle, hc, hrest⟩
    · rw [List.getLast?_append, ih htext, Option.some_or]
    · cases middle with
      | nil =>
        have hnone : ([] : List Char).getLast? = some '\\' := ih hrest.symm
        cases hnone
      | cons mark middle =>
        obtain ⟨rfl, -⟩ := List.cons.inj hrest
        obtain rfl : c = '"' := eq_of_quote_mem_escaped (by simp [hc])
        have hfront : front = ['\\'] := by
          rcases front with _ | ⟨first, _ | ⟨second, front⟩⟩
          · cases hc
          · cases hc
            rfl
          · simp [escaped] at hc
        rw [hfront]
        rfl

/-- Of two quoted texts that end alike, each with a colon before it, none is longer. -/
lemma eq_nil_of_append_quote {front front' text text' more : List Char}
    (hfront : front ++ [':', '"'] = front' ++ [':', '"'] ++ more)
    (htext : text'.flatMap escaped = more ++ text.flatMap escaped) : more = [] := by
  rcases List.eq_nil_or_concat' more with rfl | ⟨init, mark, rfl⟩
  · rfl
  · have hsplit : (front ++ [':']) ++ ['"'] = (front' ++ [':', '"'] ++ init) ++ [mark] := by
      simpa using hfront
    obtain ⟨hbefore, hmark⟩ := List.append_inj' hsplit rfl
    obtain rfl : '"' = mark := List.singleton_inj.mp hmark
    have hmarked : text'.flatMap escaped = init ++ '"' :: text.flatMap escaped := by
      simpa using htext
    have hback := getLast?_of_flatMap_escaped hmarked
    -- before the opening quotation mark stands a colon in one text, and a backslash in the other
    have hcolon := congrArg List.getLast? hbefore
    rw [List.getLast?_append, List.getLast?_append, hback] at hcolon
    simp at hcolon

/-- **A text that ends with a quoted text behind a colon tells that text.**

**Proof sketch.** If the two quoted texts were of different lengths, the opening quotation mark of
the shorter one would stand inside the longer one, and so behind a backslash, not a colon. -/
theorem eq_of_append_quote {front front' text text' : String}
    (h : front ++ ":" ++ quote text = front' ++ ":" ++ quote text') : text = text' := by
  have hlist : front.toList ++ [':', '"'] ++ text.toList.flatMap escaped =
      front'.toList ++ [':', '"'] ++ text'.toList.flatMap escaped := by
    have hchars := congrArg String.toList h
    simp only [quote, String.toList_append, String.toList_ofList] at hchars
    have hclosed : (front.toList ++ [':', '"'] ++ text.toList.flatMap escaped) ++ ['"'] =
        (front'.toList ++ [':', '"'] ++ text'.toList.flatMap escaped) ++ ['"'] := by
      simpa using hchars
    exact List.append_cancel_right hclosed
  have hescaped : text.toList.flatMap escaped = text'.toList.flatMap escaped := by
    rcases List.append_eq_append_iff.mp hlist with ⟨more, hfront, htext⟩ | ⟨more, hfront, htext⟩
    · rwa [eq_nil_of_append_quote hfront htext, List.nil_append] at htext
    · rw [eq_nil_of_append_quote hfront htext, List.nil_append] at htext
      exact htext.symm
  have hread := readString?_escaped text []
  rw [hescaped, readString?_escaped text' []] at hread
  simpa using hread.symm

end SheetFormula.Json
