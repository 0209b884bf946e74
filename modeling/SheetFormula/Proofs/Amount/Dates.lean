import SheetFormula.Proofs.Amount.Reading
import SheetFormula.Proofs.Moment.Reading

/-!
# Dates are no amounts

The reader of amounts and the reader of dates recognize dates by different shapes. No text is read
by both: a date in ISO notation has a hyphen behind its year, and a date in a local notation has a
slash or a colon, which amounts do not have, or it is a plain date with points, which looks like a
date to the reader of amounts.

## Main results

* `SheetFormula.Amount.mem_of_hasAmountChars` — the characters of a text that may be an amount.
* `SheetFormula.Amount.looksLikeDate_of_points` — plain dates with points look like dates.
* `SheetFormula.Amount.read?_eq_none_of_ofText?` — what is read as a date is not read as an amount.
-/

set_option relaxedAutoImplicit false
set_option autoImplicit false

namespace SheetFormula.Amount

open SheetFormula.Text (Shape isDecimalDigit trim trimStart trim_trim)
open SheetFormula.Calendar (Timestamp)

/-! ## Characters of amounts -/

/-- **A text that may be an amount** has characters of amounts only, apart from a minus sign at its
beginning. -/
theorem mem_of_hasAmountChars {text : List Char} (h : hasAmountChars text = true) {c : Char}
    (hc : c ∈ text) : isAmountChar c = true ∨ text.head? = some '-' ∧ c = '-' := by
  unfold hasAmountChars at h
  split at h
  next rest =>
    simp only [Bool.and_eq_true, List.all_eq_true] at h
    rcases List.mem_cons.mp hc with rfl | hrest
    · exact .inr ⟨rfl, rfl⟩
    · exact .inl (h.2 c hrest)
  next =>
    simp only [Bool.and_eq_true, List.all_eq_true] at h
    exact .inl (h.2 c hc)

/-- A text with a slash or a colon is no amount. -/
lemma hasAmountChars_of_mark {text : List Char} {mark : Char} (hmark : mark = '/' ∨ mark = ':')
    (hmem : mark ∈ text) : hasAmountChars text = false := by
  by_contra h
  rcases mem_of_hasAmountChars (by simpa using h) hmem with hchar | ⟨-, hminus⟩
  · rcases hmark with rfl | rfl <;> exact absurd hchar (by decide)
  · rcases hmark with rfl | rfl <;> exact absurd hminus (by decide)

/-- A text with a hyphen behind digits is no amount. -/
lemma hasAmountChars_of_hyphen {digits rest : List Char} (hne : digits ≠ [])
    (hdigits : ∀ c ∈ digits, isDecimalDigit c = true) :
    hasAmountChars (digits ++ '-' :: rest) = false := by
  by_contra h
  obtain ⟨c, tail, rfl⟩ := List.exists_cons_of_ne_nil hne
  rcases mem_of_hasAmountChars (by simpa using h) (show '-' ∈ c :: tail ++ '-' :: rest by simp)
    with hchar | ⟨hhead, -⟩
  · exact absurd hchar (by decide)
  · obtain rfl : c = '-' := by simpa using hhead
    exact absurd (hdigits '-' (by simp)) (by decide)

/-! ## Texts that look like dates -/

/-- **A plain date with points looks like a date.** -/
theorem looksLikeDate_of_points {text day month year : List Char}
    (htext : trim text = day ++ '.' :: (month ++ '.' :: year))
    (hdigits : ∀ c ∈ day ++ month ++ year, isDecimalDigit c = true)
    (hday : 1 ≤ day.length ∧ day.length ≤ 2) (hmonth : 1 ≤ month.length ∧ month.length ≤ 2)
    (hyear : year.length = 4) : looksLikeDate text = true := by
  simp only [List.mem_append, or_imp, forall_and] at hdigits
  obtain ⟨⟨hday', hmonth'⟩, hyear'⟩ := hdigits
  have hshape : (dayFirstShape '.').spans (trim text) = true := by
    simp only [Shape.spans_iff, dayFirstShape, Shape.mem_sequence_cons, Shape.mem_sequence_nil,
      Shape.mem_oneOrTwoDigits, Shape.mem_char, Shape.mem_orElse, Shape.digits, Shape.mem_times,
      Shape.mem_optional]
    exact ⟨_, ⟨day, hday, hday', htext⟩, _, rfl, _, ⟨month, hmonth, hmonth', rfl⟩, _, rfl, [],
      .inl ⟨year, hyear, hyear', by simp⟩, [], .inl rfl, rfl⟩
  simp [looksLikeDate, hshape]

/-! ## Dates -/

/-- Texts that may be amounts are not in ISO notation. -/
lemma hasAmountChars_of_readIso? {zone : Zone} {text : List Char} {instant : Timestamp}
    (h : Moment.readIso? zone text = some instant) : hasAmountChars text = false := by
  obtain ⟨fields, hfields, -⟩ := Option.bind_eq_some_iff.mp h
  obtain ⟨rest, rfl, ⟨hlength, hdigits⟩, -⟩ := Moment.exists_of_isoFields? hfields
  exact hasAmountChars_of_hyphen (List.ne_nil_of_length_pos (by omega)) hdigits

/-- **What is read as a date is not read as an amount**, in whatever zone and format. -/
theorem read?_eq_none_of_ofText? {zone : Zone} {text : String} {moment : Moment}
    (h : Moment.ofText? zone text = some moment) (format : NumberFormat) :
    read? format text = none := by
  have hrefused : hasAmountChars (trim text.toList) = false ∨
      looksLikeDate (trim text.toList) = true := by
    obtain ⟨instant, hread, -⟩ := Option.map_eq_some_iff.mp h
    rcases Option.or_eq_some_iff.mp hread with hiso | ⟨-, hlocale⟩
    · exact .inl (hasAmountChars_of_readIso? hiso)
    · rcases Moment.mem_or_exists_of_readLocale? hlocale with
        hslash | hcolon | ⟨day, month, year, htext, hdigits, hday, hmonth, hyear⟩
      · exact .inl (hasAmountChars_of_mark (.inl rfl) hslash)
      · exact .inl (hasAmountChars_of_mark (.inr rfl) hcolon)
      · rw [← trim_trim] at htext
        exact .inr (looksLikeDate_of_points htext hdigits hday hmonth hyear)
  refine if_neg ?_
  rintro ⟨-, hdate, hchars⟩
  rcases hrefused with hrefused | hrefused
  · rw [hrefused] at hchars
    cases hchars
  · exact hdate hrefused

end SheetFormula.Amount
