import SheetFormula.Proofs.Moment.Chaining

/-!
# Plain dates and times of day

The kind of a moment is found by matching the text again with four shapes, and not by the notation
in which it was read. The shapes are all that can be read without a time of day, but for one: a
month in ISO notation, which stands for its first day. It counts as a text with a time of day.

## Main definitions

* `SheetFormula.Moment.SpellsTime` — the texts that spell a time of day.
* `SheetFormula.Moment.isBareMonth` — the texts that are a year and a month.

## Main results

* `SheetFormula.Moment.cases_of_isoFields?`, `SheetFormula.Moment.cases_of_readLocale?` — texts in
  ISO notation and in local notations.
* `SheetFormula.Moment.kind_of_ofText?` — the kind of a moment that is read.
* `SheetFormula.Library.dateAdd_keeps_kind` — steps from texts with a time of day and without one.
-/

set_option relaxedAutoImplicit false
set_option autoImplicit false

namespace SheetFormula

open SheetFormula.Calendar (Timestamp)
open SheetFormula.Text (Shape isDecimalDigit trim)

namespace Moment

/-! ## Times of day in texts -/

/-- A text spells a time of day: with the `T` of ISO notation, or with the colon of a clock. -/
def SpellsTime (text : List Char) : Prop :=
  'T' ∈ text ∨ ':' ∈ text

instance (text : List Char) : Decidable (SpellsTime text) :=
  inferInstanceAs (Decidable ('T' ∈ text ∨ ':' ∈ text))

/-- Whether a text is a year and a month in ISO notation, and nothing else. -/
def isBareMonth (text : List Char) : Bool :=
  (Shape.sequence [Shape.digits 4, Shape.char '-', Shape.digits 2]).spans text

/-- The characters of a text that are no digits. -/
def marksOf (text : List Char) : List Char :=
  text.filter (!isDecimalDigit ·)

/-- Digits are no marks. -/
lemma marksOf_append_cons {digits : List Char} (hdigits : ∀ c ∈ digits, isDecimalDigit c = true)
    {mark : Char} (hmark : isDecimalDigit mark = false) (rest : List Char) :
    marksOf (digits ++ mark :: rest) = mark :: marksOf rest := by
  have hnone : digits.filter (!isDecimalDigit ·) = [] := by simpa using hdigits
  rw [marksOf, List.filter_append, hnone, List.nil_append,
    List.filter_cons_of_pos (by simp [hmark]), ← marksOf]

/-- A run of digits has no marks. -/
lemma marksOf_eq_nil {digits : List Char} (hdigits : ∀ c ∈ digits, isDecimalDigit c = true) :
    marksOf digits = [] := by
  simpa [marksOf] using hdigits

/-- A text that has one of the shapes as a whole is a plain date. -/
lemma isPlainDate_of_mem {shape : Shape} (hshape : shape ∈ plainDateShapes) {text : List Char}
    (h : [] ∈ shape text) : isPlainDate text = true :=
  List.any_eq_true.mpr ⟨shape, hshape, Shape.spans_iff.mpr h⟩

/-- A plain date has two marks, which are the same. -/
lemma exists_marksOf_of_isPlainDate {text : List Char} (h : isPlainDate text = true) :
    ∃ mark, marksOf text = [mark, mark] := by
  obtain ⟨first, second, third, mark, rfl, hfirst, hsecond, hthird, hmark⟩ :=
    exists_of_isPlainDate h
  have hmark' : isDecimalDigit mark = false := by rcases hmark with rfl | rfl | rfl <;> decide
  exact ⟨mark, by rw [marksOf_append_cons hfirst hmark', marksOf_append_cons hsecond hmark',
    marksOf_eq_nil hthird]⟩

/-- A year and a month have one mark. -/
lemma marksOf_of_isBareMonth {text : List Char} (h : isBareMonth text = true) :
    marksOf text = ['-'] := by
  rw [isBareMonth, Shape.spans_iff] at h
  simp only [Shape.mem_sequence_cons, Shape.mem_sequence_nil, Shape.mem_char, Shape.digits,
    Shape.mem_times] at h
  obtain ⟨_, ⟨year, -, hyear, rfl⟩, _, rfl, _, ⟨month, -, hmonth, rfl⟩, rfl⟩ := h
  rw [marksOf_append_cons hyear (by decide), List.append_nil, marksOf_eq_nil hmonth]

/-- **A plain date spells no time of day, and is more than a year and a month.** -/
theorem not_spellsTime_of_isPlainDate {text : List Char} (h : isPlainDate text = true) :
    ¬ SpellsTime text ∧ isBareMonth text = false := by
  refine ⟨?_, Bool.eq_false_iff.mpr fun hmonth => ?_⟩
  · rintro (htime | hcolon)
    · exact notMem_of_isPlainDate h (by decide) (by decide) htime
    · exact notMem_of_isPlainDate h (by decide) (by decide) hcolon
  · obtain ⟨mark, hmarks⟩ := exists_marksOf_of_isPlainDate h
    rw [marksOf_of_isBareMonth hmonth] at hmarks
    simp at hmarks

/-! ## Texts in ISO notation -/

/-- **A text in ISO notation is a plain date, spells a time of day, or is a year and a month.** -/
theorem cases_of_isoFields? {text : List Char} {fields : IsoFields}
    (h : isoFields? text = some fields) :
    isPlainDate text = true ∨ SpellsTime text ∨ isBareMonth text = true := by
  obtain ⟨year, month, day, afterYear, afterMonth, afterDay, htakeYear, htakeMonth, hempty,
    htakeDay, hend⟩ := steps_of_isoFields? h
  obtain ⟨hyear, hyear', rfl⟩ := takeDigits?_eq_some.mp htakeYear
  obtain ⟨rfl, -⟩ | ⟨hmonth, hmonth', rfl⟩ := takeField?_eq_some htakeMonth
  · exact absurd rfl hempty
  obtain ⟨rfl, -⟩ | ⟨time, rfl, -⟩ := hend
  · obtain ⟨-, rfl⟩ | ⟨hday, hday', rfl⟩ := takeField?_eq_some htakeDay
    · refine .inr (.inr ?_)
      simp only [isBareMonth, Shape.spans_iff, Shape.mem_sequence_cons, Shape.mem_sequence_nil,
        Shape.mem_char, Shape.digits, Shape.mem_times]
      exact ⟨_, ⟨year, hyear, hyear', rfl⟩, _, rfl, _, ⟨month, hmonth, hmonth', rfl⟩, rfl⟩
    · refine .inl (isPlainDate_of_mem List.mem_cons_self ?_)
      simp only [Shape.mem_sequence_cons, Shape.mem_sequence_nil, Shape.mem_char, Shape.digits,
        Shape.mem_times]
      exact ⟨_, ⟨year, hyear, hyear', rfl⟩, _, rfl, _, ⟨month, hmonth, hmonth', rfl⟩, _, rfl, _,
        ⟨day, hday, hday', rfl⟩, rfl⟩
  · -- the time of day stands behind its mark, whether there is a day before it or not
    have hmark : 'T' ∈ afterMonth := by
      obtain ⟨-, rfl⟩ | ⟨-, -, rfl⟩ := takeField?_eq_some htakeDay <;> simp
    exact .inr (.inl (.inl (by simp [hmark])))

/-! ## Texts in local notations -/

/-- A date in its three layouts has the colon of a clock, or no time of day. -/
lemma colon_or_eq_of_mem_withTimes {date layout : List Part} (h : layout ∈ withTimes date) :
    .mark ':' ∈ layout ∨ layout = date := by
  simp only [withTimes, List.mem_cons, List.not_mem_nil, or_false] at h
  rcases h with rfl | rfl | rfl
  · exact .inl (List.mem_append_right _ (by decide))
  · exact .inl (List.mem_append_right _ (by decide))
  · exact .inr rfl

/-- A layout has the colon of a clock, or it is a date only. -/
lemma colon_or_dateParts_of_mem_layouts {layout : List Part} (h : layout ∈ layouts) :
    .mark ':' ∈ layout ∨
      ∃ mark a b c, (mark = '.' ∨ mark = '/') ∧ layout = dateParts mark a b c := by
  simp only [layouts, List.mem_append] at h
  rcases h with ((h | h) | h) | h
  all_goals
    refine (colon_or_eq_of_mem_withTimes h).imp_right fun hdate => ?_
    exact ⟨_, _, _, _, by decide, hdate⟩

/-- A date in a local shape with two marks of one kind is a plain date. -/
lemma IsLocaleDate.isPlainDate {first second third : List Char} {mark : Char}
    (h : IsLocaleDate first mark second mark third) :
    Moment.isPlainDate (first ++ mark :: (second ++ mark :: third)) = true := by
  have hdigits := h.isDecimalDigit
  simp only [List.mem_append, or_imp, forall_and] at hdigits
  obtain ⟨⟨hfirst, hsecond⟩, hthird⟩ := hdigits
  have hlast (marks : Shape) (hmark : ∀ text, text ∈ marks (mark :: text))
      (hlength : 1 ≤ first.length ∧ first.length ≤ 2) (hyear : third.length = 4) :
      [] ∈ Shape.sequence
        [Shape.oneOrTwoDigits, marks, Shape.oneOrTwoDigits, marks, Shape.digits 4]
        (first ++ mark :: (second ++ mark :: third)) := by
    simp only [Shape.mem_sequence_cons, Shape.mem_sequence_nil, Shape.mem_oneOrTwoDigits,
      Shape.digits, Shape.mem_times]
    exact ⟨_, ⟨first, hlength, hfirst, rfl⟩, _, hmark _, _, ⟨second, h.second_length, hsecond, rfl⟩,
      _, hmark _, _, ⟨third, hyear, hthird, by simp⟩, rfl⟩
  rcases h.year with ⟨hlength, hyear, rfl | rfl, -⟩ | ⟨hyear, hlength, rfl, -⟩
  · exact isPlainDate_of_mem (.tail _ (.head _))
      (hlast _ (fun _ => Shape.mem_char.mpr rfl) hlength hyear)
  · exact isPlainDate_of_mem (.tail _ (.tail _ (.head _)))
      (hlast _ (fun _ => Shape.mem_char.mpr rfl) hlength hyear)
  · refine isPlainDate_of_mem (.tail _ (.tail _ (.tail _ (.head _)))) ?_
    simp only [Shape.mem_sequence_cons, Shape.mem_sequence_nil, Shape.mem_oneOrTwoDigits,
      Shape.mem_char, Shape.digits, Shape.mem_times]
    exact ⟨_, ⟨first, hyear, hfirst, rfl⟩, _, rfl, _, ⟨second, h.second_length, hsecond, rfl⟩, _,
      rfl, _, ⟨third, hlength, hthird, by simp⟩, rfl⟩

/-- **A text in a local notation is a plain date or spells a time of day.** -/
theorem cases_of_readLocale? {zone : Zone} {text : List Char} {instant : Timestamp}
    (h : readLocale? zone text = some instant) : isPlainDate text = true ∨ SpellsTime text := by
  unfold readLocale? at h
  split_ifs at h with hshape
  split at h
  next wall hlayout =>
    obtain ⟨layout, hmem, hread⟩ := List.exists_of_findSome?_eq_some hlayout
    obtain ⟨values, hvalues, -⟩ := Option.bind_eq_some_iff.mp hread
    rcases colon_or_dateParts_of_mem_layouts hmem with hcolon | ⟨mark, a, b, c, hmark, rfl⟩
    · exact .inr (.inr (mark_mem_of_readParts? hvalues hcolon))
    · obtain ⟨first, mark₁, second, mark₂, third, rest, hdate, rfl, hrest⟩ :=
        exists_isLocaleDate hshape
      obtain ⟨rfl, rfl, rfl⟩ := eq_of_readParts?_dateParts hmark hdate hrest hvalues
      rw [List.append_nil]
      exact .inl hdate.isPlainDate
  next => cases h

/-! ## The kind of a moment that is read -/

/-- The kind of a text says whether it is a plain date. -/
lemma kindOf_eq_dateOnly_iff {text : List Char} :
    kindOf text = .dateOnly ↔ isPlainDate text = true := by
  unfold kindOf
  split_ifs with hplain <;> simp [hplain]

/-- **A moment that is read is a plain date if its text spells no time of day**, unless the text is
a year and a month. -/
theorem kind_of_ofText? {zone : Zone} {text : String} {moment : Moment}
    (h : ofText? zone text = some moment) :
    moment.kind = .dateOnly ↔
      ¬ SpellsTime (trim text.toList) ∧ isBareMonth (trim text.toList) = false := by
  obtain ⟨instant, hread, rfl⟩ := Option.map_eq_some_iff.mp h
  dsimp only
  rw [kindOf_eq_dateOnly_iff]
  refine ⟨not_spellsTime_of_isPlainDate, fun ⟨htime, hmonth⟩ => ?_⟩
  rcases Option.or_eq_some_iff.mp hread with hiso | ⟨-, hlocale⟩
  · obtain ⟨fields, hfields, -⟩ := Option.bind_eq_some_iff.mp hiso
    rcases cases_of_isoFields? hfields with hplain | hspells | hbare
    · exact hplain
    · exact absurd hspells htime
    · rw [hmonth] at hbare
      cases hbare
  · exact (cases_of_readLocale? hlocale).resolve_right htime

/-- A step keeps the kind of a moment. -/
lemma kind_of_plus {moment moment' : Moment} {amount : Float} {unit : DateUnit}
    (h : moment.plus amount unit = .ok moment') : moment'.kind = moment.kind := by
  obtain ⟨count, instant, hwhole, rfl | ⟨-, millis, instant', hmillis, rfl⟩⟩ := exists_of_plus h
  · rfl
  · rfl

end Moment

namespace Library

/-- A text that is taken as a date is read as one. -/
lemma ofText?_of_dateArgument {function text : String} {zone : Zone} {moment : Moment}
    (h : dateArgument function zone (some (.text text)) = .ok moment) :
    Moment.ofText? zone text = some moment := by
  by_cases htext : text = ""
  · subst htext
    cases h
  · rw [dateArgument_text htext] at h
    split at h
    next read hread =>
      cases h
      exact hread
    next => cases h

open Moment (SpellsTime isBareMonth) in
/-- **The kind of a date says whether its text has a time of day**, for all texts but those that are
a year and a month: these count as having one. A step from a text with a time of day gives a
timestamp, and one from a text without it a plain date.

**Proof sketch.** The four shapes of plain dates have two equal marks, neither of them the mark of a
time. A text in ISO notation has the first shape, goes on behind `T`, or ends with its month; a text
in a local notation is read in a layout with a colon, or ends with its date. -/
theorem dateAdd_keeps_kind (text : String) :
    (∀ (zone : Zone) (moment : Moment), Moment.ofText? zone text = some moment →
      (moment.kind = .dateOnly ↔
        ¬ SpellsTime (trim text.toList) ∧ isBareMonth (trim text.toList) = false)) ∧
    ∀ (context : Context) (arguments : List Value) (value : Value),
      arguments[0]? = some (.text text) → dateAdd context arguments = .ok value →
      ∃ zone start unit stepped, zoneArgument context arguments[3]? = .ok zone ∧
        Moment.ofText? zone text = some start ∧ unitArgument arguments[2]? = .ok unit ∧
        start.plus (Function.argument arguments 1).toNumber unit = .ok stepped ∧
        value = .text (if SpellsTime (trim text.toList) ∨ isBareMonth (trim text.toList) = true
          then stepped.toIso else stepped.toIsoDate) := by
  refine ⟨fun zone moment h => Moment.kind_of_ofText? h, fun context arguments value htext h => ?_⟩
  obtain ⟨zone, start, unit, stepped, hzone, hstart, hunit, hplus, rfl⟩ := exists_of_dateAdd h
  rw [htext] at hstart
  have hread := ofText?_of_dateArgument hstart
  refine ⟨zone, start, unit, stepped, hzone, hread, hunit, hplus, ?_⟩
  have hkind := Moment.kind_of_ofText? hread
  rw [← Moment.kind_of_plus hplus] at hkind
  cases hstepped : stepped.kind with
  | dateOnly =>
    obtain ⟨htime, hmonth⟩ := hkind.mp hstepped
    rw [if_neg (by simp [htime, hmonth]), Moment.render, hstepped]
  | dateTime =>
    have htime : SpellsTime (trim text.toList) ∨ isBareMonth (trim text.toList) = true := by
      by_contra hnone
      rw [not_or, Bool.not_eq_true] at hnone
      rw [hkind.mpr hnone] at hstepped
      cases hstepped
    rw [if_pos htime, Moment.render, hstepped]

/-- A month after the last of January, which is written without a time of day. -/
theorem dateAdd_keeps_kind_of_plain_date :
    dateAdd ⟨⟨0, 0⟩, .utc, 0.0, Zone.known⟩ [.text "31.01.2024", .number 1.0, .text "months"] =
        .ok (.text "2024-02-29") ∧
      Moment.ofText? .utc "31.01.2024" = some ⟨⟨1706659200, 0⟩, .utc, .dateOnly⟩ ∧
      (∃ stepped : Moment, stepped.toIsoDate = "2024-02-29") ∧
      ∀ moment, Moment.ofText? .utc "31.01.2024" = some moment → moment.kind = .dateOnly := by
  have hread : Moment.ofText? .utc "31.01.2024" = some ⟨⟨1706659200, 0⟩, .utc, .dateOnly⟩ := by
    decide +kernel
  have hplus : (Moment.plus ⟨⟨1706659200, 0⟩, .utc, .dateOnly⟩ 1.0 .months).toOption =
      some ⟨⟨1709164800, 0⟩, .utc, .dateOnly⟩ := by
    decide +kernel
  have hrender : Moment.render ⟨⟨1709164800, 0⟩, .utc, .dateOnly⟩ = "2024-02-29" := by
    decide +kernel
  have hadd : dateAdd ⟨⟨0, 0⟩, .utc, 0.0, Zone.known⟩ [.text "31.01.2024", .number 1.0, .text "months"] =
      .ok (.text "2024-02-29") := by
    rw [← hrender]
    exact dateAdd_of_plus rfl rfl rfl hread rfl rfl hplus (by decide +kernel)
  have htime : ¬ Moment.SpellsTime (trim "31.01.2024".toList) ∧
      Moment.isBareMonth (trim "31.01.2024".toList) = false := by
    decide +kernel
  obtain ⟨zone, start, unit, stepped, -, -, -, -, hvalue⟩ :=
    (dateAdd_keeps_kind "31.01.2024").2 _ _ _ rfl hadd
  rw [if_neg (not_or.mpr ⟨htime.1, Bool.eq_false_iff.mp htime.2⟩), Value.text.injEq] at hvalue
  exact ⟨hadd, hread, ⟨stepped, hvalue.symm⟩, fun moment hmoment =>
    ((dateAdd_keeps_kind "31.01.2024").1 _ _ hmoment).mpr htime⟩

/-- **A step from a month in ISO notation gives a timestamp**, although the text spells no time of
day. -/
theorem dateAdd_of_bare_month :
    ¬ Moment.SpellsTime (trim "2025-09".toList) ∧
      Moment.ofText? .utc "2025-09" = some ⟨⟨1756684800, 0⟩, .utc, .dateTime⟩ ∧
      dateAdd ⟨⟨0, 0⟩, .utc, 0.0, Zone.known⟩ [.text "2025-09", .number 1.0, .text "months"] =
        .ok (.text "2025-10-01T00:00:00.000Z") := by
  have hread : Moment.ofText? .utc "2025-09" = some ⟨⟨1756684800, 0⟩, .utc, .dateTime⟩ := by
    decide +kernel
  have hplus : (Moment.plus ⟨⟨1756684800, 0⟩, .utc, .dateTime⟩ 1.0 .months).toOption =
      some ⟨⟨1759276800, 0⟩, .utc, .dateTime⟩ := by
    decide +kernel
  have hrender : Moment.render ⟨⟨1759276800, 0⟩, .utc, .dateTime⟩ = "2025-10-01T00:00:00.000Z" := by
    decide +kernel
  refine ⟨by decide +kernel, hread, ?_⟩
  rw [← hrender]
  exact dateAdd_of_plus rfl rfl rfl hread rfl rfl hplus (by decide +kernel)

end Library

end SheetFormula
