import SheetFormula.Proofs.Moment.ForeignDigits
import SheetFormula.Proofs.Moment.Range

/-!
# Fields in range

A text in ISO notation is only read if its month, its day, its hour, its minute and its second
exist. The hours and minutes of an offset are not checked one by one, but together: they must come
to less than a day. So an offset may have up to 99 minutes, while the reader of zones refuses more
than 59.

## Main definitions

* `SheetFormula.Moment.IsoFields.InRange` — fields of which all name something that exists.
* `SheetFormula.Moment.IsoFields.offsetHours`, `SheetFormula.Moment.IsoFields.offsetMinutes` — the
  two numbers of an offset.

## Main results

* `SheetFormula.Moment.IsoFields.isSome_wall?_iff` — when fields name a wall-clock time.
* `SheetFormula.Moment.readLocale?_of_isoFields?` — a text in ISO notation is in no local one.
* `SheetFormula.Moment.isSome_ofText?_of_isoFields?` — when a text in ISO notation is read.
* `SheetFormula.Moment.offset_beyond_59_minutes` — an offset that is read although it has 75
  minutes.
-/

set_option relaxedAutoImplicit false
set_option autoImplicit false

namespace SheetFormula.Moment

open SheetFormula.Calendar (Date Timestamp daysInMonth)
open SheetFormula.Text (isAscii isDecimalDigit trim)
open SheetFormula.Number (digitsValue)

/-! ## Ranges -/

namespace IsoFields

/-- Fields in range: a month of the year, a day of that month, and a time of day. A field that is
missing is in range. -/
structure InRange (fields : IsoFields) : Prop where
  month : 1 ≤ digitsValue fields.month ∧ digitsValue fields.month ≤ 12
  day : fields.day ≠ [] → 1 ≤ digitsValue fields.day ∧
    digitsValue fields.day ≤ daysInMonth (digitsValue fields.year) (digitsValue fields.month)
  hour : digitsValue fields.hour < 24
  minute : digitsValue fields.minute < 60
  second : digitsValue fields.second < 60

/-- The digits of an offset, behind its sign. -/
def offsetDigits (fields : IsoFields) : List Char :=
  (fields.offset.drop 1).filter Char.isDigit

/-- The hours of an offset; `Z` has none. -/
def offsetHours (fields : IsoFields) : ℕ :=
  digitsValue (fields.offsetDigits.take 2)

/-- The minutes of an offset, zero if there are none. -/
def offsetMinutes (fields : IsoFields) : ℕ :=
  digitsValue (fields.offsetDigits.drop 2)

end IsoFields

/-! ## Fields in ASCII digits -/

/-- A field behind a mark consists of digits. -/
lemma forall_of_takeField? {mark : Char} {text field rest : List Char}
    (h : takeField? mark text = some (field, rest)) : ∀ c ∈ field, isDecimalDigit c = true := by
  obtain ⟨rfl, -⟩ | ⟨-, hdigits, -⟩ := takeField?_eq_some h
  · simp
  · exact hdigits

/-- A fraction consists of digits. -/
lemma forall_of_takeFraction? {text fraction rest : List Char}
    (h : takeFraction? text = some (fraction, rest)) :
    ∀ c ∈ fraction, isDecimalDigit c = true := by
  unfold takeFraction? at h
  split at h
  next =>
    cases h
    simp
  next c tail =>
    dsimp only at h
    split_ifs at h
    all_goals
      cases h
    · exact fun c hc => List.mem_takeWhile_imp hc
    · simp

/-- The digits of a date and a time of day, without the offset. -/
def IsoFields.digits (fields : IsoFields) : List Char :=
  fields.year ++ fields.month ++ fields.day ++ fields.hour ++ fields.minute ++ fields.second ++
    fields.fraction

/-- The fields of a date and a time of day consist of digits. -/
lemma isDecimalDigit_of_isoFields? {text : List Char} {fields : IsoFields}
    (h : isoFields? text = some fields) : ∀ c ∈ fields.digits, isDecimalDigit c = true := by
  obtain ⟨year, month, day, afterYear, afterMonth, afterDay, hyear, hmonth, -, hday, hfields⟩ :=
    steps_of_isoFields? h
  have hyear := (takeDigits?_eq_some.mp hyear).2.1
  have hmonth := forall_of_takeField? hmonth
  have hday := forall_of_takeField? hday
  obtain ⟨-, rfl⟩ | ⟨time, -, htime⟩ := hfields
  · simp only [IsoFields.digits, List.append_nil, List.mem_append]
    rintro c ((hc | hc) | hc)
    exacts [hyear c hc, hmonth c hc, hday c hc]
  obtain ⟨hour, minute, second, fraction, offset, afterHour, afterMinute, afterSecond, hhour, hminute,
    hsecond, hfraction, -, rfl⟩ := exists_of_timeFields? htime
  have hhour := (takeDigits?_eq_some.mp hhour).2.1
  have hminute := forall_of_takeField? hminute
  have hsecond : ∀ c ∈ second, isDecimalDigit c = true := by
    split_ifs at hsecond
    · cases hsecond
      simp
    · exact forall_of_takeField? hsecond
  have hfraction : ∀ c ∈ fraction, isDecimalDigit c = true := by
    split_ifs at hfraction
    · cases hfraction
      simp
    · exact forall_of_takeFraction? hfraction
  simp only [IsoFields.digits, List.mem_append]
  rintro c ((((((hc | hc) | hc) | hc) | hc) | hc) | hc)
  exacts [hyear c hc, hmonth c hc, hday c hc, hhour c hc, hminute c hc, hsecond c hc, hfraction c hc]

/-- The digits of the fields of an ASCII text are ASCII digits, also those of the offset. -/
lemma isDigit_of_isoFields? {text : List Char} (hascii : isAscii text) {fields : IsoFields}
    (h : isoFields? (trim text) = some fields) :
    (∀ c ∈ fields.digits, c.isDigit) ∧
      ∀ c ∈ fields.offset, isDecimalDigit c = true → c.isDigit := by
  have hfilter := filter_of_isoFields? h
  have hdigit : ∀ c ∈ fields.digits ++ fields.offset, isDecimalDigit c = true → c.isDigit := by
    intro c hc hdecimal
    by_contra hforeign
    have hc' : Text.IsForeignDigit c := ⟨hdecimal, by simpa using hforeign⟩
    have hmem : c ∈ (trim text).filter isDecimalDigit := by
      rw [hfilter]
      exact List.mem_filter.mpr ⟨hc, hdecimal⟩
    exact hc'.notMem_of_isAscii hascii ((Text.mem_trim hc'.isBlank).mp (List.mem_filter.mp hmem).1)
  simp only [List.mem_append] at hdigit
  exact ⟨fun c hc => hdigit c (.inl hc) (isDecimalDigit_of_isoFields? h c hc),
    fun c hc => hdigit c (.inr hc)⟩

/-! ## Wall-clock times -/

/-- A field in ASCII digits has their value, unless it is missing. -/
lemma fieldValue?_getD {digits : List Char} (h : ∀ c ∈ digits, c.isDigit) (missing : ℕ) :
    (fieldValue? digits).getD missing = if digits = [] then missing else digitsValue digits := by
  have hall : digits.all Char.isDigit = true := List.all_eq_true.mpr h
  unfold fieldValue?
  by_cases hempty : digits = [] <;> simp [hempty, hall]

/-- A time of day on a date exists if the date does and the time is in range. -/
lemma isSome_ofFields?_iff {date : Date} {hour minute second nanos : ℕ} :
    (Timestamp.ofFields? date hour minute second nanos).isSome ↔
      date.isValid ∧ hour < 24 ∧ minute < 60 ∧ second ≤ 60 := by
  unfold Timestamp.ofFields?
  split_ifs <;> simp_all

/-- **Fields in ASCII digits name a wall-clock time exactly if all of them are in range.** -/
theorem IsoFields.isSome_wall?_iff {fields : IsoFields} (hdigits : ∀ c ∈ fields.digits, c.isDigit)
    (hyear : fields.year ≠ []) (hmonth : fields.month ≠ []) :
    fields.wall?.isSome ↔ fields.InRange := by
  simp only [IsoFields.digits, List.mem_append, or_imp, forall_and] at hdigits
  obtain ⟨⟨⟨⟨⟨⟨hyear', hmonth'⟩, hday⟩, hhour⟩, hminute⟩, hsecond⟩, hfraction⟩ := hdigits
  have hvalue {digits : List Char} (h : ∀ c ∈ digits, c.isDigit) (hne : digits ≠ []) :
      fieldValue? digits = some (digitsValue digits) :=
    if_pos ⟨hne, List.all_eq_true.mpr h⟩
  have hzero {digits : List Char} (h : ∀ c ∈ digits, c.isDigit) :
      (fieldValue? digits).getD 0 = digitsValue digits := by
    rw [fieldValue?_getD h]
    split_ifs with hempty
    · rw [hempty]
      rfl
    · rfl
  have hnanos : fractionNanos? fields.fraction =
      some (digitsValue fields.fraction * Nat.pow 10 (9 - fields.fraction.length)) :=
    if_pos (List.all_eq_true.mpr hfraction)
  have hday' : (1 ≤ (if fields.day = [] then 1 else digitsValue fields.day) ∧
      (if fields.day = [] then 1 else digitsValue fields.day) ≤
        daysInMonth (digitsValue fields.year) (digitsValue fields.month)) ↔
      (fields.day ≠ [] → 1 ≤ digitsValue fields.day ∧
        digitsValue fields.day ≤
          daysInMonth (digitsValue fields.year) (digitsValue fields.month)) := by
    have hlength := (Calendar.daysInMonth_bounds (digitsValue fields.year)
      (digitsValue fields.month)).1
    split_ifs with hempty
    · exact iff_of_true ⟨le_rfl, by omega⟩ fun hne => absurd hempty hne
    · simp [hempty]
  simp only [wall?, hvalue hyear' hyear, hvalue hmonth' hmonth, hnanos, hzero hhour, hzero hminute,
    hzero hsecond, fieldValue?_getD hday, Option.bind_eq_bind, Option.bind_some]
  by_cases hlate : 60 ≤ digitsValue fields.second
  · rw [if_pos hlate]
    exact iff_of_false (by simp) fun h => absurd h.second (by omega)
  · rw [if_neg hlate, isSome_ofFields?_iff, Date.isValid_iff]
    dsimp only
    constructor
    · rintro ⟨⟨hfirst, hlast, hdate⟩, hhour, hminute, -⟩
      exact ⟨⟨hfirst, hlast⟩, hday'.mp hdate, hhour, hminute, by omega⟩
    · rintro ⟨⟨hfirst, hlast⟩, hdate, hhour, hminute, hsecond⟩
      exact ⟨⟨hfirst, hlast, hday'.mpr hdate⟩, hhour, hminute, by omega⟩

/-! ## Offsets -/

section Offset

variable {fields : IsoFields} (hascii : ∀ c ∈ fields.offset, isDecimalDigit c = true → c.isDigit)

include hascii in
/-- An offset of more than a mark has two digits at least. -/
lemma IsoFields.two_le_length_offsetDigits (hoffset : isOffset fields.offset = true)
    (hlength : 2 ≤ fields.offset.length) : 2 ≤ fields.offsetDigits.length := by
  unfold offsetDigits
  generalize fields.offset = offset at *
  unfold isOffset at hoffset
  split at hoffset
  · simp at hlength
  all_goals simp_all

/-- The seconds of an offset of more than a mark are less than a day, or there are none. -/
lemma IsoFields.isSome_offsetSeconds?_iff (hdigits : 2 ≤ fields.offsetDigits.length) :
    (offsetSeconds? fields.offset).isSome ↔
      60 * fields.offsetHours + fields.offsetMinutes < 1440 := by
  have hseconds : offsetSeconds? fields.offset =
      if fields.offsetDigits.length < 2 ∨
          86400 ≤ 3600 * fields.offsetHours + 60 * fields.offsetMinutes then none
      else some (if fields.offset.head? = some '-' then
        -((3600 * fields.offsetHours + 60 * fields.offsetMinutes : ℕ) : ℤ)
        else ((3600 * fields.offsetHours + 60 * fields.offsetMinutes : ℕ) : ℤ)) := rfl
  rw [hseconds]
  split_ifs <;> simp <;> omega

include hascii in
/-- **An instant is found for a wall-clock time** if its offset is less than a day. Without an
offset, it is up to the zone. -/
theorem IsoFields.isSome_instant?_iff (hoffset : fields.offset = [] ∨ isOffset fields.offset = true)
    {wall : Timestamp} (hyear : wall.HasFourDigitYear) (zone : Zone) :
    (fields.instant? zone wall).isSome ↔
      60 * fields.offsetHours + fields.offsetMinutes < 1440 ∧
        (fields.offset = [] → (zone.instantAt? wall).isSome) := by
  rcases hoffset with hnone | hoffset
  · simp [instant?, offsetHours, offsetMinutes, offsetDigits, hnone, Number.digitsValue]
  by_cases hlength : 2 ≤ fields.offset.length
  · have hdigits := two_le_length_offsetDigits hascii hoffset hlength
    have hne : fields.offset ≠ [] := List.ne_nil_of_length_pos (by omega)
    rw [instant?_of_two_le hlength, ← isSome_offsetSeconds?_iff hdigits]
    cases hseconds : offsetSeconds? fields.offset with
    | none => simp
    | some seconds =>
      have hlt := natAbs_lt_of_offsetSeconds? hseconds
      have hrange := hyear.inRange_shift (show (-seconds).natAbs < 2 * 86400 by omega)
      simp [Zone.instantAt?, Timestamp.checked, hrange, hne]
  · obtain ⟨mark, digits, hmark, -⟩ := exists_of_isOffset hoffset
    obtain rfl : digits = [] := by
      rw [hmark, List.length_cons] at hlength
      exact List.eq_nil_of_length_eq_zero (by omega)
    simp [instant?, offsetHours, offsetMinutes, offsetDigits, hmark, Number.digitsValue]

end Offset

/-! ## Texts -/

/-- **When an ASCII text in ISO notation is read as a date.** Its month, its day, its hour, its
minute and its second must be in range, and its offset must be less than a day; without an offset,
the zone must find an instant. So the hours of an offset are in range as well, but its minutes have
no bound of their own.

**Proof sketch.** The local notations do not admit the text, as its first mark is a hyphen. The
fields have ASCII digits, so each has a value or is missing; the wall-clock time exists if all are
in range, and its year has four digits, so it stays in the range of dates by an offset of less than
a day. -/
theorem isSome_ofText?_of_isoFields? {text : String} (hascii : isAscii text.toList)
    {fields : IsoFields} (hfields : isoFields? (trim text.toList) = some fields) (zone : Zone) :
    ((ofText? zone text).isSome ↔
      fields.InRange ∧ 60 * fields.offsetHours + fields.offsetMinutes < 1440 ∧
        (fields.offset = [] → ∃ wall, fields.wall? = some wall ∧ (zone.instantAt? wall).isSome)) ∧
    ((ofText? zone text).isSome → fields.InRange ∧ fields.offsetHours ≤ 23) := by
  obtain ⟨hdigits, hoffset⟩ := isDigit_of_isoFields? hascii hfields
  obtain ⟨-, -, ⟨hyear, -⟩, hmonth, -⟩ := exists_of_isoFields? hfields
  have hrange : fields.wall?.isSome ↔ fields.InRange :=
    IsoFields.isSome_wall?_iff hdigits (List.ne_nil_of_length_pos (by omega))
      (List.ne_nil_of_length_pos (by omega))
  have hread : (ofText? zone text).isSome ↔
      ∃ wall, fields.wall? = some wall ∧ (fields.instant? zone wall).isSome := by
    rw [ofText?, readLocale?_of_isoFields? hfields, Option.or_none, Option.isSome_map, readIso?,
      hfields]
    cases hwall : fields.wall? <;> simp [hwall]
  have hiff : (ofText? zone text).isSome ↔
      fields.InRange ∧ 60 * fields.offsetHours + fields.offsetMinutes < 1440 ∧
        (fields.offset = [] →
          ∃ wall, fields.wall? = some wall ∧ (zone.instantAt? wall).isSome) := by
    rw [hread, ← hrange]
    cases hwall : fields.wall? with
    | none => simp
    | some wall =>
      have hinstant := IsoFields.isSome_instant?_iff hoffset (isOffset_of_isoFields? hfields)
        (hasFourDigitYear_of_wall? hfields hwall) zone
      simpa using hinstant
  refine ⟨hiff, fun h => ?_⟩
  obtain ⟨hfields, hday, -⟩ := hiff.mp h
  exact ⟨hfields, by omega⟩

/-- The leap day of a year with the greatest offset, and of a year that has none. -/
theorem isSome_ofText?_of_leap_days :
    (ofText? .utc "2024-02-29T23:59:59+23:59").isSome ∧ ¬ (ofText? .utc "2025-02-29").isSome := by
  have hfields : isoFields? (trim "2024-02-29T23:59:59+23:59".toList) =
      some { year := "2024".toList, month := "02".toList, day := "29".toList,
             hour := "23".toList, minute := "59".toList, second := "59".toList,
             offset := "+23:59".toList } := by decide +kernel
  have hfields' : isoFields? (trim "2025-02-29".toList) =
      some { year := "2025".toList, month := "02".toList, day := "29".toList } := by decide +kernel
  obtain ⟨hread, -⟩ := isSome_ofText?_of_isoFields? (by decide) hfields .utc
  obtain ⟨-, hranges⟩ := isSome_ofText?_of_isoFields? (by decide) hfields' .utc
  refine ⟨hread.mpr ⟨⟨by decide, fun _ => by decide, by decide, by decide, by decide⟩, by decide,
    by decide⟩, fun h => ?_⟩
  exact absurd ((hranges h).1.day (by decide)).2 (by decide)

/-- **An offset that is read although it has 75 minutes**, as if it were one hour and 15 minutes
more, and that names no zone. -/
theorem offset_beyond_59_minutes :
    isAscii "2025-09-26T14:30:45+03:75".toList ∧
      (isoFields? (trim "2025-09-26T14:30:45+03:75".toList)).map IsoFields.offsetMinutes = some 75 ∧
      ofText? .utc "2025-09-26T14:30:45+03:75" = some ⟨⟨1758881745, 0⟩, .utc, .dateTime⟩ ∧
      ofText? .utc "2025-09-26T14:30:45+04:15" = some ⟨⟨1758881745, 0⟩, .utc, .dateTime⟩ ∧
      Zone.ofText? "+03:75" = none := by
  decide +kernel

end SheetFormula.Moment
