import SheetFormula.Moment.Iso
import SheetFormula.Proofs.Calendar.Timestamp
import SheetFormula.Proofs.Moment.Reading
import SheetFormula.Proofs.Text.Shape

/-!
# Texts that moments are written as

A moment is written as fields of fixed width with marks between them. Each reader of a field is an
exact inverse on such a field, whatever stands behind it, so the fields of the whole text are found
again, and the wall-clock time and the offset that they name.

## Main definitions

* `SheetFormula.Moment.IsField` — the digits that write a number in a field of some width.
* `SheetFormula.Moment.IsoFields.WritesDate`, `SheetFormula.Moment.IsoFields.Writes` — the fields of
  a date and of a wall-clock time.
* `SheetFormula.Moment.dateFields`, `SheetFormula.Moment.wallFields` — the fields that are written.
* `SheetFormula.Moment.WritesOffset` — the texts that write an offset.

## Main results

* `SheetFormula.Moment.isField_padded` — numbers that are filled up with zeros are fields.
* `SheetFormula.Moment.toList_toIso`, `SheetFormula.Moment.toList_dateText` — what is written
  consists of these fields.
* `SheetFormula.Moment.IsoFields.Writes.isoFields?`, `SheetFormula.Moment.IsoFields.Writes.wall?` —
  the fields are found again, and with them the wall-clock time.
* `SheetFormula.Moment.WritesOffset.offsetSeconds?` — an offset that is written is read again.
-/

set_option relaxedAutoImplicit false
set_option autoImplicit false

namespace SheetFormula.Moment

open SheetFormula.Calendar (Date Timestamp nanosPerSecond)
open SheetFormula.Text (isDecimalDigit isDecimalDigit_of_isDigit)
open SheetFormula.Number (digitsValue)

/-! ## Fields -/

/-- The digits that write a number in a field of some width. -/
structure IsField (width value : ℕ) (digits : List Char) : Prop where
  length_eq : digits.length = width
  isDigit : ∀ c ∈ digits, c.isDigit
  value_eq : digitsValue digits = value

/-- A number that is filled up has zeros before its digits. -/
lemma toList_padded (width n : ℕ) :
    (padded width n).toList =
      List.replicate (width - (Nat.toDigits 10 n).length) '0' ++ Nat.toDigits 10 n := by
  simp only [padded, Nat.toString_eq_ofList_toDigits, String.toList_append, String.toList_ofList,
    String.length_ofList]

/-- Zeros before digits do not change their value. -/
lemma digitsValue_zeros (count : ℕ) (digits : List Char) :
    digitsValue (List.replicate count '0' ++ digits) = digitsValue digits := by
  induction count with
  | zero => rfl
  | succ count ih => exact ih

/-- **A number that is filled up with zeros is a field**, if it is not too long. -/
theorem isField_padded {width n : ℕ} (hwidth : 0 < width) (hn : n < 10 ^ width) :
    IsField width n (padded width n).toList := by
  rw [toList_padded]
  have hlength := (Nat.length_toDigits_le_iff (by decide : 1 < 10) hwidth).mpr hn
  constructor
  · rw [List.length_append, List.length_replicate]
    omega
  · intro c hc
    rcases List.mem_append.mp hc with hzero | hdigit
    · rw [List.eq_of_mem_replicate hzero]
      rfl
    · exact Nat.isDigit_of_mem_toDigits (by decide) (by decide) hdigit
  · rw [digitsValue_zeros]
    exact Nat.ofDigitChars_ten_toDigits

namespace IsField

variable {width value : ℕ} {digits : List Char} (h : IsField width value digits)

include h

/-- The characters of a field are digits. -/
lemma isDecimalDigit {c : Char} (hc : c ∈ digits) : Text.isDecimalDigit c = true :=
  isDecimalDigit_of_isDigit (h.isDigit c hc)

/-- A field has digits. -/
lemma ne_nil (hwidth : 0 < width) : digits ≠ [] :=
  List.ne_nil_of_length_pos (h.length_eq ▸ hwidth)

/-- Taking a field is an exact inverse of writing it. -/
lemma takeDigits? (rest : List Char) :
    Moment.takeDigits? width (digits ++ rest) = some (digits, rest) :=
  takeDigits?_eq_some.mpr ⟨h.length_eq, fun _ => h.isDecimalDigit, rfl⟩

omit h in
/-- Taking a field behind its mark is an exact inverse of writing it. -/
lemma takeField? (h : IsField 2 value digits) (mark : Char) (rest : List Char) :
    Moment.takeField? mark (mark :: (digits ++ rest)) = some (digits, rest) := by
  rw [Moment.takeField?, if_pos rfl, h.takeDigits?]

/-- Taking a fraction is an exact inverse of writing it, if no digit stands behind it. -/
lemma takeFraction? (hwidth : 1 ≤ width) (hnine : width ≤ 9) {rest : List Char}
    (hrest : ∀ c ∈ rest.head?, Text.isDecimalDigit c = false) :
    Moment.takeFraction? ('.' :: (digits ++ rest)) = some (digits, rest) := by
  have hdigits : ∀ c ∈ digits, Text.isDecimalDigit c = true := fun _ => h.isDecimalDigit
  have htake : (digits ++ rest).takeWhile Text.isDecimalDigit = digits := by
    rw [List.takeWhile_append_of_pos hdigits]
    cases rest with
    | nil => simp
    | cons c tail => simp [hrest c rfl]
  have hdrop : (digits ++ rest).dropWhile Text.isDecimalDigit = rest := by
    rw [List.dropWhile_append_of_pos hdigits]
    cases rest with
    | nil => rfl
    | cons c tail => simp [hrest c rfl]
  simp only [Moment.takeFraction?, true_or, if_true, htake, hdrop, h.length_eq, hwidth, hnine,
    and_self]

/-- The value of a field is the number that it writes. -/
lemma fieldValue? (hwidth : 0 < width) : Moment.fieldValue? digits = some value := by
  have hdigits : digits ≠ [] ∧ digits.all Char.isDigit :=
    ⟨h.ne_nil hwidth, List.all_eq_true.mpr h.isDigit⟩
  rw [Moment.fieldValue?, if_pos hdigits, h.value_eq]

/-- The nanoseconds of a fraction are those of the number that it writes. -/
lemma fractionNanos? : Moment.fractionNanos? digits = some (value * 10 ^ (9 - width)) := by
  rw [Moment.fractionNanos?, if_pos (List.all_eq_true.mpr h.isDigit), h.value_eq, h.length_eq]
  rfl

end IsField

/-! ## Fields of dates and times -/

/-- Fields that write a date, which has a year of four digits. -/
structure IsoFields.WritesDate (fields : IsoFields) (date : Date) : Prop where
  isField_year : IsField 4 date.year.toNat fields.year
  isField_month : IsField 2 date.month fields.month
  isField_day : IsField 2 date.day fields.day

/-- The second of a wall-clock time as it is written: a leap second counts as one more. -/
def writtenSecond (wall : Timestamp) : ℕ :=
  wall.second + wall.nanos / nanosPerSecond

/-- The milliseconds of a wall-clock time as they are written. -/
def writtenMillis (wall : Timestamp) : ℕ :=
  wall.nanos % nanosPerSecond / 1000000

/-- Fields that write a wall-clock time, cut off to milliseconds. -/
structure IsoFields.Writes (fields : IsoFields) (wall : Timestamp) : Prop
    extends fields.WritesDate wall.date where
  isField_hour : IsField 2 wall.hour fields.hour
  isField_minute : IsField 2 wall.minute fields.minute
  isField_second : IsField 2 (writtenSecond wall) fields.second
  isField_fraction : IsField 3 (writtenMillis wall) fields.fraction

/-- The fields of a date as it is written. -/
def dateFields (date : Date) : IsoFields where
  year := (padded 4 date.year.toNat).toList
  month := (padded 2 date.month).toList
  day := (padded 2 date.day).toList

/-- The fields of a wall-clock time as it is written, with an offset behind it. -/
def wallFields (wall : Timestamp) (offset : List Char) : IsoFields :=
  { dateFields wall.date with
    hour := (padded 2 wall.hour).toList
    minute := (padded 2 wall.minute).toList
    second := (padded 2 (writtenSecond wall)).toList
    fraction := (padded 3 (writtenMillis wall)).toList
    offset := offset }

/-- The fields of a date write it, if its year has four digits. -/
lemma writesDate_dateFields {date : Date} (hvalid : date.isValid)
    (hyear : 0 ≤ date.year ∧ date.year ≤ 9999) : (dateFields date).WritesDate date := by
  obtain ⟨-, hmonth, -, hday⟩ := Calendar.Date.isValid_iff.mp hvalid
  have hlength := (Calendar.daysInMonth_bounds date.year date.month).2
  have hyear' := isField_padded (by decide : 0 < 4) (show date.year.toNat < 10 ^ 4 by omega)
  have hmonth' := isField_padded (by decide : 0 < 2) (show date.month < 10 ^ 2 by omega)
  have hday' := isField_padded (by decide : 0 < 2) (show date.day < 10 ^ 2 by omega)
  constructor
  all_goals
    simp only [dateFields]
    assumption

/-- The fields of a wall-clock time write it, if its second has two digits. -/
lemma writes_wallFields {wall : Timestamp} (hsecond : writtenSecond wall < 100)
    (hyear : 0 ≤ wall.date.year ∧ wall.date.year ≤ 9999) (offset : List Char) :
    (wallFields wall offset).Writes wall := by
  have hday := wall.seconds_eq.2
  obtain ⟨hyear', hmonth', hday'⟩ := writesDate_dateFields wall.isValid_date hyear
  have hhour : wall.hour < 10 ^ 2 := by unfold Timestamp.hour; omega
  have hminute : wall.minute < 10 ^ 2 := by unfold Timestamp.minute; omega
  have hmillis : writtenMillis wall < 10 ^ 3 := by unfold writtenMillis nanosPerSecond; omega
  have hhour' := isField_padded (by decide : 0 < 2) hhour
  have hminute' := isField_padded (by decide : 0 < 2) hminute
  have hsecond' : IsField 2 (writtenSecond wall) (padded 2 (writtenSecond wall)).toList :=
    isField_padded (by decide) hsecond
  have hmillis' := isField_padded (by decide : 0 < 3) hmillis
  refine ⟨⟨?_, ?_, ?_⟩, ?_, ?_, ?_, ?_⟩
  all_goals
    simp only [wallFields]
    assumption

/-! ## Texts of fields -/

/-- The text of a date: year, month and day with hyphens between them. -/
def IsoFields.dateText (fields : IsoFields) : List Char :=
  fields.year ++ '-' :: (fields.month ++ '-' :: fields.day)

/-- The text of a time of day with the offset behind it. -/
def IsoFields.timeText (fields : IsoFields) : List Char :=
  fields.hour ++ ':' :: (fields.minute ++ ':' :: (fields.second ++ '.' ::
    (fields.fraction ++ fields.offset)))

/-- A date is written as its fields, if its year has four digits. -/
lemma toList_dateText {date : Date} (hyear : 0 ≤ date.year ∧ date.year ≤ 9999) :
    (dateText date).toList = (dateFields date).dateText := by
  have hnegative : ¬ date.year < 0 := by omega
  have hlarge : ¬ 9999 < date.year := by omega
  have hnat : date.year.natAbs = date.year.toNat := by omega
  simp only [dateText, yearText, if_neg hnegative, if_neg hlarge, hnat, IsoFields.dateText,
    dateFields, String.toList_append]
  simp

/-- A moment is written as its fields. -/
lemma toList_toIso {moment : Moment} (hyear : 0 ≤ moment.date.year ∧ moment.date.year ≤ 9999) :
    let fields := wallFields moment.wallClock (offsetMark moment.zone moment.instant).toList
    moment.toIso.toList = fields.dateText ++ 'T' :: fields.timeText := by
  intro fields
  have hfields : fields.dateText = (dateFields moment.wallClock.date).dateText := by
    simp only [fields, IsoFields.dateText, wallFields]
  have hdate := toList_dateText hyear
  rw [date, ← hfields] at hdate
  simp only [toIso, timeText, String.toList_append, hdate, IsoFields.timeText, fields, wallFields,
    writtenSecond, writtenMillis]
  simp

/-! ## Finding the fields again -/

namespace IsoFields

/-- Fields of a date are found again in their text. -/
lemma WritesDate.isoFields? {fields : IsoFields} {date : Date} (h : fields.WritesDate date) :
    Moment.isoFields? fields.dateText =
      some { year := fields.year, month := fields.month, day := fields.day } := by
  have hday : Moment.takeField? '-' ('-' :: fields.day) = some (fields.day, []) := by
    simpa using h.isField_day.takeField? '-' []
  rw [Moment.isoFields?, dateText]
  simp only [h.isField_year.takeDigits?, h.isField_month.takeField?, hday, Option.bind_eq_bind,
    Option.bind_some, if_neg (h.isField_month.ne_nil (by decide))]
  rfl

/-- **Fields of a wall-clock time are found again in their text.** -/
theorem Writes.isoFields? {fields : IsoFields} {wall : Timestamp} (h : fields.Writes wall)
    (hoffset : isOffset fields.offset = true)
    (hhead : ∀ c ∈ fields.offset.head?, isDecimalDigit c = false) :
    Moment.isoFields? (fields.dateText ++ 'T' :: fields.timeText) = some fields := by
  have htext : fields.dateText ++ 'T' :: fields.timeText =
      fields.year ++ '-' :: (fields.month ++ '-' :: (fields.day ++ 'T' :: fields.timeText)) := by
    simp [dateText]
  have htime : timeFields? { year := fields.year, month := fields.month, day := fields.day }
      fields.timeText = some fields := by
    rw [timeFields?, timeText]
    simp only [h.isField_hour.takeDigits?, h.isField_minute.takeField?,
      h.isField_second.takeField?, h.isField_fraction.takeFraction? (by decide) (by decide) hhead,
      Option.bind_eq_bind, Option.bind_some, if_neg (h.isField_minute.ne_nil (by decide)),
      if_neg (h.isField_second.ne_nil (by decide)), if_pos (Or.inr hoffset)]
    rfl
  rw [htext, Moment.isoFields?]
  simp only [h.isField_year.takeDigits?, h.isField_month.takeField?, h.isField_day.takeField?,
    Option.bind_eq_bind, Option.bind_some, if_neg (h.isField_month.ne_nil (by decide)),
    ne_eq, h.isField_day.ne_nil (by decide), not_false_eq_true, and_self, if_true, htime]

end IsoFields

/-! ## Times that fields name -/

namespace IsoFields

/-- Fields of a date name its midnight, if nothing else is written. -/
lemma WritesDate.wall? {fields : IsoFields} {date : Date} (h : fields.WritesDate date)
    (hvalid : date.isValid) (hyear : 0 ≤ date.year) :
    IsoFields.wall? { year := fields.year, month := fields.month, day := fields.day } =
      some (Timestamp.ofDay date.dayNumber 0 0) := by
  have hmissing : fieldValue? [] = none := rfl
  have hnanos : fractionNanos? [] = some 0 := by decide
  simp only [IsoFields.wall?, h.isField_year.fieldValue?, h.isField_month.fieldValue?,
    h.isField_day.fieldValue?, hmissing, hnanos, Nat.ofNat_pos, Option.bind_eq_bind,
    Option.bind_some, Option.getD_some, Option.getD_none, Int.toNat_of_nonneg hyear]
  exact Timestamp.ofFields?_eq hvalid (by decide) (by decide) (by decide) 0

/-- **Fields of a wall-clock time name that time**, cut off to milliseconds, if its second is
written as less than 60. -/
theorem Writes.wall? {fields : IsoFields} {wall : Timestamp} (h : fields.Writes wall)
    (hsecond : writtenSecond wall < 60) (hyear : 0 ≤ wall.date.year) :
    fields.wall? =
      some ⟨wall.seconds + wall.nanos / nanosPerSecond, writtenMillis wall * 1000000⟩ := by
  have hday := wall.seconds_eq.2
  have hhour : wall.hour < 24 := by unfold Timestamp.hour; omega
  have hminute : wall.minute < 60 := by unfold Timestamp.minute; omega
  simp only [IsoFields.wall?, h.isField_year.fieldValue?, h.isField_month.fieldValue?,
    h.isField_day.fieldValue?, h.isField_hour.fieldValue?, h.isField_minute.fieldValue?,
    h.isField_second.fieldValue?, h.isField_fraction.fractionNanos?, Nat.ofNat_pos,
    Option.bind_eq_bind, Option.bind_some, Option.getD_some, Int.toNat_of_nonneg hyear,
    if_neg (not_le_of_gt hsecond)]
  rw [Timestamp.ofFields?_eq wall.isValid_date hhour hminute hsecond]
  have hfields := congrArg Timestamp.seconds (Timestamp.ofDay_fields wall 0)
  simp only [Timestamp.ofDay, writtenSecond, Option.some.injEq, Timestamp.mk.injEq] at hfields ⊢
  exact ⟨by omega, rfl⟩

/-- Fields with a second of 60 name no time. -/
lemma Writes.wall?_eq_none {fields : IsoFields} {wall : Timestamp} (h : fields.Writes wall)
    (hsecond : 60 ≤ writtenSecond wall) : fields.wall? = none := by
  simp only [IsoFields.wall?, h.isField_year.fieldValue?, h.isField_month.fieldValue?,
    h.isField_second.fieldValue?, h.isField_fraction.fractionNanos?, Nat.ofNat_pos,
    Option.bind_eq_bind, Option.bind_some, Option.getD_some, if_pos hsecond]

end IsoFields

/-! ## Offsets -/

/-- Hours and minutes are written in fields of two digits. -/
lemma twoDigits_eq (n : ℕ) : Zone.twoDigits n = padded 2 n := by
  have hlength : (toString n).length = (Nat.toDigits 10 n).length := by
    rw [Nat.toString_eq_ofList_toDigits, String.length_ofList]
  have hdigits := Nat.length_toDigits_le_iff (n := n) (by decide : 1 < 10) (by decide : 0 < 1)
  have hpos : 0 < (Nat.toDigits 10 n).length := Nat.length_toDigits_pos
  rw [Zone.twoDigits, padded, hlength]
  split_ifs with hsmall
  · have hone : 2 - (Nat.toDigits 10 n).length = 1 := by omega
    rw [hone]
    rfl
  · have hnone : 2 - (Nat.toDigits 10 n).length = 0 := by omega
    rw [hnone]
    simp

/-- A text that writes a sign and a number of minutes, which it shows as hours and minutes. -/
def WritesOffset (negative : Bool) (minutes : ℕ) (text : List Char) : Prop :=
  ∃ hours rest, IsField 2 (minutes / 60) hours ∧ IsField 2 (minutes % 60) rest ∧
    text = (if negative then '-' else '+') :: (hours ++ ':' :: rest)

/-- A sign before hours and minutes writes them. -/
lemma writesOffset_sign {minutes : ℕ} (hday : minutes < 1440) (negative : Bool) :
    WritesOffset negative minutes
      ((if negative then "-" else "+") ++ Zone.twoDigits (minutes / 60) ++ ":" ++
        Zone.twoDigits (minutes % 60)).toList := by
  have hhours : minutes / 60 < 10 ^ 2 := by omega
  have hrest : minutes % 60 < 10 ^ 2 := by omega
  refine ⟨_, _, isField_padded (by decide) hhours, isField_padded (by decide) hrest, ?_⟩
  rw [twoDigits_eq, twoDigits_eq]
  cases negative <;> simp [String.toList_append]

/-- **An offset of whole minutes within a day is written** as it is. -/
theorem writesOffset_offsetText {offset : ℤ} (hminutes : 60 ∣ offset)
    (hday : offset.natAbs < 86400) :
    WritesOffset (offset < 0) (offset.natAbs / 60) (Zone.offsetText offset).toList := by
  have hseconds : offset.natAbs % 60 = 0 := by omega
  have hhours : offset.natAbs / 3600 = offset.natAbs / 60 / 60 := by omega
  have htext := writesOffset_sign (show offset.natAbs / 60 < 1440 by omega) (offset < 0)
  simpa [Zone.offsetText, hseconds, hhours] using htext

/-- An offset, rounded to minutes. -/
def roundedOffset (offset : ℤ) : ℤ :=
  if offset < 0 then -(60 * Zone.roundedMinutes offset) else 60 * Zone.roundedMinutes offset

/-- Whole minutes need no rounding. -/
lemma roundedOffset_of_dvd {offset : ℤ} (hminutes : 60 ∣ offset) :
    roundedOffset offset = offset := by
  unfold roundedOffset Zone.roundedMinutes
  split_ifs <;> omega

/-- Rounding moves an offset by half a minute at most. -/
lemma natAbs_roundedOffset_lt {offset : ℤ} (hday : offset.natAbs < 86370) :
    (roundedOffset offset).natAbs < 86400 := by
  unfold roundedOffset Zone.roundedMinutes
  split_ifs <;> omega

/-- **An offset that is written in minutes** is rounded to them. -/
theorem writesOffset_minutesText {offset : ℤ} (hday : offset.natAbs < 86370) :
    WritesOffset (offset < 0) (Zone.roundedMinutes offset) (Zone.minutesText offset).toList := by
  have hrounded : Zone.roundedMinutes offset < 1440 := by
    unfold Zone.roundedMinutes
    omega
  simpa [Zone.minutesText] using writesOffset_sign hrounded (offset < 0)

namespace WritesOffset

variable {negative : Bool} {minutes : ℕ} {text : List Char}

/-- **An offset that is written is read again.** -/
theorem offsetSeconds? (h : WritesOffset negative minutes text) (hday : minutes < 1440) :
    Moment.offsetSeconds? text =
      some (if negative then -(60 * minutes : ℤ) else 60 * minutes) := by
  obtain ⟨hours, rest, hhours, hrest, rfl⟩ := h
  have hdigits : (hours ++ ':' :: rest).filter Char.isDigit = hours ++ rest := by
    rw [List.filter_append, List.filter_cons_of_neg (by decide),
      List.filter_eq_self.mpr hhours.isDigit, List.filter_eq_self.mpr hrest.isDigit]
  have htake : (hours ++ rest).take 2 = hours := by
    rw [← hhours.length_eq, List.take_left]
  have hdrop : (hours ++ rest).drop 2 = rest := by
    rw [← hhours.length_eq, List.drop_left]
  have hlength : ¬ (hours ++ rest).length < 2 := by
    rw [List.length_append, hhours.length_eq]
    omega
  have hseconds : 3600 * (minutes / 60) + 60 * (minutes % 60) = 60 * minutes := by
    omega
  have hlarge : ¬ 86400 ≤ 60 * minutes := by
    omega
  simp only [Moment.offsetSeconds?, List.drop_one, List.tail_cons, List.head?_cons, hdigits, htake,
    hdrop, hhours.value_eq, hrest.value_eq, hseconds, hlength, hlarge, or_self, if_false]
  cases negative <;> simp

/-- What writes an offset has the shape of an offset. -/
lemma isOffset (h : WritesOffset negative minutes text) : Moment.isOffset text = true := by
  obtain ⟨hours, rest, hhours, hrest, rfl⟩ := h
  obtain ⟨a, b, rfl⟩ := List.length_eq_two.mp hhours.length_eq
  obtain ⟨c, d, rfl⟩ := List.length_eq_two.mp hrest.length_eq
  have hall : [a, b, c, d].all isDecimalDigit := by
    simp [hhours.isDecimalDigit, hrest.isDecimalDigit]
  cases negative <;> exact hall

/-- What writes an offset begins with its sign. -/
lemma exists_eq_cons (h : WritesOffset negative minutes text) :
    ∃ sign rest, (sign = '+' ∨ sign = '-') ∧ text = sign :: rest := by
  obtain ⟨hours, rest, -, -, rfl⟩ := h
  cases negative
  · exact ⟨_, _, .inl rfl, rfl⟩
  · exact ⟨_, _, .inr rfl, rfl⟩

end WritesOffset

end SheetFormula.Moment
