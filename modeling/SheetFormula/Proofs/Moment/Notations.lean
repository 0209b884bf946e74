import SheetFormula.Proofs.Moment.Layouts
import SheetFormula.Proofs.Moment.RoundTrip

/-!
# Notations of dates

The five ways to write a date, with and without a time of day, name the same instant: the one that
the zone finds for the wall clock that is written. A date with slashes that ends with its year is
read with the day first, and with the month first only if there is no such day.

## Main definitions

* `SheetFormula.Moment.DateStyle` — the ways to write a date.
* `SheetFormula.Moment.DateStyle.dateText`, `SheetFormula.Moment.DateStyle.stampText` — a date, and
  a date with a time of day, as text.

## Main results

* `SheetFormula.Moment.ofText?_dateText`, `SheetFormula.Moment.ofText?_stampText` — what is read of
  these texts.
* `SheetFormula.Moment.ofText?_slashes` — dates with slashes.
* `SheetFormula.Moment.readings_of_notations` — all together.
-/

set_option relaxedAutoImplicit false
set_option autoImplicit false

namespace SheetFormula.Moment

open SheetFormula.Calendar (Date Timestamp)
open SheetFormula.Text (Shape isBlank isDecimalDigit isDecimalDigit_of_isDigit trim)
open SheetFormula.Number (digitsValue)

/-! ## Styles -/

/-- The ways to write a date. -/
inductive DateStyle where
  | iso
  | german
  | european
  | american
  | asian
  deriving Repr, DecidableEq

/-- A date in a style, with a year of four digits. -/
def DateStyle.dateText (style : DateStyle) (date : Date) : String :=
  let year := padded 4 date.year.toNat
  let month := padded 2 date.month
  let day := padded 2 date.day
  match style with
  | .iso => year ++ "-" ++ month ++ "-" ++ day
  | .german => day ++ "." ++ month ++ "." ++ year
  | .european => day ++ "/" ++ month ++ "/" ++ year
  | .american => month ++ "/" ++ day ++ "/" ++ year
  | .asian => year ++ "/" ++ month ++ "/" ++ day

/-- What stands between a date and a time of day. -/
def DateStyle.gap : DateStyle → String
  | .iso => "T"
  | _ => " "

/-- A time of day to the second. -/
def clockText (hour minute second : ℕ) : String :=
  padded 2 hour ++ ":" ++ padded 2 minute ++ ":" ++ padded 2 second

/-- A date with a time of day in a style. -/
def DateStyle.stampText (style : DateStyle) (date : Date) (hour minute second : ℕ) : String :=
  style.dateText date ++ style.gap ++ clockText hour minute second

example : DateStyle.american.stampText ⟨2025, 9, 30⟩ 8 5 0 = "09/30/2025 08:05:00" := by decide

/-- The moment at which the wall clock of a zone shows a time, if it is found. -/
def momentAt? (zone : Zone) (kind : MomentKind) (wall : Timestamp) : Option Moment :=
  (zone.instantAt? wall).map (⟨·, zone, kind⟩)

/-! ## Shapes -/

section Shapes

variable {mark : Char} {a b year : List Char} (ha : IsRun .day a) (hb : IsRun .month b)
  (hyear : IsRun .year year) (hlength : year.length = 4)

include ha in
/-- A day has one or two digits at the head of a text. -/
lemma mem_oneOrTwoDigits_append (rest : List Char) : rest ∈ Shape.oneOrTwoDigits (a ++ rest) :=
  Shape.mem_oneOrTwoDigits.mpr ⟨a, ⟨List.length_pos_of_ne_nil ha.ne_nil, ha.length_le⟩,
    fun _ hc => isDecimalDigit_of_isDigit (ha.isDigit _ hc), rfl⟩

include hyear hlength in
/-- A full year has four digits at the head of a text. -/
lemma mem_digits_append (rest : List Char) : rest ∈ Shape.digits 4 (year ++ rest) :=
  Shape.mem_times.mpr ⟨year, hlength, fun _ hc => isDecimalDigit_of_isDigit (hyear.isDigit _ hc),
    rfl⟩

include ha hb hyear hlength

/-- The shape of a date that ends with its year. -/
lemma mem_year_last {marks : Shape} (hmark : ∀ text, text ∈ marks (mark :: text))
    (rest : List Char) :
    rest ∈ Shape.sequence
      [Shape.oneOrTwoDigits, marks, Shape.oneOrTwoDigits, marks, Shape.digits 4]
      (a ++ mark :: (b ++ mark :: (year ++ rest))) := by
  simp only [Shape.mem_sequence_cons, Shape.mem_sequence_nil]
  exact ⟨_, mem_oneOrTwoDigits_append ha _, _, hmark _, _,
    mem_oneOrTwoDigits_append (hb.of_width rfl) _, _, hmark _, _,
    mem_digits_append hyear hlength rest, rfl⟩

/-- The shape of a date that begins with its year. -/
lemma mem_year_first (rest : List Char) :
    rest ∈ Shape.sequence
      [Shape.digits 4, Shape.char '/', Shape.oneOrTwoDigits, Shape.char '/', Shape.oneOrTwoDigits]
      (year ++ '/' :: (b ++ '/' :: (a ++ rest))) := by
  simp only [Shape.mem_sequence_cons, Shape.mem_sequence_nil, Shape.mem_char]
  exact ⟨_, mem_digits_append hyear hlength _, _, rfl, _,
    mem_oneOrTwoDigits_append (hb.of_width rfl) _, _, rfl, _, mem_oneOrTwoDigits_append ha rest,
    rfl⟩

omit ha hb hyear hlength in
/-- The end of a text and white space are in the shape of what may follow a date. -/
lemma exists_mem_of_blank {rest : List Char} (hrest : ∀ c ∈ rest.head?, isBlank c = true) :
    ∃ tail, tail ∈ Shape.orElse (Shape.one isBlank) Shape.atEnd rest := by
  cases rest with
  | nil => exact ⟨[], Shape.mem_orElse.mpr (.inr (List.mem_singleton_self _))⟩
  | cons c tail =>
    exact ⟨tail, Shape.mem_orElse.mpr (.inl (Shape.mem_one.mpr ⟨c, hrest c rfl, rfl⟩))⟩

/-- The layouts are tried on a date that ends with its year, if white space or nothing follows. -/
lemma hasLocaleShape_of_year_last (hmark : mark = '.' ∨ mark = '/') {rest : List Char}
    (hrest : ∀ c ∈ rest.head?, isBlank c = true) :
    hasLocaleShape (a ++ mark :: (b ++ mark :: (year ++ rest))) = true := by
  have hmarks (text : List Char) :
      text ∈ Shape.one (fun c => c == '.' || c == '/') (mark :: text) :=
    Shape.mem_one.mpr ⟨mark, by simpa using hmark, rfl⟩
  obtain ⟨tail, htail⟩ := exists_mem_of_blank hrest
  have hdate := mem_year_last ha hb hyear hlength hmarks rest
  exact Shape.begins_iff.mpr
    ⟨tail, Shape.mem_andThen.mpr ⟨rest, Shape.mem_orElse.mpr (.inl hdate), htail⟩⟩

/-- The layouts are tried on a date that begins with its year, if white space or nothing follows. -/
lemma hasLocaleShape_of_year_first {rest : List Char}
    (hrest : ∀ c ∈ rest.head?, isBlank c = true) :
    hasLocaleShape (year ++ '/' :: (b ++ '/' :: (a ++ rest))) = true := by
  obtain ⟨tail, htail⟩ := exists_mem_of_blank hrest
  have hdate := mem_year_first ha hb hyear hlength rest
  exact Shape.begins_iff.mpr
    ⟨tail, Shape.mem_andThen.mpr ⟨rest, Shape.mem_orElse.mpr (.inr hdate), htail⟩⟩

/-- A date that ends with its year is a plain date. -/
lemma kindOf_of_year_last (hmark : mark = '.' ∨ mark = '/') :
    kindOf (a ++ mark :: (b ++ mark :: year)) = .dateOnly := by
  refine if_pos (List.any_eq_true.mpr ?_)
  have hmarks (text : List Char) : text ∈ Shape.char mark (mark :: text) := Shape.mem_char.mpr rfl
  have hshape := mem_year_last ha hb hyear hlength hmarks []
  rw [List.append_nil] at hshape
  refine ⟨_, ?_, Shape.spans_iff.mpr hshape⟩
  rcases hmark with rfl | rfl <;> simp [plainDateShapes]

/-- A date that begins with its year is a plain date. -/
lemma kindOf_of_year_first : kindOf (year ++ '/' :: (b ++ '/' :: a)) = .dateOnly := by
  refine if_pos (List.any_eq_true.mpr ?_)
  have hshape := mem_year_first ha hb hyear hlength []
  rw [List.append_nil] at hshape
  exact ⟨_, by simp [plainDateShapes], Shape.spans_iff.mpr hshape⟩

end Shapes

/-! ## Times that are read -/

variable {hour minute second : ℕ} {rest : List Char}

/-- A field of a number is one of a layout. -/
lemma IsField.isRun {field : Field} {value : ℕ} {digits : List Char}
    (h : IsField field.width value digits) : IsRun field digits := by
  refine ⟨h.ne_nil ?_, h.length_eq.le, h.isDigit⟩
  cases field <;> decide

/-- **In a local notation a date that exists is read with its time of day**, if the months of the
American one cannot be days. -/
theorem readGroups?_dateText {style : DateStyle} (hlocal : style ≠ .iso) {date : Date}
    (hvalid : date.isValid) (hyear : 0 ≤ date.year ∧ date.year ≤ 9999)
    (hstyle : style = .american → 12 < date.day)
    (hrest : WritesTime hour minute second rest) (htime : hour < 24 ∧ minute < 60 ∧ second < 60) :
    readGroups? ((style.dateText date).toList ++ rest) =
      some (.ofDay date.dayNumber (3600 * hour + 60 * minute + second) 0) := by
  obtain ⟨hyears, hmonths, hdays⟩ := writesDate_dateFields hvalid hyear
  have hday : IsRun .day (dateFields date).day := IsField.isRun hdays
  have hmonth : IsRun .month (dateFields date).month := IsField.isRun hmonths
  have hyear' : IsRun .year (dateFields date).year := IsField.isRun hyears
  have hdate : (⟨digitsValue (dateFields date).year, digitsValue (dateFields date).month,
      digitsValue (dateFields date).day⟩ : Date) = date := by
    rw [hyears.value_eq, hmonths.value_eq, hdays.value_eq, Int.toNat_of_nonneg hyear.1]
  have hread : Timestamp.ofFields? date hour minute second 0 =
      some (.ofDay date.dayNumber (3600 * hour + 60 * minute + second) 0) :=
    Timestamp.ofFields?_eq hvalid htime.1 htime.2.1 htime.2.2 0
  cases style with
  | iso => exact absurd rfl hlocal
  | german =>
    have hgroups := readGroups?_points hday hmonth hyear' hrest
    rw [hdate, hread] at hgroups
    rw [← hgroups]
    simp [DateStyle.dateText, dateFields]
  | european =>
    obtain ⟨other, hgroups, -⟩ := readGroups?_slashes hday hmonth hyear' hrest hyears.length_eq
    rw [hdate, hread, Option.some_or, Option.some_or] at hgroups
    rw [← hgroups]
    simp [DateStyle.dateText, dateFields]
  | american =>
    obtain ⟨other, hgroups, -⟩ := readGroups?_slashes (hmonth.of_width rfl : IsRun .day _)
      (hday.of_width rfl : IsRun .month _) hyear' hrest hyears.length_eq
    have hinvalid : Date.isValid ⟨digitsValue (dateFields date).year,
        digitsValue (dateFields date).day, digitsValue (dateFields date).month⟩ = false := by
      refine Bool.eq_false_iff.mpr fun hvalid' => ?_
      have hmonth' := (Date.isValid_iff.mp hvalid').2.1
      rw [hdays.value_eq] at hmonth'
      exact absurd (hstyle rfl) (not_lt.mpr hmonth')
    rw [Timestamp.ofFields?_eq_none hinvalid, Option.none_or, hdate, hread, Option.some_or]
      at hgroups
    rw [← hgroups]
    simp [DateStyle.dateText, dateFields]
  | asian =>
    have hgroups := readGroups?_year_first hday hmonth hyear' hrest hyears.length_eq
    rw [hdate, hread] at hgroups
    rw [← hgroups]
    simp [DateStyle.dateText, dateFields]

/-! ## Texts that are read -/

/-- A text with another mark than hyphens is read in the local notations only. -/
lemma ofText?_of_hasLocaleShape {text : String} (htrim : trim text.toList = text.toList)
    (hhyphen : '-' ∉ text.toList) (hshape : hasLocaleShape text.toList = true) (zone : Zone) :
    ofText? zone text =
      (readGroups? text.toList).bind (momentAt? zone (kindOf text.toList)) := by
  have hiso : readIso? zone text.toList = none := by
    cases hfields : isoFields? text.toList with
    | none =>
      rw [readIso?, hfields]
      rfl
    | some fields =>
      obtain ⟨rest, heq, -⟩ := exists_of_isoFields? hfields
      exact absurd (heq ▸ by simp) hhyphen
  simp only [ofText?, htrim, hiso, Option.none_or, readLocale?_eq zone hshape]
  cases readGroups? text.toList <;> rfl

/-- A time of day is written in three fields of two digits. -/
lemma exists_toList_clockText (htime : hour < 24 ∧ minute < 60 ∧ second < 60) :
    ∃ hours minutes seconds, IsField 2 hour hours ∧ IsField 2 minute minutes ∧
      IsField 2 second seconds ∧
      (clockText hour minute second).toList = hours ++ ':' :: (minutes ++ ':' :: seconds) := by
  refine ⟨_, _, _, isField_padded (by decide) (by omega), isField_padded (by decide) (by omega),
    isField_padded (by decide) (by omega), ?_⟩
  simp [clockText]

/-- A time of day is written with digits and colons. -/
lemma forall_mem_clockText (htime : hour < 24 ∧ minute < 60 ∧ second < 60) :
    ':' ∈ (clockText hour minute second).toList ∧
      ∀ c ∈ (clockText hour minute second).toList, c.isDigit ∨ c = ':' := by
  obtain ⟨hours, minutes, seconds, hhours, hminutes, hseconds, htext⟩ :=
    exists_toList_clockText htime
  rw [htext]
  refine ⟨by simp, ?_⟩
  simp only [List.mem_append, List.mem_cons]
  rintro c (hc | rfl | hc | rfl | hc)
  · exact .inl (hhours.isDigit c hc)
  · exact .inr rfl
  · exact .inl (hminutes.isDigit c hc)
  · exact .inr rfl
  · exact .inl (hseconds.isDigit c hc)

/-- A time of day is written without white space. -/
lemma isBlank_clockText (htime : hour < 24 ∧ minute < 60 ∧ second < 60) :
    ∀ c ∈ (clockText hour minute second).toList, isBlank c = false := by
  intro c hc
  rcases (forall_mem_clockText htime).2 c hc with hdigit | rfl
  · exact Text.isBlank_of_isDecimalDigit (isDecimalDigit_of_isDigit hdigit)
  · rfl

/-- A time of day is written as the layouts read it, behind a blank. -/
lemma writesTime_clockText (htime : hour < 24 ∧ minute < 60 ∧ second < 60) :
    WritesTime hour minute second (' ' :: (clockText hour minute second).toList) := by
  obtain ⟨hours, minutes, seconds, hhours, hminutes, hseconds, htext⟩ :=
    exists_toList_clockText htime
  have hclock := WritesTime.clock (IsField.isRun hhours : IsRun .hour hours)
    (IsField.isRun hminutes : IsRun .minute minutes)
    (IsField.isRun hseconds : IsRun .second seconds)
  rwa [hhours.value_eq, hminutes.value_eq, hseconds.value_eq, ← htext] at hclock

section Texts

variable {style : DateStyle} {date : Date} (hvalid : date.isValid)
  (hyear : 0 ≤ date.year ∧ date.year ≤ 9999)

include hvalid hyear

/-- In a local notation a date is three runs of digits with a mark between them. -/
lemma DateStyle.exists_toList_dateText (hlocal : style ≠ .iso) :
    ∃ mark a b year, (mark = '.' ∨ mark = '/') ∧ IsRun .day a ∧ IsRun .month b ∧
      IsRun .year year ∧ year.length = 4 ∧
      ((style.dateText date).toList = a ++ mark :: (b ++ mark :: year) ∨
        mark = '/' ∧ (style.dateText date).toList = year ++ mark :: (b ++ mark :: a)) := by
  obtain ⟨hyears, hmonths, hdays⟩ := writesDate_dateFields hvalid hyear
  have hday : IsRun .day (dateFields date).day := IsField.isRun hdays
  have hmonth : IsRun .month (dateFields date).month := IsField.isRun hmonths
  have hyear' : IsRun .year (dateFields date).year := IsField.isRun hyears
  cases style with
  | iso => exact absurd rfl hlocal
  | german =>
    exact ⟨'.', _, _, _, .inl rfl, hday, hmonth, hyear', hyears.length_eq,
      .inl (by simp [DateStyle.dateText, dateFields])⟩
  | european =>
    exact ⟨'/', _, _, _, .inr rfl, hday, hmonth, hyear', hyears.length_eq,
      .inl (by simp [DateStyle.dateText, dateFields])⟩
  | american =>
    exact ⟨'/', _, _, _, .inr rfl, hmonth.of_width rfl, hday.of_width rfl, hyear',
      hyears.length_eq, .inl (by simp [DateStyle.dateText, dateFields])⟩
  | asian =>
    exact ⟨'/', _, _, _, .inr rfl, hday, hmonth, hyear', hyears.length_eq,
      .inr ⟨rfl, by simp [DateStyle.dateText, dateFields]⟩⟩

/-- A date in a local notation has no white space and no hyphens. -/
lemma DateStyle.forall_mem_dateText (hlocal : style ≠ .iso) :
    (style.dateText date).toList ≠ [] ∧
      ∀ c ∈ (style.dateText date).toList, isBlank c = false ∧ c ≠ '-' := by
  obtain ⟨mark, a, b, year, hmark, ha, hb, hyear', -, htext⟩ :=
    exists_toList_dateText hvalid hyear hlocal
  have hmark' : isBlank mark = false ∧ mark ≠ '-' := by
    rcases hmark with rfl | rfl <;> decide
  have hrun {field : Field} {run : List Char} (h : IsRun field run) :
      ∀ c ∈ run, isBlank c = false ∧ c ≠ '-' := by
    intro c hc
    refine ⟨h.isBlank hc, ?_⟩
    rintro rfl
    exact h.notMem rfl hc
  rcases htext with htext | ⟨-, htext⟩
  all_goals
    rw [htext]
    refine ⟨by simp, ?_⟩
    simp only [List.mem_append, List.mem_cons]
    rintro c (hc | rfl | hc | rfl | hc)
  · exact hrun ha c hc
  · exact hmark'
  · exact hrun hb c hc
  · exact hmark'
  · exact hrun hyear' c hc
  · exact hrun hyear' c hc
  · exact hmark'
  · exact hrun hb c hc
  · exact hmark'
  · exact hrun ha c hc

/-- A date in a local notation is a plain date, and the layouts are tried on it. -/
lemma DateStyle.kindOf_dateText (hlocal : style ≠ .iso) :
    kindOf (style.dateText date).toList = .dateOnly ∧
      ∀ rest : List Char, (∀ c ∈ rest.head?, isBlank c = true) →
        hasLocaleShape ((style.dateText date).toList ++ rest) = true := by
  obtain ⟨mark, a, b, year, hmark, ha, hb, hyear', hlength, htext | ⟨rfl, htext⟩⟩ :=
    exists_toList_dateText hvalid hyear hlocal
  all_goals
    rw [htext]
    simp only [List.append_assoc, List.cons_append]
  · exact ⟨kindOf_of_year_last ha hb hyear' hlength hmark,
      fun _ => hasLocaleShape_of_year_last ha hb hyear' hlength hmark⟩
  · exact ⟨kindOf_of_year_first ha hb hyear' hlength,
      fun _ => hasLocaleShape_of_year_first ha hb hyear' hlength⟩

/-- **A date in a local notation is read as its midnight.** -/
theorem ofText?_dateText_of_local (hlocal : style ≠ .iso) (hstyle : style = .american → 12 < date.day)
    (zone : Zone) :
    ofText? zone (style.dateText date) =
      momentAt? zone .dateOnly (.ofDay date.dayNumber 0 0) := by
  obtain ⟨-, hchars⟩ := DateStyle.forall_mem_dateText hvalid hyear hlocal
  obtain ⟨hkind, hshape⟩ := DateStyle.kindOf_dateText hvalid hyear hlocal
  have htrim : trim (style.dateText date).toList = (style.dateText date).toList :=
    Text.trim_of_forall fun c hc => (hchars c hc).1
  have hshape' := hshape [] (by simp)
  have hgroups := readGroups?_dateText hlocal hvalid hyear hstyle .midnight (by decide)
  rw [List.append_nil] at hshape' hgroups
  rw [ofText?_of_hasLocaleShape htrim (fun hmem => (hchars _ hmem).2 rfl) hshape', hgroups, hkind]
  rfl

/-- **A date with a time of day in a local notation is read as that time.** -/
theorem ofText?_stampText_of_local (hlocal : style ≠ .iso)
    (hstyle : style = .american → 12 < date.day)
    (htime : hour < 24 ∧ minute < 60 ∧ second < 60) (zone : Zone) :
    ofText? zone (style.stampText date hour minute second) =
      momentAt? zone .dateTime
        (.ofDay date.dayNumber (3600 * hour + 60 * minute + second) 0) := by
  obtain ⟨hne, hchars⟩ := DateStyle.forall_mem_dateText hvalid hyear hlocal
  obtain ⟨hcolon, hchars'⟩ := forall_mem_clockText htime
  have hrest := writesTime_clockText htime
  have htext : (style.stampText date hour minute second).toList =
      (style.dateText date).toList ++ ' ' :: (clockText hour minute second).toList := by
    have hgap : style.gap = " " := by
      cases style <;> first | rfl | exact absurd rfl hlocal
    rw [DateStyle.stampText, hgap, String.toList_append, String.toList_append, List.append_assoc]
    rfl
  have htrim : trim (style.stampText date hour minute second).toList =
      (style.stampText date hour minute second).toList := by
    rw [htext]
    exact Text.trim_append_cons (fun c hc => (hchars c hc).1) (isBlank_clockText htime)
      ⟨hne, List.ne_nil_of_mem hcolon⟩ ' '
  have hhyphen : '-' ∉ (style.stampText date hour minute second).toList := by
    rw [htext, List.mem_append, List.mem_cons]
    rintro (hmem | hmem | hmem)
    · exact (hchars _ hmem).2 rfl
    · exact absurd hmem (by decide)
    · exact absurd (hchars' _ hmem) (by decide)
  have hshape : hasLocaleShape (style.stampText date hour minute second).toList = true := by
    rw [htext]
    exact (DateStyle.kindOf_dateText hvalid hyear hlocal).2 _ (by simp [isBlank])
  have hkind : kindOf (style.stampText date hour minute second).toList = .dateTime := by
    refine kindOf_of_mem (c := ':') ?_ (by decide) (by decide)
    rw [htext]
    simp [hcolon]
  have hgroups := readGroups?_dateText hlocal hvalid hyear hstyle hrest htime
  rw [ofText?_of_hasLocaleShape htrim hhyphen hshape, hkind, htext, hgroups]
  rfl

omit hvalid hyear in
/-- The layouts are not tried on a text without points and slashes. -/
lemma readLocale?_eq_none {text : List Char} (hpoint : '.' ∉ text) (hslash : '/' ∉ text)
    (zone : Zone) : readLocale? zone text = none := by
  have hshape : ¬ hasLocaleShape text = true := by
    intro hshape
    rcases mem_or_exists_of_hasLocaleShape hshape with hmem | ⟨_, _, _, _, heq, -⟩
    · exact hslash hmem
    · exact hpoint (heq ▸ by simp)
  rw [readLocale?, if_neg hshape]

/-- A date in ISO notation has digits and hyphens only. -/
lemma forall_mem_iso_dateText :
    (DateStyle.iso.dateText date).toList = (dateFields date).dateText ∧
      ∀ c ∈ (dateFields date).dateText, c.isDigit ∨ c = '-' := by
  obtain ⟨hyears, hmonths, hdays⟩ := writesDate_dateFields hvalid hyear
  refine ⟨by simp [DateStyle.dateText, dateFields, IsoFields.dateText], ?_⟩
  simp only [IsoFields.dateText, List.mem_append, List.mem_cons]
  rintro c (hc | rfl | hc | rfl | hc)
  · exact .inl (hyears.isDigit c hc)
  · exact .inr rfl
  · exact .inl (hmonths.isDigit c hc)
  · exact .inr rfl
  · exact .inl (hdays.isDigit c hc)

/-- **A date in ISO notation is read as its midnight.** -/
theorem ofText?_iso_dateText (zone : Zone) :
    ofText? zone (DateStyle.iso.dateText date) =
      momentAt? zone .dateOnly (.ofDay date.dayNumber 0 0) := by
  have hwrites := writesDate_dateFields hvalid hyear
  obtain ⟨htext, hchars⟩ := forall_mem_iso_dateText hvalid hyear
  have htrim : trim (dateFields date).dateText = (dateFields date).dateText :=
    Text.trim_of_forall hwrites.isBlank_dateText
  have hread : readIso? zone (dateFields date).dateText =
      zone.instantAt? (.ofDay date.dayNumber 0 0) := by
    simp only [readIso?, hwrites.isoFields?, hwrites.wall? hvalid hyear.1, Option.bind_eq_bind,
      Option.bind_some]
    rfl
  have hlocale : readLocale? zone (dateFields date).dateText = none := by
    refine readLocale?_eq_none ?_ ?_ zone
    all_goals
      intro hmem
      exact absurd (hchars _ hmem) (by decide)
  simp only [ofText?, htext, htrim, hread, hlocale, Option.or_none, kindOf_dateText hwrites, momentAt?]

omit hvalid hyear in
/-- The fields of a date and a time of day are found again in ISO notation. -/
lemma IsoFields.WritesDate.isoFields?_stamp {fields : IsoFields} (hwrites : fields.WritesDate date)
    {hours minutes seconds : List Char} (hhours : IsField 2 hour hours)
    (hminutes : IsField 2 minute minutes) (hseconds : IsField 2 second seconds) :
    Moment.isoFields? (fields.dateText ++ 'T' :: (hours ++ ':' :: (minutes ++ ':' :: seconds))) =
      some { year := fields.year, month := fields.month, day := fields.day, hour := hours,
             minute := minutes, second := seconds } := by
  have htime : timeFields? { year := fields.year, month := fields.month, day := fields.day }
      (hours ++ ':' :: (minutes ++ ':' :: seconds)) =
      some { year := fields.year, month := fields.month, day := fields.day, hour := hours,
             minute := minutes, second := seconds } := by
    have hlast : Moment.takeField? ':' (':' :: seconds) = some (seconds, []) := by
      simpa using hseconds.takeField? ':' []
    have hfraction : takeFraction? [] = some ([], []) := rfl
    simp only [timeFields?, hhours.takeDigits?, hminutes.takeField?, hlast, hfraction,
      Option.bind_eq_bind, Option.bind_some, if_neg (hminutes.ne_nil (by decide)),
      if_neg (hseconds.ne_nil (by decide))]
    rfl
  have htext : fields.dateText ++ 'T' :: (hours ++ ':' :: (minutes ++ ':' :: seconds)) =
      fields.year ++ '-' :: (fields.month ++ '-' :: (fields.day ++
        'T' :: (hours ++ ':' :: (minutes ++ ':' :: seconds)))) := by
    simp [IsoFields.dateText]
  rw [htext, Moment.isoFields?]
  simp only [hwrites.isField_year.takeDigits?, hwrites.isField_month.takeField?,
    hwrites.isField_day.takeField?, Option.bind_eq_bind, Option.bind_some,
    if_neg (hwrites.isField_month.ne_nil (by decide)), ne_eq,
    hwrites.isField_day.ne_nil (by decide), not_false_eq_true, and_self, if_true, htime]

/-- **A date with a time of day in ISO notation is read as that time.** -/
theorem ofText?_iso_stampText (htime : hour < 24 ∧ minute < 60 ∧ second < 60) (zone : Zone) :
    ofText? zone (DateStyle.iso.stampText date hour minute second) =
      momentAt? zone .dateTime
        (.ofDay date.dayNumber (3600 * hour + 60 * minute + second) 0) := by
  have hwrites := writesDate_dateFields hvalid hyear
  obtain ⟨hdate, hchars⟩ := forall_mem_iso_dateText hvalid hyear
  obtain ⟨hours, minutes, seconds, hhours, hminutes, hseconds, hclock⟩ :=
    exists_toList_clockText htime
  obtain ⟨hcolon, hchars'⟩ := forall_mem_clockText htime
  obtain ⟨text, htext⟩ : ∃ text, text =
      (dateFields date).dateText ++ 'T' :: (clockText hour minute second).toList := ⟨_, rfl⟩
  have hlist : (DateStyle.iso.stampText date hour minute second).toList = text := by
    rw [DateStyle.stampText, String.toList_append, String.toList_append, hdate, htext,
      List.append_assoc]
    rfl
  have htrim : trim text = text := by
    rw [htext]
    refine Text.trim_append_cons hwrites.isBlank_dateText (isBlank_clockText htime)
      ⟨?_, List.ne_nil_of_mem hcolon⟩ 'T'
    simp [IsoFields.dateText]
  have hread : readIso? zone text =
      zone.instantAt? (.ofDay date.dayNumber (3600 * hour + 60 * minute + second) 0) := by
    have hnanos : fractionNanos? [] = some 0 := by decide
    have hwall := Timestamp.ofFields?_eq hvalid htime.1 htime.2.1 htime.2.2 0
    rw [htext, hclock, readIso?, hwrites.isoFields?_stamp hhours hminutes hseconds]
    simp only [Option.bind_eq_bind, Option.bind_some, IsoFields.wall?,
      hwrites.isField_year.fieldValue?, hwrites.isField_month.fieldValue?,
      hwrites.isField_day.fieldValue?, hhours.fieldValue?, hminutes.fieldValue?,
      hseconds.fieldValue?, Nat.ofNat_pos, Option.getD_some, Int.toNat_of_nonneg hyear.1,
      if_neg (not_le_of_gt htime.2.2), hnanos, hwall]
    rfl
  have hlocale : readLocale? zone text = none := by
    refine readLocale?_eq_none ?_ ?_ zone
    all_goals
      rw [htext, List.mem_append, List.mem_cons]
      rintro (hmem | hmem | hmem)
      · exact absurd (hchars _ hmem) (by decide)
      · exact absurd hmem (by decide)
      · exact absurd (hchars' _ hmem) (by decide)
  have hkind : kindOf text = .dateTime :=
    kindOf_of_mem (htext ▸ by simp) (by decide : isDecimalDigit 'T' = false) (by decide)
  simp only [ofText?, hlist, htrim, hread, hlocale, Option.or_none, hkind, momentAt?]

/-- **A date is read as its midnight**, in whatever notation. -/
theorem ofText?_dateText (hstyle : style = .american → 12 < date.day) (zone : Zone) :
    ofText? zone (style.dateText date) =
      momentAt? zone .dateOnly (.ofDay date.dayNumber 0 0) := by
  by_cases hlocal : style = .iso
  · rw [hlocal]
    exact ofText?_iso_dateText hvalid hyear zone
  · exact ofText?_dateText_of_local hvalid hyear hlocal hstyle zone

/-- **A date with a time of day is read as that time**, in whatever notation. -/
theorem ofText?_stampText (hstyle : style = .american → 12 < date.day)
    (htime : hour < 24 ∧ minute < 60 ∧ second < 60) (zone : Zone) :
    ofText? zone (style.stampText date hour minute second) =
      momentAt? zone .dateTime
        (.ofDay date.dayNumber (3600 * hour + 60 * minute + second) 0) := by
  by_cases hlocal : style = .iso
  · rw [hlocal]
    exact ofText?_iso_stampText hvalid hyear htime zone
  · exact ofText?_stampText_of_local hvalid hyear hlocal hstyle htime zone

end Texts

/-! ## Dates with slashes -/

/-- The midnight of a date, if the date exists. -/
lemma ofFields?_midnight (date : Date) :
    Timestamp.ofFields? date 0 0 0 0 =
      if date.isValid then some (.ofDay date.dayNumber 0 0) else none := by
  split_ifs with hvalid
  · exact Timestamp.ofFields?_eq hvalid (by decide) (by decide) (by decide) 0
  · exact Timestamp.ofFields?_eq_none (by simpa using hvalid) 0 0 0 0

/-- **A date with slashes is read with the day first, where there is such a day, and else with the
month first.** -/
theorem ofText?_slashes {a b year : List Char} (ha : IsRun .day a) (hb : IsRun .month b)
    (hyear : IsRun .year year) (hlength : year.length = 4) (zone : Zone) :
    let dayFirst : Date := ⟨digitsValue year, digitsValue b, digitsValue a⟩
    let monthFirst : Date := ⟨digitsValue year, digitsValue a, digitsValue b⟩
    ofText? zone (String.ofList (a ++ '/' :: (b ++ '/' :: year))) =
      if dayFirst.isValid then momentAt? zone .dateOnly (.ofDay dayFirst.dayNumber 0 0)
      else if monthFirst.isValid then momentAt? zone .dateOnly (.ofDay monthFirst.dayNumber 0 0)
      else none := by
  intro dayFirst monthFirst
  obtain ⟨text, htext⟩ : ∃ text, text = String.ofList (a ++ '/' :: (b ++ '/' :: year)) := ⟨_, rfl⟩
  have hlist : text.toList = a ++ '/' :: (b ++ '/' :: year) := by rw [htext, String.toList_ofList]
  have hchars : ∀ c ∈ text.toList, c.isDigit ∨ c = '/' := by
    rw [hlist]
    simp only [List.mem_append, List.mem_cons]
    rintro c (hc | rfl | hc | rfl | hc)
    · exact .inl (ha.isDigit c hc)
    · exact .inr rfl
    · exact .inl (hb.isDigit c hc)
    · exact .inr rfl
    · exact .inl (hyear.isDigit c hc)
  have htrim : trim text.toList = text.toList := by
    refine Text.trim_of_forall fun c hc => ?_
    rcases hchars c hc with hdigit | rfl
    · exact Text.isBlank_of_isDecimalDigit (isDecimalDigit_of_isDigit hdigit)
    · rfl
  have hhyphen : '-' ∉ text.toList := fun hmem => absurd (hchars _ hmem) (by decide)
  have hshape : hasLocaleShape text.toList = true := by
    rw [hlist]
    simpa using hasLocaleShape_of_year_last ha hb hyear hlength (.inr rfl)
      (show ∀ c ∈ ([] : List Char).head?, isBlank c = true by simp)
  have hkind : kindOf text.toList = .dateOnly :=
    hlist ▸ kindOf_of_year_last ha hb hyear hlength (.inr rfl)
  obtain ⟨other, hgroups, hother⟩ := readGroups?_slashes ha hb hyear .midnight hlength
  rw [hother rfl, Option.or_none, List.append_nil, ← hlist] at hgroups
  rw [← htext, ofText?_of_hasLocaleShape htrim hhyphen hshape, hkind, hgroups, ofFields?_midnight,
    ofFields?_midnight]
  split_ifs <;> rfl

/-- **All notations of a moment are read as the same.** A date that exists, in a year of at most
four digits, is read in each of the five styles as the moment at which the zone shows its midnight,
and with a time of day as the moment at which the zone shows that time; with the month first, this
is so for the days that are no months. Every text of two numbers of one or two digits and a year of
four digits with slashes between them is read with the day first, or else with the month first, or
not at all. -/
theorem readings_of_notations (zone : Zone) :
    (∀ (style : DateStyle) (date : Date), date.isValid →
      (0 ≤ date.year ∧ date.year ≤ 9999) → (style = .american → 12 < date.day) →
      ofText? zone (style.dateText date) =
          momentAt? zone .dateOnly (.ofDay date.dayNumber 0 0) ∧
        ∀ hour minute second : ℕ, hour < 24 → minute < 60 → second < 60 →
          ofText? zone (style.stampText date hour minute second) =
            momentAt? zone .dateTime
              (.ofDay date.dayNumber (3600 * hour + 60 * minute + second) 0)) ∧
    ∀ a b year : List Char, IsRun .day a → IsRun .month b → IsRun .year year → year.length = 4 →
      let dayFirst : Date := ⟨digitsValue year, digitsValue b, digitsValue a⟩
      let monthFirst : Date := ⟨digitsValue year, digitsValue a, digitsValue b⟩
      ofText? zone (String.ofList (a ++ '/' :: (b ++ '/' :: year))) =
        if dayFirst.isValid then momentAt? zone .dateOnly (.ofDay dayFirst.dayNumber 0 0)
        else if monthFirst.isValid then momentAt? zone .dateOnly (.ofDay monthFirst.dayNumber 0 0)
        else none := by
  constructor
  · intro style date hvalid hyear hstyle
    exact ⟨ofText?_dateText hvalid hyear hstyle zone, fun hour minute second hhour hminute hsecond =>
      ofText?_stampText hvalid hyear hstyle ⟨hhour, hminute, hsecond⟩ zone⟩
  · intro a b year ha hb hyear hlength
    exact ofText?_slashes ha hb hyear hlength zone

/-- A leap day in the American style, and slashes that do not say which number is the month. -/
theorem readings_of_leap_day :
    ofText? .utc "02/29/2024 08:05:00" = ofText? .utc "2024-02-29T08:05:00" ∧
      ofText? .utc "2024-02-29T08:05:00" = some ⟨⟨1709193900, 0⟩, .utc, .dateTime⟩ ∧
      ofText? .utc "5/6/2025" = some ⟨⟨1749081600, 0⟩, .utc, .dateOnly⟩ := by
  obtain ⟨hstyles, hslashes⟩ := readings_of_notations .utc
  have hiso : ofText? .utc "2024-02-29T08:05:00" = some ⟨⟨1709193900, 0⟩, .utc, .dateTime⟩ :=
    (hstyles .iso ⟨2024, 2, 29⟩ (by decide) (by decide) (by decide)).2 8 5 0 (by decide) (by decide)
      (by decide)
  have hamerican : ofText? .utc "02/29/2024 08:05:00" =
      some ⟨⟨1709193900, 0⟩, .utc, .dateTime⟩ :=
    (hstyles .american ⟨2024, 2, 29⟩ (by decide) (by decide) (by decide)).2 8 5 0 (by decide)
      (by decide) (by decide)
  refine ⟨hamerican.trans hiso.symm, hiso, ?_⟩
  exact hslashes ['5'] ['6'] ['2', '0', '2', '5'] (by decide) (by decide) (by decide) rfl

end SheetFormula.Moment
