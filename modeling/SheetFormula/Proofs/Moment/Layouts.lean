import SheetFormula.Proofs.Moment.Reading

/-!
# What the layouts read

The layouts come in four groups of three: a date with a mark and an order of its fields, with a time
of day with and without seconds, and without one. On a text of three runs of digits with a mark
between them, and possibly a time of day behind them, a group is an exact inverse of its notation,
or it does not apply: if its mark is another one, or if the text begins with a year where the group
begins with a day or a month, or the other way round.

## Main definitions

* `SheetFormula.Moment.IsRun` — the digits of a field of a layout.
* `SheetFormula.Moment.readGroup?`, `SheetFormula.Moment.readGroups?` — the wall-clock time of a
  text in a group of layouts, and in any of them.
* `SheetFormula.Moment.WritesTime` — a time of day behind a date, or nothing.

## Main results

* `SheetFormula.Moment.readLocale?_eq` — the layouts are tried group by group.
* `SheetFormula.Moment.readGroup?_eq` — a group reads its notation.
* `SheetFormula.Moment.readGroup?_eq_none_of_notMem`,
  `SheetFormula.Moment.readGroup?_of_long_field`, `SheetFormula.Moment.readGroup?_of_long_last` —
  groups that do not apply.
* `SheetFormula.Moment.readGroups?_points`, `SheetFormula.Moment.readGroups?_slashes`,
  `SheetFormula.Moment.readGroups?_year_first` — what is read of the three kinds of texts.
-/

set_option relaxedAutoImplicit false
set_option autoImplicit false

namespace SheetFormula.Moment

open SheetFormula.Calendar (Timestamp)
open SheetFormula.Text (Shape isBlank isDecimalDigit isDecimalDigit_of_isDigit trimStart)
open SheetFormula.Number (digitsValue)

/-! ## Fields -/

/-- The digits of a field of a layout, no more than the field takes. -/
structure IsRun (field : Field) (digits : List Char) : Prop where
  ne_nil : digits ≠ []
  length_le : digits.length ≤ field.width
  isDigit : ∀ c ∈ digits, c.isDigit

instance (field : Field) (digits : List Char) : Decidable (IsRun field digits) :=
  decidable_of_iff (digits ≠ [] ∧ digits.length ≤ field.width ∧ digits.all Char.isDigit)
    ⟨fun h => ⟨h.1, h.2.1, List.all_eq_true.mp h.2.2⟩,
      fun h => ⟨h.ne_nil, h.length_le, List.all_eq_true.mpr h.isDigit⟩⟩

namespace IsRun

variable {field : Field} {digits : List Char} (h : IsRun field digits)

include h

/-- The digits of a field are those of a field of the same width. -/
lemma of_width {field' : Field} (hwidth : field.width = field'.width) : IsRun field' digits :=
  ⟨h.ne_nil, hwidth ▸ h.length_le, h.isDigit⟩

/-- The digits of a field are no white space. -/
lemma isBlank {c : Char} (hc : c ∈ digits) : Text.isBlank c = false :=
  Text.isBlank_of_isDecimalDigit (isDecimalDigit_of_isDigit (h.isDigit c hc))

/-- The digits of a field have no other character. -/
lemma notMem {c : Char} (hc : c.isDigit = false) : c ∉ digits := by
  intro hmem
  rw [h.isDigit c hmem] at hc
  cases hc

/-- No white space is skipped before the digits of a field. -/
lemma trimStart_append (rest : List Char) : trimStart (digits ++ rest) = digits ++ rest := by
  obtain ⟨c, tail, rfl⟩ := List.exists_cons_of_ne_nil h.ne_nil
  exact List.dropWhile_cons_of_neg (by simp [h.isBlank])

/-- **Reading a field is an exact inverse of writing it**, if it is full or no digit stands behind
it. -/
theorem readField?_append {rest : List Char}
    (hrest : digits.length = field.width ∨ ∀ c ∈ rest.head?, c.isDigit = false) :
    readField? field (digits ++ rest) = some (digitsValue digits, rest) := by
  have hdigits : ((digits ++ rest).take field.width).takeWhile Char.isDigit = digits := by
    rw [List.take_append, List.take_of_length_le h.length_le,
      List.takeWhile_append_of_pos h.isDigit]
    have hnone : (rest.take (field.width - digits.length)).takeWhile Char.isDigit = [] := by
      rcases hrest with hfull | hhead
      · rw [hfull, Nat.sub_self, List.take_zero, List.takeWhile_nil]
      · cases rest with
        | nil => simp
        | cons c tail =>
          have hc : c.isDigit = false := hhead c rfl
          cases field.width - digits.length with
          | zero => rfl
          | succ n => simp [hc]
    rw [hnone, List.append_nil]
  rw [readField?, h.trimStart_append, hdigits, if_neg h.ne_nil, List.drop_left]

end IsRun

/-- A field of two digits takes the first two digits of a longer year, and leaves another one. -/
lemma IsRun.exists_pair {field : Field} (hfield : field.width = 2) {digits : List Char}
    (h : IsRun .year digits) (hlong : 2 < digits.length) :
    ∃ pair c tail, digits = pair ++ c :: tail ∧ IsRun field pair ∧ pair.length = field.width ∧
      c.isDigit := by
  match digits, hlong with
  | first :: second :: third :: tail, _ =>
    have hdigits := h.isDigit
    simp only [List.mem_cons, forall_eq_or_imp] at hdigits
    obtain ⟨hfirst, hsecond, hthird, -⟩ := hdigits
    refine ⟨[first, second], third, tail, rfl, ⟨by simp, by simp [hfield], ?_⟩, by simp [hfield],
      hthird⟩
    simp [hfirst, hsecond]

/-! ## Parts -/

variable {x y z : Field} {mark : Char} {a b c : List Char}

/-- **A date of a layout is an exact inverse of its notation.** -/
theorem readParts?_dateParts (hmark : mark.isDigit = false) (ha : IsRun x a) (hb : IsRun y b)
    (hc : IsRun z c) (rest : List Char)
    (hrest : c.length = z.width ∨ ∀ d ∈ rest.head?, d.isDigit = false) (values : FieldValues)
    (parts : List Part) :
    readParts? values (dateParts mark x y z ++ parts) (a ++ mark :: (b ++ mark :: (c ++ rest))) =
      readParts? (((values.set x (digitsValue a)).set y (digitsValue b)).set z (digitsValue c))
        parts rest := by
  have hmarks (tail : List Char) : ∀ d ∈ (mark :: tail).head?, d.isDigit = false := by
    simpa using hmark
  simp only [dateParts, List.cons_append, List.nil_append, readParts?,
    ha.readField?_append (.inr (hmarks _)), hb.readField?_append (.inr (hmarks _)),
    hc.readField?_append hrest, if_true]

/-- What stands behind a date: nothing, which is midnight, or a time of day behind a blank. -/
inductive WritesTime : ℕ → ℕ → ℕ → List Char → Prop
  | midnight : WritesTime 0 0 0 []
  | clock {hour minute second : List Char} (hhour : IsRun .hour hour)
      (hminute : IsRun .minute minute) (hsecond : IsRun .second second) :
      WritesTime (digitsValue hour) (digitsValue minute) (digitsValue second)
        (' ' :: (hour ++ ':' :: (minute ++ ':' :: second)))

/-- What stands behind a date has digits, a blank and colons only. -/
lemma WritesTime.notMem {hour minute second : ℕ} {rest : List Char}
    (h : WritesTime hour minute second rest) {c : Char} (hc : c.isDigit = false)
    (hmark : c ≠ ' ' ∧ c ≠ ':') : c ∉ rest := by
  cases h with
  | midnight => exact List.not_mem_nil
  | clock hhour hminute hsecond =>
    simp only [List.mem_cons, List.mem_append, not_or]
    exact ⟨hmark.1, hhour.notMem hc, hmark.2, hminute.notMem hc, hmark.2, hsecond.notMem hc⟩

/-- A time of day with seconds is read behind its blank. -/
lemma readParts?_longTime {hour minute second : List Char} (hhour : IsRun .hour hour)
    (hminute : IsRun .minute minute) (hsecond : IsRun .second second) (values : FieldValues) :
    readParts? values longTime (' ' :: (hour ++ ':' :: (minute ++ ':' :: second))) =
      some { values with
        hour := digitsValue hour, minute := digitsValue minute, second := digitsValue second } := by
  have hcolon (tail : List Char) : ∀ d ∈ (':' :: tail).head?, d.isDigit = false := by simp
  have hblank (tail : List Char) : trimStart (' ' :: tail) = trimStart tail :=
    List.dropWhile_cons_of_pos (by decide)
  have hend : readField? .second second = some (digitsValue second, []) := by
    have hnone : ∀ c ∈ ([] : List Char).head?, c.isDigit = false := by simp
    have happend := hsecond.readField?_append (.inr hnone)
    rwa [List.append_nil] at happend
  simp only [longTime, readParts?, hblank, hhour.trimStart_append,
    hhour.readField?_append (.inr (hcolon _)), hminute.readField?_append (.inr (hcolon _)), hend,
    if_true, FieldValues.set]

/-- A time of day without seconds leaves a text over that goes on with seconds. -/
lemma readParts?_shortTime {hour minute tail : List Char} (hhour : IsRun .hour hour)
    (hminute : IsRun .minute minute) (values : FieldValues) :
    readParts? values shortTime (' ' :: (hour ++ ':' :: (minute ++ ':' :: tail))) = none := by
  have hcolon (tail : List Char) : ∀ d ∈ (':' :: tail).head?, d.isDigit = false := by simp
  have hblank (tail : List Char) : trimStart (' ' :: tail) = trimStart tail :=
    List.dropWhile_cons_of_pos (by decide)
  simp only [shortTime, readParts?, hblank, hhour.trimStart_append,
    hhour.readField?_append (.inr (hcolon _)), hminute.readField?_append (.inr (hcolon _)),
    if_true]
  rfl

/-! ## Groups of layouts -/

/-- The wall-clock time of a text in the layouts with a mark and an order of the fields. -/
def readGroup? (mark : Char) (x y z : Field) (text : List Char) : Option Timestamp :=
  (withTimes (dateParts mark x y z)).findSome? fun layout => readLayout? layout text

/-- The wall-clock time of a text in any group: points, slashes with the day first, slashes with the
month first, and slashes with the year first. -/
def readGroups? (text : List Char) : Option Timestamp :=
  (((readGroup? '.' .day .month .year text).or (readGroup? '/' .day .month .year text)).or
    (readGroup? '/' .month .day .year text)).or (readGroup? '/' .year .month .day text)

/-- **The layouts are tried group by group.** -/
theorem readLocale?_eq (zone : Zone) {text : List Char} (hshape : hasLocaleShape text = true) :
    readLocale? zone text = (readGroups? text).bind zone.instantAt? := by
  have hlayouts : (layouts.findSome? fun layout => readLayout? layout text) = readGroups? text := by
    simp only [layouts, List.findSome?_append, readGroups?, readGroup?]
  rw [readLocale?, if_pos hshape, hlayouts]
  split
  next wall hwall => rw [hwall, Option.bind_some]
  next hnone => rw [hnone, Option.bind_none]

/-- A group does not apply where its date does not, whatever stands behind it. -/
lemma readGroup?_eq_none {text : List Char}
    (h : ∀ time, readParts? {} (dateParts mark x y z ++ time) text = none) :
    readGroup? mark x y z text = none := by
  rw [readGroup?, List.findSome?_eq_none_iff]
  intro layout hlayout
  obtain ⟨time, rfl⟩ : ∃ time, layout = dateParts mark x y z ++ time := by
    simp only [withTimes, List.mem_cons, List.not_mem_nil, or_false] at hlayout
    rcases hlayout with rfl | rfl | rfl
    · exact ⟨_, rfl⟩
    · exact ⟨_, rfl⟩
    · exact ⟨[], (List.append_nil _).symm⟩
  rw [readLayout?, h]
  rfl

/-- **A group does not apply to a text without its mark.** -/
theorem readGroup?_eq_none_of_notMem {text : List Char} (htext : mark ∉ text) :
    readGroup? mark x y z text = none := by
  refine readGroup?_eq_none fun time => ?_
  by_contra hread
  obtain ⟨values, hvalues⟩ := Option.ne_none_iff_exists'.mp hread
  exact htext (mark_mem_of_readParts? hvalues (by simp [dateParts]))

/-- The values of the fields of a date. -/
def dateValues (x y z : Field) (a b c : List Char) : FieldValues :=
  ((({} : FieldValues).set x (digitsValue a)).set y (digitsValue b)).set z (digitsValue c)

/-- The wall-clock time that values of fields name, if there is one. -/
def FieldValues.wall? (values : FieldValues) : Option Timestamp :=
  Timestamp.ofFields? ⟨values.year, values.month, values.day⟩ values.hour values.minute
    values.second 0

/-- What is read in a layout is the time that its fields name. -/
lemma readLayout?_eq (layout : List Part) (text : List Char) :
    readLayout? layout text = (readParts? {} layout text).bind FieldValues.wall? :=
  rfl

/-- Without a colon, only the date of a group without a time of day can apply. -/
lemma readGroup?_of_notMem_colon {text : List Char} (htext : ':' ∉ text) :
    readGroup? mark x y z text = readLayout? (dateParts mark x y z) text := by
  have htimed (time : List Part) (htime : .mark ':' ∈ time) :
      readLayout? (dateParts mark x y z ++ time) text = none := by
    cases hread : readParts? {} (dateParts mark x y z ++ time) text with
    | some values =>
      exact absurd (mark_mem_of_readParts? hread (List.mem_append_right _ htime)) htext
    | none =>
      rw [readLayout?, hread]
      rfl
  simp only [readGroup?, withTimes, List.findSome?_cons, List.findSome?_nil,
    htimed longTime (by decide), htimed shortTime (by decide)]
  cases readLayout? (dateParts mark x y z) text <;> rfl

/-- A date has no colon, if its mark is none. -/
lemma colon_notMem (hmark : mark ≠ ':') (ha : IsRun x a) (hb : IsRun y b) (hc : IsRun z c) :
    ':' ∉ a ++ mark :: (b ++ mark :: c) := by
  simp only [List.mem_append, List.mem_cons, not_or]
  exact ⟨ha.notMem rfl, hmark.symm, hb.notMem rfl, hmark.symm, hc.notMem rfl⟩

/-- A group reads a date without a time of day. -/
lemma readGroup?_date (hmark : mark.isDigit = false ∧ mark ≠ ':') (ha : IsRun x a)
    (hb : IsRun y b) (hc : IsRun z c) :
    readGroup? mark x y z (a ++ mark :: (b ++ mark :: c)) = (dateValues x y z a b c).wall? := by
  have hdate := readParts?_dateParts hmark.1 ha hb hc [] (.inr (by simp)) {} []
  rw [List.append_nil, List.append_nil, readParts?, if_pos rfl] at hdate
  rw [readGroup?_of_notMem_colon (colon_notMem hmark.2 ha hb hc), readLayout?_eq, hdate]
  rfl

/-- A group reads a date with a time of day. -/
lemma readGroup?_stamp (hmark : mark.isDigit = false) (ha : IsRun x a) (hb : IsRun y b)
    (hc : IsRun z c) {hour minute second : List Char} (hhour : IsRun .hour hour)
    (hminute : IsRun .minute minute) (hsecond : IsRun .second second) :
    readGroup? mark x y z
        (a ++ mark :: (b ++ mark :: (c ++ ' ' :: (hour ++ ':' :: (minute ++ ':' :: second))))) =
      { dateValues x y z a b c with
        hour := digitsValue hour, minute := digitsValue minute,
        second := digitsValue second : FieldValues }.wall? := by
  obtain ⟨values, hvalues⟩ : ∃ values : FieldValues, values = { dateValues x y z a b c with
      hour := digitsValue hour, minute := digitsValue minute, second := digitsValue second } :=
    ⟨_, rfl⟩
  obtain ⟨text, htext⟩ : ∃ text, text =
      a ++ mark :: (b ++ mark :: (c ++ ' ' :: (hour ++ ':' :: (minute ++ ':' :: second)))) :=
    ⟨_, rfl⟩
  have hdate (parts : List Part) : readParts? {} (dateParts mark x y z ++ parts) text =
      readParts? (dateValues x y z a b c) parts
        (' ' :: (hour ++ ':' :: (minute ++ ':' :: second))) :=
    htext ▸ readParts?_dateParts hmark ha hb hc _ (.inr (by simp)) {} parts
  have hlong : readLayout? (dateParts mark x y z ++ longTime) text = values.wall? := by
    rw [readLayout?_eq, hdate, readParts?_longTime hhour hminute hsecond, hvalues]
    rfl
  have hshort : readLayout? (dateParts mark x y z ++ shortTime) text = none := by
    rw [readLayout?_eq, hdate, readParts?_shortTime hhour hminute]
    rfl
  have hplain : readLayout? (dateParts mark x y z) text = none := by
    have hrest := hdate []
    rw [List.append_nil] at hrest
    rw [readLayout?_eq, hrest]
    rfl
  rw [← htext, ← hvalues]
  simp only [readGroup?, withTimes, List.findSome?_cons, List.findSome?_nil, hlong, hshort, hplain]
  cases values.wall? <;> rfl

/-- **A group reads a date in its notation**, with a time of day or without one. -/
theorem readGroup?_eq (hmark : mark.isDigit = false ∧ mark ≠ ':') (ha : IsRun x a)
    (hb : IsRun y b) (hc : IsRun z c) {hour minute second : ℕ} {rest : List Char}
    (hrest : WritesTime hour minute second rest)
    (hdate : { dateValues x y z a b c with hour := 0, minute := 0, second := 0 : FieldValues } =
      dateValues x y z a b c) :
    readGroup? mark x y z (a ++ mark :: (b ++ mark :: (c ++ rest))) =
      { dateValues x y z a b c with hour, minute, second : FieldValues }.wall? := by
  cases hrest with
  | midnight => rw [List.append_nil, readGroup?_date hmark ha hb hc, hdate]
  | clock hhour hminute hsecond => exact readGroup?_stamp hmark.1 ha hb hc hhour hminute hsecond

/-- **A group that begins with a day or a month does not apply to a text that begins with a year**:
the field takes two digits and leaves the other two where its mark should stand. -/
theorem readGroup?_of_long_field (hx : x.width = 2) (hmark : mark.isDigit = false)
    (ha : IsRun .year a) (hlong : 2 < a.length) (rest : List Char) :
    readGroup? mark x y z (a ++ rest) = none := by
  obtain ⟨pair, third, tail, rfl, hpair, hfull, hthird⟩ := ha.exists_pair hx hlong
  have hmark' : third ≠ mark := by
    rintro rfl
    rw [hthird] at hmark
    cases hmark
  refine readGroup?_eq_none fun time => ?_
  rw [List.append_assoc, List.cons_append]
  simp only [dateParts, List.cons_append, readParts?, hpair.readField?_append (.inl hfull),
    if_neg hmark']

/-- **The group that ends with a day does not apply to a text that ends with a year**: the day takes
two digits and leaves the other two over. -/
theorem readGroup?_of_long_last (hz : z.width = 2) (hmark : mark.isDigit = false ∧ mark ≠ ':')
    (ha : IsRun x a) (hb : IsRun y b) (hc : IsRun .year c) (hlong : 2 < c.length) :
    readGroup? mark x y z (a ++ mark :: (b ++ mark :: c)) = none := by
  have hcolon := colon_notMem hmark.2 ha hb hc
  obtain ⟨pair, third, tail, rfl, hpair, hfull, -⟩ := hc.exists_pair hz hlong
  have hdate := readParts?_dateParts hmark.1 ha hb hpair (third :: tail) (.inl hfull) {} []
  rw [List.append_nil] at hdate
  rw [readGroup?_of_notMem_colon hcolon, readLayout?_eq, hdate]
  rfl

/-! ## All groups -/

section Groups

variable {day month year rest : List Char} {hour minute second : ℕ} (hday : IsRun .day day)
  (hmonth : IsRun .month month) (hyear : IsRun .year year)
  (hrest : WritesTime hour minute second rest)

include hday hmonth hyear hrest

/-- **A date with points is read with the day first.** -/
theorem readGroups?_points :
    readGroups? (day ++ '.' :: (month ++ '.' :: (year ++ rest))) =
      Timestamp.ofFields? ⟨digitsValue year, digitsValue month, digitsValue day⟩ hour minute
        second 0 := by
  have hslash : '/' ∉ day ++ '.' :: (month ++ '.' :: (year ++ rest)) := by
    simp only [List.mem_append, List.mem_cons, not_or]
    exact ⟨hday.notMem rfl, by decide, hmonth.notMem rfl, by decide, hyear.notMem rfl,
      hrest.notMem rfl (by decide)⟩
  rw [readGroups?, readGroup?_eq (by decide : '.'.isDigit = false ∧ '.' ≠ ':') hday hmonth hyear
    hrest rfl, readGroup?_eq_none_of_notMem hslash, readGroup?_eq_none_of_notMem hslash,
    readGroup?_eq_none_of_notMem hslash, Option.or_none, Option.or_none, Option.or_none]
  rfl

/-- **A date with slashes is read with the day first, or else with the month first**, if it ends
with a full year. -/
theorem readGroups?_slashes (hfull : year.length = 4) :
    ∃ other, readGroups? (day ++ '/' :: (month ++ '/' :: (year ++ rest))) =
      ((Timestamp.ofFields? ⟨digitsValue year, digitsValue month, digitsValue day⟩ hour minute
        second 0).or (Timestamp.ofFields? ⟨digitsValue year, digitsValue day, digitsValue month⟩
          hour minute second 0)).or other ∧ (rest = [] → other = none) := by
  have hpoint : '.' ∉ day ++ '/' :: (month ++ '/' :: (year ++ rest)) := by
    simp only [List.mem_append, List.mem_cons, not_or]
    exact ⟨hday.notMem rfl, by decide, hmonth.notMem rfl, by decide, hyear.notMem rfl,
      hrest.notMem rfl (by decide)⟩
  have hslash : '/'.isDigit = false ∧ '/' ≠ ':' := by decide
  refine ⟨readGroup? '/' .year .month .day (day ++ '/' :: (month ++ '/' :: (year ++ rest))), ?_, ?_⟩
  · rw [readGroups?, readGroup?_eq_none_of_notMem hpoint,
      readGroup?_eq hslash hday hmonth hyear hrest rfl,
      readGroup?_eq hslash (hday.of_width rfl : IsRun .month day)
        (hmonth.of_width rfl : IsRun .day month) hyear hrest rfl]
    rfl
  · rintro rfl
    rw [List.append_nil]
    have hday' : IsRun .year day := ⟨hday.ne_nil, hday.length_le.trans (by decide), hday.isDigit⟩
    exact readGroup?_of_long_last rfl hslash hday' hmonth hyear (by omega)

/-- **A date with slashes that begins with a full year is read with the year first.** -/
theorem readGroups?_year_first (hfull : year.length = 4) :
    readGroups? (year ++ '/' :: (month ++ '/' :: (day ++ rest))) =
      Timestamp.ofFields? ⟨digitsValue year, digitsValue month, digitsValue day⟩ hour minute
        second 0 := by
  have hpoint : '.' ∉ year ++ '/' :: (month ++ '/' :: (day ++ rest)) := by
    simp only [List.mem_append, List.mem_cons, not_or]
    exact ⟨hyear.notMem rfl, by decide, hmonth.notMem rfl, by decide, hday.notMem rfl,
      hrest.notMem rfl (by decide)⟩
  have hlong : 2 < year.length := by omega
  rw [readGroups?, readGroup?_eq_none_of_notMem hpoint,
    readGroup?_of_long_field rfl rfl hyear hlong, readGroup?_of_long_field rfl rfl hyear hlong,
    readGroup?_eq (by decide : '/'.isDigit = false ∧ '/' ≠ ':') hyear hmonth hday hrest rfl]
  rfl

end Groups

end SheetFormula.Moment
