import SheetFormula.Moment.Reader
import SheetFormula.Proofs.Text.Shape
import Mathlib.Algebra.Ring.Nat
import Mathlib.Data.List.Induction
import Mathlib.Data.List.TakeWhile

/-!
# Texts that are read as dates

What a text looks like that a reader of dates accepts, step by step: the digits it takes, the marks
it passes, and the white space it skips.

## Main definitions

* `SheetFormula.Moment.IsLocaleDate` — the parts of a date in a local shape.

## Main results

* `SheetFormula.Moment.takeDigits?_eq_some` — a field of a given number of digits.
* `SheetFormula.Moment.steps_of_isoFields?`, `SheetFormula.Moment.exists_of_timeFields?` — the
  fields of a text in ISO notation, step by step.
* `SheetFormula.Moment.exists_of_isoFields?` — texts in ISO notation begin with a year and a month.
* `SheetFormula.Moment.exists_of_readField?` — a field of a layout: white space, and some digits.
* `SheetFormula.Moment.mark_mem_of_readParts?` — a text in a layout has all marks of the layout.
* `SheetFormula.Moment.exists_isLocaleDate` — texts in a local shape.
* `SheetFormula.Moment.eq_of_readParts?_dateParts` — texts that are read as a date only end behind
  it.
* `SheetFormula.Moment.mem_or_exists_of_readLocale?` — a text in a local notation has a slash or a
  colon, or it is a plain date with points.
* `SheetFormula.Number.digitsValue_lt` — the values of fields are bounded by their digits.
-/

set_option relaxedAutoImplicit false
set_option autoImplicit false

namespace SheetFormula

open SheetFormula.Text (Shape isBlank isDecimalDigit trimStart)
open SheetFormula.Number (digitsValue)
open SheetFormula.Calendar (Timestamp)

/-! ## Values of digits -/

/-- **A run of `n` digits writes a number below `10 ^ n`.** -/
theorem Number.digitsValue_lt {digits : List Char} (h : ∀ c ∈ digits, c.isDigit) :
    digitsValue digits < 10 ^ digits.length := by
  induction digits using List.reverseRecOn with
  | nil => decide
  | append_singleton init c ih =>
    have hinit := ih fun c' hc' => h c' (by simp [hc'])
    have hc : c.toNat - 48 ≤ 9 := by
      have hdigit := h c (by simp)
      simp only [Char.isDigit, Bool.and_eq_true, decide_eq_true_eq, UInt32.le_iff_toNat_le] at hdigit
      have hupper : c.toNat ≤ 57 := hdigit.2
      omega
    have hvalue : digitsValue (init ++ [c]) = 10 * digitsValue init + (c.toNat - 48) := by
      rw [digitsValue, List.foldl_append]
      rfl
    rw [hvalue, List.length_append, List.length_singleton, pow_succ]
    omega

namespace Moment

/-! ## ISO notation -/

/-- A field of a number of digits is taken where these digits stand. -/
lemma takeDigits?_eq_some {n : ℕ} {text digits rest : List Char} :
    takeDigits? n text = some (digits, rest) ↔
      digits.length = n ∧ (∀ c ∈ digits, isDecimalDigit c = true) ∧ text = digits ++ rest := by
  simp only [takeDigits?, List.all_eq_true]
  constructor
  · intro h
    split_ifs at h with hdigits
    obtain ⟨rfl, rfl⟩ : text.take n = digits ∧ text.drop n = rest := by simpa using h
    exact ⟨hdigits.1, hdigits.2, (List.take_append_drop n text).symm⟩
  · rintro ⟨rfl, hall, rfl⟩
    rw [List.take_left, List.drop_left, if_pos ⟨rfl, hall⟩]

/-- A field behind a mark is missing, or it has two digits. -/
lemma takeField?_eq_some {mark : Char} {text field rest : List Char}
    (h : takeField? mark text = some (field, rest)) :
    field = [] ∧ text = rest ∨
      field.length = 2 ∧ (∀ c ∈ field, isDecimalDigit c = true) ∧
        text = mark :: (field ++ rest) := by
  cases text with
  | nil =>
    obtain ⟨rfl, rfl⟩ : field = [] ∧ rest = [] := by simpa [takeField?, eq_comm] using h
    exact .inl ⟨rfl, rfl⟩
  | cons c tail =>
    rw [takeField?] at h
    split_ifs at h with hc
    · obtain ⟨hlength, hall, rfl⟩ := takeDigits?_eq_some.mp h
      exact .inr ⟨hlength, hall, by rw [hc]⟩
    · obtain ⟨rfl, rfl⟩ : [] = field ∧ c :: tail = rest := by simpa using h
      exact .inl ⟨rfl, rfl⟩

/-- What is bound behind a choice is bound behind what is chosen. -/
lemma exists_of_ite_bind {α β : Type} {chosen : Prop} [Decidable chosen] {x y : Option α}
    {next : α → Option β} {b : β} (h : (if chosen then x.bind next else y.bind next) = some b) :
    ∃ a, (if chosen then x else y) = some a ∧ next a = some b := by
  split_ifs at h ⊢
  all_goals exact Option.bind_eq_some_iff.mp h

/-- **The fields of a time of day** are taken one behind the other, each only if there is the one
before it, up to an offset at the end. They leave the date as it is. -/
theorem exists_of_timeFields? {date fields : IsoFields} {text : List Char}
    (h : timeFields? date text = some fields) :
    ∃ hour minute second fraction offset afterHour afterMinute afterSecond,
      takeDigits? 2 text = some (hour, afterHour) ∧
      takeField? ':' afterHour = some (minute, afterMinute) ∧
      (if minute = [] then some ([], afterMinute) else takeField? ':' afterMinute) =
        some (second, afterSecond) ∧
      (if second = [] then some ([], afterSecond) else takeFraction? afterSecond) =
        some (fraction, offset) ∧
      (offset = [] ∨ isOffset offset = true) ∧
      fields = { date with hour, minute, second, fraction, offset } := by
  simp only [timeFields?, Option.bind_eq_bind, Option.bind_eq_some_iff, Prod.exists] at h
  obtain ⟨hour, afterHour, hhour, minute, afterMinute, hminute, h⟩ := h
  obtain ⟨⟨second, afterSecond⟩, hsecond, h⟩ := exists_of_ite_bind h
  obtain ⟨⟨fraction, offset⟩, hfraction, h⟩ := exists_of_ite_bind h
  split_ifs at h with hoffset
  exact ⟨hour, minute, second, fraction, offset, afterHour, afterMinute, afterSecond, hhour, hminute,
    hsecond, hfraction, hoffset, (Option.some.inj h).symm⟩

/-- **The fields of a date** are taken one behind the other, and those of a time of day behind
`T`. -/
theorem steps_of_isoFields? {text : List Char} {fields : IsoFields}
    (h : isoFields? text = some fields) :
    ∃ year month day afterYear afterMonth afterDay,
      takeDigits? 4 text = some (year, afterYear) ∧
      takeField? '-' afterYear = some (month, afterMonth) ∧ month ≠ [] ∧
      takeField? '-' afterMonth = some (day, afterDay) ∧
      (afterDay = [] ∧ fields = { year, month, day } ∨
        ∃ time, afterDay = 'T' :: time ∧ timeFields? { year, month, day } time = some fields) := by
  simp only [isoFields?, Option.bind_eq_bind, Option.bind_eq_some_iff, Prod.exists] at h
  obtain ⟨year, afterYear, hyear, month, afterMonth, hmonth, day, afterDay, hday, h⟩ := h
  split_ifs at h with hempty
  refine ⟨year, month, day, afterYear, afterMonth, afterDay, hyear, hmonth, hempty, hday, ?_⟩
  split at h
  next => exact .inl ⟨rfl, (Option.some.inj h).symm⟩
  next mark time =>
    split_ifs at h with hmark
    exact .inr ⟨time, by rw [hmark.2], h⟩

/-- **A text in ISO notation begins with a year of four digits and a month of two**, with a hyphen
between them. -/
theorem exists_of_isoFields? {text : List Char} {fields : IsoFields}
    (h : isoFields? text = some fields) :
    ∃ rest, text = fields.year ++ '-' :: (fields.month ++ rest) ∧
      (fields.year.length = 4 ∧ ∀ c ∈ fields.year, isDecimalDigit c = true) ∧
      fields.month.length = 2 ∧ ∀ c ∈ fields.month, isDecimalDigit c = true := by
  obtain ⟨year, month, day, afterYear, afterMonth, afterDay, hyear, hmonth, hempty, -, hfields⟩ :=
    steps_of_isoFields? h
  obtain ⟨hlength, hall, rfl⟩ := takeDigits?_eq_some.mp hyear
  obtain ⟨rfl, -⟩ | ⟨hlength', hall', rfl⟩ := takeField?_eq_some hmonth
  · exact absurd rfl hempty
  obtain ⟨rfl, rfl⟩ : fields.year = year ∧ fields.month = month := by
    obtain ⟨-, rfl⟩ | ⟨time, -, htime⟩ := hfields
    · exact ⟨rfl, rfl⟩
    · obtain ⟨_, _, _, _, _, _, _, _, -, -, -, -, -, rfl⟩ := exists_of_timeFields? htime
      exact ⟨rfl, rfl⟩
  exact ⟨afterMonth, rfl, ⟨hlength, hall⟩, hlength', hall'⟩

/-! ## Layouts -/

/-- **A field of a layout** is white space, if any, and some digits, no more than the field has. -/
theorem exists_of_readField? {field : Field} {text rest : List Char} {value : ℕ}
    (h : readField? field text = some (value, rest)) :
    ∃ blanks digits, text = blanks ++ (digits ++ rest) ∧ (∀ c ∈ blanks, isBlank c = true) ∧
      (digits ≠ [] ∧ digits.length ≤ field.width ∧ ∀ c ∈ digits, c.isDigit) ∧
      value = digitsValue digits := by
  unfold readField? at h
  dsimp only at h
  obtain ⟨digits, hdigits⟩ : ∃ digits,
      digits = ((trimStart text).take field.width).takeWhile Char.isDigit := ⟨_, rfl⟩
  rw [← hdigits] at h
  split_ifs at h with hempty
  obtain ⟨rfl, rfl⟩ : digitsValue digits = value ∧ (trimStart text).drop digits.length = rest := by
    simpa using h
  have hprefix : digits <+: trimStart text := by
    rw [hdigits]
    exact (List.takeWhile_prefix _).trans (List.take_prefix _ _)
  refine ⟨text.takeWhile isBlank, digits, ?_, ?_, ⟨hempty, ?_, ?_⟩, rfl⟩
  · obtain ⟨tail, htail⟩ := hprefix
    have htext : text = text.takeWhile isBlank ++ trimStart text :=
      List.takeWhile_append_dropWhile.symm
    rw [← htail, List.drop_left, htail]
    exact htext
  · exact fun c hc => List.mem_takeWhile_imp hc
  · rw [hdigits]
    exact ((List.takeWhile_prefix _).length_le).trans (List.length_take_le _ _)
  · rw [hdigits]
    exact fun c hc => List.mem_takeWhile_imp hc

/-- A layout that goes on with a field is read by reading the field first. -/
lemma exists_of_readParts?_field {values final : FieldValues} {field : Field} {parts : List Part}
    {text : List Char} (h : readParts? values (.field field :: parts) text = some final) :
    ∃ value rest, readField? field text = some (value, rest) ∧
      readParts? (values.set field value) parts rest = some final := by
  rw [readParts?] at h
  split at h
  next value rest hread => exact ⟨value, rest, hread, h⟩
  next => cases h

/-- A layout that goes on with a mark is read where the mark stands. -/
lemma exists_of_readParts?_mark {values final : FieldValues} {mark : Char} {parts : List Part}
    {text : List Char} (h : readParts? values (.mark mark :: parts) text = some final) :
    ∃ rest, text = mark :: rest ∧ readParts? values parts rest = some final := by
  cases text with
  | nil => cases h
  | cons c rest =>
    simp only [readParts?] at h
    split_ifs at h with hc
    exact ⟨rest, by rw [hc], h⟩

/-- **A text in a layout has all marks of the layout.** -/
theorem mark_mem_of_readParts? {layout : List Part} {values final : FieldValues} {text : List Char}
    (h : readParts? values layout text = some final) {mark : Char} (hmark : .mark mark ∈ layout) :
    mark ∈ text := by
  induction layout generalizing values text with
  | nil => cases hmark
  | cons part parts ih =>
    cases part with
    | field field =>
      obtain ⟨value, rest, hread, hrest⟩ := exists_of_readParts?_field h
      obtain ⟨blanks, digits, rfl, -⟩ := exists_of_readField? hread
      have hmem := ih hrest (by simpa using hmark)
      simp [hmem]
    | mark other =>
      obtain ⟨rest, rfl, hrest⟩ := exists_of_readParts?_mark h
      rcases List.mem_cons.mp hmark with hsame | hlater
      · cases hsame
        simp
      · exact List.mem_cons_of_mem _ (ih hrest hlater)
    | blank =>
      simp only [readParts?] at h
      exact (List.dropWhile_sublist _).subset (ih h (by simpa using hmark))

/-- **A date in a local shape**: three runs of digits with two marks between them. A year of four
digits comes last, behind points or slashes, or first, before slashes. -/
structure IsLocaleDate (first : List Char) (mark : Char) (second : List Char) (mark' : Char)
    (third : List Char) : Prop where
  isDecimalDigit : ∀ c ∈ first ++ second ++ third, isDecimalDigit c = true
  second_length : 1 ≤ second.length ∧ second.length ≤ 2
  year : ((1 ≤ first.length ∧ first.length ≤ 2) ∧ third.length = 4 ∧
      (mark = '.' ∨ mark = '/') ∧ (mark' = '.' ∨ mark' = '/')) ∨
    (first.length = 4 ∧ (1 ≤ third.length ∧ third.length ≤ 2) ∧ mark = '/' ∧ mark' = '/')

/-- **A text in a local shape** begins with a date, behind which it ends or has white space. -/
theorem exists_isLocaleDate {text : List Char} (h : hasLocaleShape text = true) :
    ∃ first mark second mark' third rest, IsLocaleDate first mark second mark' third ∧
      text = first ++ mark :: (second ++ mark' :: (third ++ rest)) ∧
      ∀ c ∈ rest.head?, isBlank c = true := by
  rw [hasLocaleShape, Shape.begins_iff] at h
  obtain ⟨_, h⟩ := h
  simp only [localeShape, Shape.mem_andThen, Shape.mem_orElse, Shape.mem_sequence_cons,
    Shape.mem_sequence_nil, Shape.mem_oneOrTwoDigits, Shape.mem_one, Shape.digits, Shape.mem_times,
    Shape.mem_char, Bool.or_eq_true, beq_iff_eq] at h
  obtain ⟨rest, hdate, hend⟩ := h
  have hrest : ∀ c ∈ rest.head?, isBlank c = true := by
    rcases hend with ⟨c, hc, rfl⟩ | hend
    · simpa using hc
    · cases rest with
      | nil => simp
      | cons => cases hend
  have hdigits {first second third : List Char} (hfirst : ∀ c ∈ first, isDecimalDigit c = true)
      (hsecond : ∀ c ∈ second, isDecimalDigit c = true)
      (hthird : ∀ c ∈ third, isDecimalDigit c = true) :
      ∀ c ∈ first ++ second ++ third, isDecimalDigit c = true := by
    simp only [List.mem_append]
    rintro c ((hc | hc) | hc)
    exacts [hfirst c hc, hsecond c hc, hthird c hc]
  obtain ⟨_, ⟨day, hday, hday', rfl⟩, _, ⟨mark, hmark, rfl⟩, _, ⟨month, hmonth, hmonth', rfl⟩, _,
    ⟨mark', hmark', rfl⟩, _, ⟨year, hyear, hyear', rfl⟩, rfl⟩ |
    ⟨_, ⟨year, hyear, hyear', rfl⟩, _, rfl, _, ⟨month, hmonth, hmonth', rfl⟩, _, rfl, _,
      ⟨day, hday, hday', rfl⟩, rfl⟩ := hdate
  · exact ⟨day, mark, month, mark', year, _, ⟨hdigits hday' hmonth' hyear', hmonth,
      .inl ⟨hday, hyear, hmark, hmark'⟩⟩, rfl, hrest⟩
  · exact ⟨year, '/', month, '/', day, _, ⟨hdigits hyear' hmonth' hday', hmonth,
      .inr ⟨hyear, hday, rfl, rfl⟩⟩, rfl, hrest⟩

section LocaleDate

variable {first second third : List Char} {mark mark' : Char}
  (h : IsLocaleDate first mark second mark' third)

include h

/-- The runs of a date in a local shape are not empty. -/
lemma IsLocaleDate.ne_nil : first ≠ [] ∧ second ≠ [] ∧ third ≠ [] := by
  have hsecond := h.second_length
  have hyear := h.year
  simp only [← List.length_pos_iff]
  omega

/-- The marks of a date in a local shape are points or slashes. -/
lemma IsLocaleDate.marks : (mark = '.' ∨ mark = '/') ∧ (mark' = '.' ∨ mark' = '/') := by
  rcases h.year with ⟨-, -, hmarks⟩ | ⟨-, -, rfl, rfl⟩
  · exact hmarks
  · simp

end LocaleDate

/-- A text in a local shape begins with digits and a point or a slash. -/
lemma exists_of_hasLocaleShape {text : List Char} (h : hasLocaleShape text = true) :
    ∃ digits mark rest, text = digits ++ mark :: rest ∧ digits ≠ [] ∧
      (∀ c ∈ digits, isDecimalDigit c = true) ∧ (mark = '.' ∨ mark = '/') := by
  obtain ⟨first, mark, second, mark', third, rest, hdate, rfl, -⟩ := exists_isLocaleDate h
  exact ⟨first, mark, _, rfl, hdate.ne_nil.1, fun c hc => hdate.isDecimalDigit c (by simp [hc]),
    hdate.marks.1⟩

/-- A text in a local shape has a slash, or it begins with a date with points. -/
lemma mem_or_exists_of_hasLocaleShape {text : List Char} (h : hasLocaleShape text = true) :
    '/' ∈ text ∨ ∃ day month year rest, text = day ++ '.' :: (month ++ '.' :: (year ++ rest)) ∧
      IsLocaleDate day '.' month '.' year ∧ ∀ c ∈ rest.head?, isBlank c = true := by
  obtain ⟨first, mark, second, mark', third, rest, hdate, rfl, hrest⟩ := exists_isLocaleDate h
  obtain ⟨rfl | rfl, rfl | rfl⟩ := hdate.marks
  · exact .inr ⟨first, second, third, rest, rfl, hdate, hrest⟩
  all_goals exact .inl (by simp)

/-- **A text in ISO notation is in no local notation**: its first mark is a hyphen. -/
theorem readLocale?_of_isoFields? {text : List Char} {fields : IsoFields}
    (h : isoFields? text = some fields) (zone : Zone) : readLocale? zone text = none := by
  refine if_neg fun hshape => ?_
  obtain ⟨rest, hiso, ⟨-, hyear⟩, -⟩ := exists_of_isoFields? h
  obtain ⟨digits, mark, rest', htext, -, hdigits, hmark⟩ := exists_of_hasLocaleShape hshape
  have hmark' : isDecimalDigit mark = false := by rcases hmark with rfl | rfl <;> decide
  have hhyphen := congrArg (List.dropWhile isDecimalDigit) (hiso.symm.trans htext)
  rw [List.dropWhile_append_of_pos hyear, List.dropWhile_append_of_pos hdigits,
    List.dropWhile_cons_of_neg (by decide), List.dropWhile_cons_of_neg (by simp [hmark'])] at hhyphen
  obtain ⟨rfl, -⟩ := List.cons.inj hhyphen
  simp at hmark

/-- A field of a date ends where the digits end, and the same mark stands behind it. -/
lemma eq_of_readField? {field : Field} {digits rest rest' : List Char} {mark mark' : Char}
    {value : ℕ} (hdigits : ∀ c ∈ digits, isDecimalDigit c = true)
    (hmark : isDecimalDigit mark = false ∧ isBlank mark = false)
    (hmark' : isDecimalDigit mark' = false ∧ isBlank mark' = false)
    (h : readField? field (digits ++ mark :: rest) = some (value, mark' :: rest')) :
    mark = mark' ∧ rest = rest' := by
  obtain ⟨blanks, digits', htext, hblanks, ⟨-, -, hdigits'⟩, -⟩ := exists_of_readField? h
  -- behind the characters of fields, both texts go on with a mark
  have hsame := congrArg (List.dropWhile fun c => isDecimalDigit c || isBlank c) htext
  rw [List.dropWhile_append_of_pos (by simp +contextual [hdigits]),
    List.dropWhile_append_of_pos (by simp +contextual [hblanks]),
    List.dropWhile_append_of_pos
      (by simp +contextual [hdigits', Text.isDecimalDigit_of_isDigit]),
    List.dropWhile_cons_of_neg (by simp [hmark]),
    List.dropWhile_cons_of_neg (by simp [hmark'])] at hsame
  exact List.cons.inj hsame

/-- A field that ends a text takes up the digits there, and no white space stands behind them. -/
lemma eq_nil_of_readField? {field : Field} {digits rest : List Char} {value : ℕ}
    (hdigits : ∀ c ∈ digits, isDecimalDigit c = true) (hne : digits ≠ [])
    (hrest : ∀ c ∈ rest.head?, isBlank c = true)
    (h : readField? field (digits ++ rest) = some (value, [])) : rest = [] := by
  obtain ⟨blanks, digits', htext, hblanks, ⟨-, -, hdigits'⟩, -⟩ := exists_of_readField? h
  obtain ⟨c, digits, rfl⟩ := List.exists_cons_of_ne_nil hne
  obtain rfl : blanks = [] := by
    cases blanks with
    | nil => rfl
    | cons blank blanks =>
      obtain ⟨rfl, -⟩ := List.cons.inj htext
      have hblank := Text.isBlank_of_isDecimalDigit (hdigits c (by simp))
      rw [hblanks c (by simp)] at hblank
      cases hblank
  cases rest with
  | nil => rfl
  | cons blank rest =>
    have hmem : blank ∈ digits' := by
      rw [List.nil_append, List.append_nil] at htext
      simp [← htext]
    have hdigit := Text.isDecimalDigit_of_isDigit (hdigits' blank hmem)
    rw [Text.isDecimalDigit_of_isBlank (hrest blank rfl)] at hdigit
    cases hdigit

/-- **A text in a local shape that is read as a date only has the marks of the layout**, and ends
behind the date. -/
theorem eq_of_readParts?_dateParts {values final : FieldValues} {a b c : Field} {mark : Char}
    {first second third rest : List Char} {mark₁ mark₂ : Char}
    (hlayout : mark = '.' ∨ mark = '/') (hdate : IsLocaleDate first mark₁ second mark₂ third)
    (hrest : ∀ c ∈ rest.head?, isBlank c = true)
    (h : readParts? values (dateParts mark a b c)
      (first ++ mark₁ :: (second ++ mark₂ :: (third ++ rest))) = some final) :
    mark₁ = mark ∧ mark₂ = mark ∧ rest = [] := by
  have hmark {c : Char} (hc : c = '.' ∨ c = '/') :
      isDecimalDigit c = false ∧ isBlank c = false := by
    rcases hc with rfl | rfl <;> decide
  have hdigits := hdate.isDecimalDigit
  simp only [List.mem_append, or_imp, forall_and] at hdigits
  obtain ⟨⟨hfirst, hsecond⟩, hthird⟩ := hdigits
  obtain ⟨_, _, hread, h⟩ := exists_of_readParts?_field h
  obtain ⟨_, hbehind, h⟩ := exists_of_readParts?_mark h
  rw [hbehind] at hread
  obtain ⟨hmark₁, rfl⟩ := eq_of_readField? hfirst (hmark hdate.marks.1) (hmark hlayout) hread
  obtain ⟨_, _, hread, h⟩ := exists_of_readParts?_field h
  obtain ⟨_, hbehind, h⟩ := exists_of_readParts?_mark h
  rw [hbehind] at hread
  obtain ⟨hmark₂, rfl⟩ := eq_of_readField? hsecond (hmark hdate.marks.2) (hmark hlayout) hread
  obtain ⟨_, last, hread, h⟩ := exists_of_readParts?_field h
  obtain rfl : last = [] := by
    by_contra hlast
    simp [readParts?, hlast] at h
  exact ⟨hmark₁, hmark₂, eq_nil_of_readField? hthird hdate.ne_nil.2.2 hrest hread⟩

/-- All layouts have a slash or a colon, except for the plain date with points. -/
lemma marks_of_layouts : ∀ layout ∈ layouts,
    .mark '/' ∈ layout ∨ .mark ':' ∈ layout ∨ layout = dateParts '.' .day .month .year := by
  decide

/-- **A text in a local notation has a slash or a colon, or it is a plain date with points.** -/
theorem mem_or_exists_of_readLocale? {zone : Zone} {text : List Char} {instant : Timestamp}
    (h : readLocale? zone text = some instant) :
    '/' ∈ text ∨ ':' ∈ text ∨ ∃ day month year, text = day ++ '.' :: (month ++ '.' :: year) ∧
      (∀ c ∈ day ++ month ++ year, isDecimalDigit c = true) ∧
      (1 ≤ day.length ∧ day.length ≤ 2) ∧ (1 ≤ month.length ∧ month.length ≤ 2) ∧
      year.length = 4 := by
  unfold readLocale? at h
  split_ifs at h with hshape
  split at h
  next wall hlayout =>
    obtain ⟨layout, hmem, hread⟩ := List.exists_of_findSome?_eq_some hlayout
    obtain ⟨values, hvalues, -⟩ := Option.bind_eq_some_iff.mp hread
    rcases marks_of_layouts layout hmem with hslash | hcolon | rfl
    · exact .inl (mark_mem_of_readParts? hvalues hslash)
    · exact .inr (.inl (mark_mem_of_readParts? hvalues hcolon))
    · refine (mem_or_exists_of_hasLocaleShape hshape).imp_right fun hdate => .inr ?_
      obtain ⟨day, month, year, rest, rfl, hdate, hrest⟩ := hdate
      obtain ⟨-, -, rfl⟩ := eq_of_readParts?_dateParts (.inl rfl) hdate hrest hvalues
      obtain ⟨hday, hyear⟩ : (1 ≤ day.length ∧ day.length ≤ 2) ∧ year.length = 4 := by
        simpa using hdate.year
      exact ⟨day, month, year, by simp, hdate.isDecimalDigit, hday, hdate.second_length, hyear⟩
  next => cases h

end Moment

end SheetFormula
