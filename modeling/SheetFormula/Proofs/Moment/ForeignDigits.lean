import SheetFormula.Proofs.Amount.ForeignDigits
import SheetFormula.Proofs.Moment.Reading
import SheetFormula.Proofs.Zone.Known

/-!
# Foreign digits in dates

The digits of a date in ISO notation may be of any script, but only ASCII digits have a value. The
year, the month and the fraction must have one. The other fields count as missing if they have a
digit that is none of ASCII, and such digits of an offset are passed over. A date in a local
notation has ASCII digits only.

## Main definitions

* `SheetFormula.Moment.IsoFields.asciiOnly` — fields without what is not read of them.
* `SheetFormula.Moment.IsoFields.IsReadable` — fields whose necessary digits are ASCII digits.

## Main results

* `SheetFormula.Moment.filter_of_isoFields?` — the digits of a text in ISO notation are those of its
  fields.
* `SheetFormula.Moment.IsoFields.IsReadable.place_of_foreign` — where a foreign digit can stand.
* `SheetFormula.Moment.readIso?_eq_some_iff` — a text is read as if its fields had nothing else.
* `SheetFormula.Moment.mem_of_readParts?` — the characters of a text in a layout.
* `SheetFormula.Moment.ofText?_of_foreign` — what is read of a text with a foreign digit as a date.
* `SheetFormula.readings_of_foreign_digits` — the same for amounts, dates and zones.
-/

set_option relaxedAutoImplicit false
set_option autoImplicit false

namespace SheetFormula

open SheetFormula.Calendar (Timestamp)
open SheetFormula.Text (isBlank isDecimalDigit trim IsForeignDigit)

namespace Moment

/-! ## Digits of texts in ISO notation -/

section Digits

variable {text rest : List Char}

/-- The digits of a text are those of a field behind a mark, and of the rest. -/
lemma filter_of_takeField? {mark : Char} {field : List Char} (hmark : isDecimalDigit mark = false)
    (h : takeField? mark text = some (field, rest)) :
    text.filter isDecimalDigit = field.filter isDecimalDigit ++ rest.filter isDecimalDigit := by
  obtain ⟨rfl, rfl⟩ | ⟨-, -, rfl⟩ := takeField?_eq_some h
  · simp
  · simp [hmark]

/-- The digits of a text are those of a fraction at its head, and of the rest. -/
lemma filter_of_takeFraction? {fraction : List Char}
    (h : takeFraction? text = some (fraction, rest)) :
    text.filter isDecimalDigit = fraction.filter isDecimalDigit ++ rest.filter isDecimalDigit := by
  cases text with
  | nil =>
    obtain ⟨rfl, rfl⟩ : fraction = [] ∧ rest = [] := by simpa [takeFraction?, eq_comm] using h
    rfl
  | cons c tail =>
    simp only [takeFraction?] at h
    split_ifs at h with hmark
    · obtain ⟨rfl, rfl⟩ :
          tail.takeWhile isDecimalDigit = fraction ∧ tail.dropWhile isDecimalDigit = rest := by
        simpa using h
      have hc : isDecimalDigit c = false := by rcases hmark with rfl | rfl <;> decide
      rw [← List.filter_append, List.takeWhile_append_dropWhile,
        List.filter_cons_of_neg (by simp [hc])]
    · obtain ⟨rfl, rfl⟩ : [] = fraction ∧ c :: tail = rest := by simpa using h
      rfl

/-- The digits of a time of day and an offset are those of their fields. -/
lemma filter_of_timeFields? {date fields : IsoFields} (h : timeFields? date text = some fields) :
    text.filter isDecimalDigit =
      (fields.hour ++ fields.minute ++ fields.second ++ fields.fraction ++
        fields.offset).filter isDecimalDigit := by
  obtain ⟨hour, minute, second, fraction, offset, afterHour, afterMinute, afterSecond, hhour,
    hminute, hsecond, hfraction, -, rfl⟩ := exists_of_timeFields? h
  obtain ⟨-, -, rfl⟩ := takeDigits?_eq_some.mp hhour
  have hcolon : isDecimalDigit ':' = false := by decide
  have hafterMinute : afterMinute.filter isDecimalDigit =
      second.filter isDecimalDigit ++ afterSecond.filter isDecimalDigit := by
    split_ifs at hsecond
    · obtain ⟨rfl, rfl⟩ : [] = second ∧ afterMinute = afterSecond := by simpa using hsecond
      rfl
    · exact filter_of_takeField? hcolon hsecond
  have hafterSecond : afterSecond.filter isDecimalDigit =
      fraction.filter isDecimalDigit ++ offset.filter isDecimalDigit := by
    split_ifs at hfraction
    · obtain ⟨rfl, rfl⟩ : [] = fraction ∧ afterSecond = offset := by simpa using hfraction
      rfl
    · exact filter_of_takeFraction? hfraction
  simp [filter_of_takeField? hcolon hminute, hafterMinute, hafterSecond]

/-- **The digits of a text in ISO notation are those of its fields**, in order. -/
theorem filter_of_isoFields? {fields : IsoFields} (h : isoFields? text = some fields) :
    text.filter isDecimalDigit =
      (fields.year ++ fields.month ++ fields.day ++ fields.hour ++ fields.minute ++ fields.second ++
        fields.fraction ++ fields.offset).filter isDecimalDigit := by
  obtain ⟨year, month, day, afterYear, afterMonth, afterDay, hyear, hmonth, -, hday, hfields⟩ :=
    steps_of_isoFields? h
  obtain ⟨-, -, rfl⟩ := takeDigits?_eq_some.mp hyear
  have hhyphen : isDecimalDigit '-' = false := by decide
  simp only [List.filter_append, filter_of_takeField? hhyphen hmonth,
    filter_of_takeField? hhyphen hday, List.append_assoc]
  obtain ⟨rfl, rfl⟩ | ⟨time, rfl, htime⟩ := hfields
  · simp
  · have hdate : fields.year = year ∧ fields.month = month ∧ fields.day = day := by
      obtain ⟨_, _, _, _, _, _, _, _, -, -, -, -, -, rfl⟩ := exists_of_timeFields? htime
      exact ⟨rfl, rfl, rfl⟩
    have hmark : isDecimalDigit 'T' = false := by decide
    simp [hdate, hmark, filter_of_timeFields? htime]

/-- The offset of a text in ISO notation has the shape of one, unless it is missing. -/
lemma isOffset_of_isoFields? {fields : IsoFields} (h : isoFields? text = some fields) :
    fields.offset = [] ∨ isOffset fields.offset = true := by
  obtain ⟨_, _, _, _, _, _, -, -, -, -, ⟨-, rfl⟩ | ⟨time, -, htime⟩⟩ := steps_of_isoFields? h
  · exact .inl rfl
  · obtain ⟨_, _, _, _, _, _, _, _, -, -, -, -, hoffset, rfl⟩ := exists_of_timeFields? htime
    exact hoffset

end Digits

/-! ## What is read of the fields -/

/-- The digits of a field that counts as missing unless it has ASCII digits only. -/
def valued (digits : List Char) : List Char :=
  if digits.all Char.isDigit then digits else []

/-- The fields without what is not read of them: the day and the parts of the time of day that count
as missing, and the foreign digits of the offset. -/
def IsoFields.asciiOnly (fields : IsoFields) : IsoFields :=
  { fields with
    day := valued fields.day, hour := valued fields.hour, minute := valued fields.minute,
    second := valued fields.second,
    offset := fields.offset.filter fun c => c.isDigit || !isDecimalDigit c }

/-- Fields that must have ASCII digits have them: the year, the month and the fraction have no
others, and an offset in digits has two at least. -/
structure IsoFields.IsReadable (fields : IsoFields) : Prop where
  year : ∀ c ∈ fields.year, c.isDigit
  month : ∀ c ∈ fields.month, c.isDigit
  fraction : ∀ c ∈ fields.fraction, c.isDigit
  offset : fields.offset.length ≤ 1 ∨ 2 ≤ (fields.offset.filter Char.isDigit).length

instance (fields : IsoFields) : Decidable fields.IsReadable :=
  decidable_of_iff (fields.year.all Char.isDigit ∧ fields.month.all Char.isDigit ∧
      fields.fraction.all Char.isDigit ∧
      (fields.offset.length ≤ 1 ∨ 2 ≤ (fields.offset.filter Char.isDigit).length))
    (by simpa only [List.all_eq_true] using
      ⟨fun h => ⟨h.1, h.2.1, h.2.2.1, h.2.2.2⟩, fun h => ⟨h.year, h.month, h.fraction, h.offset⟩⟩)

/-- A field with a foreign digit counts as missing. -/
lemma valued_of_foreign {c : Char} (hc : IsForeignDigit c) {digits : List Char}
    (hmem : c ∈ digits) : valued digits = [] :=
  if_neg fun hall => hc.notMem (List.all_eq_true.mp hall) hmem

/-- A field has the value of the digits that are read of it. -/
lemma fieldValue?_valued (digits : List Char) : fieldValue? (valued digits) = fieldValue? digits := by
  unfold valued
  split_ifs with hall
  · rfl
  · simp [fieldValue?, hall]

/-- The digits of a field with a value are ASCII digits. -/
lemma forall_of_fieldValue? {digits : List Char} {value : ℕ} (h : fieldValue? digits = some value) :
    ∀ c ∈ digits, c.isDigit := by
  unfold fieldValue? at h
  split_ifs at h with hdigits
  exact List.all_eq_true.mp hdigits.2

/-- The digits of a fraction with a value are ASCII digits. -/
lemma forall_of_fractionNanos? {fraction : List Char} {nanos : ℕ}
    (h : fractionNanos? fraction = some nanos) : ∀ c ∈ fraction, c.isDigit := by
  unfold fractionNanos? at h
  split_ifs at h with hdigits
  exact List.all_eq_true.mp hdigits

namespace IsoFields

variable {fields : IsoFields}

/-- The wall-clock time is that of the fields without what is not read of them. -/
lemma wall?_asciiOnly : fields.asciiOnly.wall? = fields.wall? := by
  simp only [wall?, asciiOnly, fieldValue?_valued]

/-- The seconds of an offset are those of its ASCII digits alone. -/
lemma offsetSeconds?_filter {sign : Char} (hsign : isDecimalDigit sign = false) (digits : List Char) :
    offsetSeconds? ((sign :: digits).filter fun c => c.isDigit || !isDecimalDigit c) =
      offsetSeconds? (sign :: digits) := by
  have hdigits : (digits.filter fun c => c.isDigit || !isDecimalDigit c).filter Char.isDigit =
      digits.filter Char.isDigit := by
    rw [List.filter_filter]
    exact List.filter_congr fun c _ => by cases c.isDigit <;> simp
  rw [List.filter_cons_of_pos (by simp [hsign])]
  simp only [offsetSeconds?, List.drop_one, List.tail_cons, hdigits, List.head?_cons]

/-- The first character of an offset is no digit. -/
lemma exists_of_isOffset {offset : List Char} (h : isOffset offset = true) :
    ∃ sign digits, offset = sign :: digits ∧ isDecimalDigit sign = false := by
  unfold isOffset at h
  split at h
  case h_5 => cases h
  all_goals
    refine ⟨_, _, rfl, ?_⟩
    simp only [Bool.and_eq_true, Bool.or_eq_true, beq_iff_eq] at h
  · rcases h with rfl | rfl <;> decide
  · rcases h.1 with rfl | rfl <;> decide
  · rcases h.1 with rfl | rfl <;> decide
  · rcases h.1.1 with rfl | rfl <;> decide

/-- An offset of more than a mark is read as seconds. -/
lemma instant?_of_two_le (h : 2 ≤ fields.offset.length) (zone : Zone) (wall : Timestamp) :
    fields.instant? zone wall =
      (offsetSeconds? fields.offset).bind fun offset => (Zone.fixed offset).instantAt? wall := by
  match hfields : fields.offset, h with
  | first :: second :: rest, _ => simp only [instant?, hfields, Option.bind_eq_bind]

/-- **An instant is found with an offset** if it is found with the ASCII digits of the offset alone,
and these are two at least. -/
theorem instant?_eq_some_iff (hoffset : fields.offset = [] ∨ isOffset fields.offset = true)
    {zone : Zone} {wall instant : Timestamp} :
    fields.instant? zone wall = some instant ↔
      (fields.offset.length ≤ 1 ∨ 2 ≤ (fields.offset.filter Char.isDigit).length) ∧
        fields.asciiOnly.instant? zone wall = some instant := by
  rcases hoffset with hnone | hshape
  · simp [instant?, asciiOnly, hnone]
  obtain ⟨sign, digits, hfields, hsign⟩ := exists_of_isOffset hshape
  have hsign' : sign.isDigit = false := by
    by_contra hdigit
    rw [Text.isDecimalDigit_of_isDigit (by simpa using hdigit)] at hsign
    cases hsign
  have hcount : fields.offset.filter Char.isDigit = digits.filter Char.isDigit := by
    rw [hfields, List.filter_cons_of_neg (by simp [hsign'])]
  rcases digits with _ | ⟨first, rest⟩
  · simp [instant?, asciiOnly, hfields, hsign]
  have hlength : 2 ≤ fields.offset.length := by simp [hfields]
  have hseconds : offsetSeconds? fields.asciiOnly.offset = offsetSeconds? fields.offset := by
    rw [asciiOnly, hfields, offsetSeconds?_filter hsign]
  by_cases htwo : 2 ≤ (fields.offset.filter Char.isDigit).length
  · have hkept : 2 ≤ fields.asciiOnly.offset.length :=
      htwo.trans (List.monotone_filter_right _ fun c hc => by simp [hc]).length_le
    rw [instant?_of_two_le hlength, instant?_of_two_le hkept, hseconds]
    simp [htwo]
  · have hnone : offsetSeconds? fields.offset = none := by
      refine if_pos (.inl ?_)
      rw [hfields, List.drop_one, List.tail_cons, ← hcount]
      omega
    have hlong : ¬ fields.offset.length ≤ 1 := by omega
    rw [instant?_of_two_le hlength, hnone]
    simp [htwo, hlong]

/-- Fields with a wall-clock time have ASCII digits where they must. -/
lemma isReadable_of_wall? {wall : Timestamp} (h : fields.wall? = some wall)
    (hoffset : fields.offset.length ≤ 1 ∨ 2 ≤ (fields.offset.filter Char.isDigit).length) :
    fields.IsReadable := by
  simp only [wall?, Option.bind_eq_bind, Option.bind_eq_some_iff] at h
  obtain ⟨year, hyear, month, hmonth, nanos, hnanos, -⟩ := h
  exact ⟨forall_of_fieldValue? hyear, forall_of_fieldValue? hmonth, forall_of_fractionNanos? hnanos,
    hoffset⟩

/-- **Where a foreign digit stands** in a text whose fields have ASCII digits where they must: in a
field that counts as missing for it, or in the offset. -/
theorem IsReadable.place_of_foreign (hreadable : fields.IsReadable) {text : List Char}
    (hfields : isoFields? text = some fields) {c : Char} (hc : IsForeignDigit c) (hmem : c ∈ text) :
    (∃ digits ∈ [fields.day, fields.hour, fields.minute, fields.second],
        c ∈ digits ∧ valued digits = []) ∨
      c ∈ fields.offset ∧ c ∉ fields.asciiOnly.offset := by
  have hfilter : c ∈ text.filter isDecimalDigit := List.mem_filter.mpr ⟨hmem, hc.isDecimalDigit⟩
  rw [filter_of_isoFields? hfields, List.mem_filter] at hfilter
  have hfield : (c ∈ fields.day ∨ c ∈ fields.hour ∨ c ∈ fields.minute ∨ c ∈ fields.second) ∨
      c ∈ fields.offset := by
    simpa [hc.notMem hreadable.year, hc.notMem hreadable.month, hc.notMem hreadable.fraction,
      or_assoc] using hfilter.1
  refine hfield.imp ?_ fun hoffset =>
    ⟨hoffset, by simp [IsoFields.asciiOnly, hc.isDigit, hc.isDecimalDigit]⟩
  rintro (hday | hhour | hminute | hsecond)
  · exact ⟨fields.day, by simp, hday, valued_of_foreign hc hday⟩
  · exact ⟨fields.hour, by simp, hhour, valued_of_foreign hc hhour⟩
  · exact ⟨fields.minute, by simp, hminute, valued_of_foreign hc hminute⟩
  · exact ⟨fields.second, by simp, hsecond, valued_of_foreign hc hsecond⟩

end IsoFields

/-- **A text in ISO notation is read as if its fields had nothing but what is read of them**, if
they have ASCII digits where they must. -/
theorem readIso?_eq_some_iff {zone : Zone} {text : List Char} {instant : Timestamp} :
    readIso? zone text = some instant ↔
      ∃ fields wall, isoFields? text = some fields ∧ fields.IsReadable ∧
        fields.asciiOnly.wall? = some wall ∧
        fields.asciiOnly.instant? zone wall = some instant := by
  simp only [readIso?, Option.bind_eq_bind, Option.bind_eq_some_iff, IsoFields.wall?_asciiOnly]
  constructor
  · rintro ⟨fields, hfields, wall, hwall, hinstant⟩
    obtain ⟨hdigits, hinstant'⟩ :=
      (IsoFields.instant?_eq_some_iff (isOffset_of_isoFields? hfields)).mp hinstant
    exact ⟨fields, wall, hfields, IsoFields.isReadable_of_wall? hwall hdigits, hwall, hinstant'⟩
  · rintro ⟨fields, wall, hfields, hreadable, hwall, hinstant⟩
    exact ⟨fields, hfields, wall, hwall,
      (IsoFields.instant?_eq_some_iff (isOffset_of_isoFields? hfields)).mpr
        ⟨hreadable.offset, hinstant⟩⟩

/-! ## Local notations -/

/-- **The characters of a text in a layout** are white space, ASCII digits, and marks of the
layout. -/
theorem mem_of_readParts? {layout : List Part} {values final : FieldValues} {text : List Char}
    (h : readParts? values layout text = some final) {c : Char} (hmem : c ∈ text) :
    isBlank c = true ∨ c.isDigit ∨ .mark c ∈ layout := by
  by_cases hc : isBlank c = true
  · exact .inl hc
  refine .inr ?_
  induction layout generalizing values text with
  | nil =>
    obtain rfl : text = [] := by
      by_contra hne
      simp [readParts?, hne] at h
    cases hmem
  | cons part parts ih =>
    cases part with
    | field field =>
      obtain ⟨value, rest, hread, hrest⟩ := exists_of_readParts?_field h
      obtain ⟨blanks, digits, rfl, hblanks, ⟨-, -, hdigits⟩, -⟩ := exists_of_readField? hread
      rcases List.mem_append.mp hmem with hblank | hmem
      · exact absurd (hblanks c hblank) hc
      rcases List.mem_append.mp hmem with hdigit | hmem
      · exact .inl (hdigits c hdigit)
      · exact (ih hrest hmem).imp_right (List.mem_cons_of_mem _)
    | mark mark =>
      obtain ⟨rest, rfl, hrest⟩ := exists_of_readParts?_mark h
      rcases List.mem_cons.mp hmem with rfl | hmem
      · exact .inr List.mem_cons_self
      · exact (ih hrest hmem).imp_right (List.mem_cons_of_mem _)
    | blank =>
      simp only [readParts?] at h
      have hmem' := (Text.mem_trimStart (by simpa using hc)).mpr hmem
      exact (ih h hmem').imp_right (List.mem_cons_of_mem _)

/-- The marks of the layouts are points, slashes and colons. -/
lemma mark_of_layouts {layout : List Part} (hlayout : layout ∈ layouts) {c : Char}
    (h : .mark c ∈ layout) : c = '.' ∨ c = '/' ∨ c = ':' := by
  have hparts : ∀ layout ∈ layouts, layout ⊆ [.mark '.', .mark '/', .mark ':', .blank,
      .field .year, .field .month, .field .day, .field .hour, .field .minute, .field .second] := by
    decide
  simpa using hparts layout hlayout h

/-- **A text with a foreign digit is not read in a local notation.** -/
theorem readLocale?_of_foreign {c : Char} (hc : IsForeignDigit c) {text : List Char}
    (hmem : c ∈ text) (zone : Zone) : readLocale? zone text = none := by
  have hlayout : (layouts.findSome? fun layout => readLayout? layout text) = none := by
    refine List.findSome?_eq_none_iff.mpr fun layout hlayout => ?_
    rw [Option.eq_none_iff_forall_ne_some]
    intro wall hread
    obtain ⟨values, hvalues, -⟩ := Option.bind_eq_some_iff.mp hread
    rcases mem_of_readParts? hvalues hmem with hblank | hdigit | hmark
    · rw [hc.isBlank] at hblank
      cases hblank
    · rw [hc.isDigit] at hdigit
      cases hdigit
    · rcases mark_of_layouts hlayout hmark with rfl | rfl | rfl
      all_goals exact absurd hc.isDecimalDigit (by decide)
  simp [readLocale?, hlayout]

/-! ## Texts -/

/-- **What is read of a text with a foreign digit.** If a date is read at all, the text is in ISO
notation, and the digit stands in the day, the time of day or the offset. A field in which it stands
counts as missing; in the offset, it is passed over. -/
theorem ofText?_of_foreign {c : Char} (hc : IsForeignDigit c) {text : String}
    (hmem : c ∈ text.toList) {zone : Zone} {moment : Moment} :
    ofText? zone text = some moment ↔
      ∃ fields wall, isoFields? (trim text.toList) = some fields ∧ fields.IsReadable ∧
        ((∃ digits ∈ [fields.day, fields.hour, fields.minute, fields.second],
            c ∈ digits ∧ valued digits = []) ∨
          c ∈ fields.offset ∧ c ∉ fields.asciiOnly.offset) ∧
        fields.asciiOnly.wall? = some wall ∧
        fields.asciiOnly.instant? zone wall = some moment.instant ∧
        moment.zone = zone ∧ moment.kind = kindOf (trim text.toList) := by
  have htrim : c ∈ trim text.toList := (Text.mem_trim hc.isBlank).mpr hmem
  simp only [ofText?, readLocale?_of_foreign hc htrim, Option.or_none, Option.map_eq_some_iff]
  constructor
  · rintro ⟨instant, hread, rfl⟩
    obtain ⟨fields, wall, hfields, hreadable, hwall, hinstant⟩ := readIso?_eq_some_iff.mp hread
    exact ⟨fields, wall, hfields, hreadable, hreadable.place_of_foreign hfields hc htrim, hwall,
      hinstant, rfl, rfl⟩
  · rintro ⟨fields, wall, hfields, hreadable, -, hwall, hinstant, rfl, hkind⟩
    refine ⟨moment.instant, readIso?_eq_some_iff.mpr ⟨fields, wall, hfields, hreadable, hwall,
      hinstant⟩, ?_⟩
    rw [← hkind]

end Moment

/-! ## Amounts, dates and zones -/

/-- **What is read of a text with a foreign digit.** A number is that of the ASCII digits alone: the
foreign digit divides them, in groups of three or as the decimal mark of a text with both marks.
Groups of three digits with it between them are always read so. A date is read without the part of
the day, the time of day or the offset in which the digit stands, and a zone without its hours or
minutes. -/
theorem readings_of_foreign_digits {text : String} {c : Char} (hc : IsForeignDigit c)
    (hmem : c ∈ text.toList) :
    (∀ format number, Amount.read? format text = some number →
      ∃ negative body whole fraction,
        trim text.toList = (if negative then ['-'] else []) ++ body ∧
        whole ++ fraction = text.toList.filter Char.isDigit ∧
        number = Number.ofParts negative whole fraction 0 ∧
        ∀ before behind, body = before ++ c :: behind →
          (∃ front d, before = front ++ [d] ∧ d.isDigit) ∧
            ((behind.takeWhile Char.isDigit).length = 3 ∨
              '.' ∈ body ∧ ',' ∈ body ∧ ∀ d ∈ behind, d.isDigit)) ∧
    (∀ format first others, text = String.ofList (first ++ others.flatMap (c :: ·)) →
      (∀ run ∈ first :: others, ∀ d ∈ run, d.isDigit) →
      1 ≤ first.length ∧ first.length ≤ 3 → (∀ run ∈ others, run.length = 3) →
      Amount.read? format text =
        (some (Number.ofParts false (first ++ others.flatten) [] 0)).filter Float.isFinite) ∧
    (∀ zone moment, Moment.ofText? zone text = some moment ↔
      ∃ fields wall, Moment.isoFields? (trim text.toList) = some fields ∧ fields.IsReadable ∧
        ((∃ digits ∈ [fields.day, fields.hour, fields.minute, fields.second],
            c ∈ digits ∧ Moment.valued digits = []) ∨
          c ∈ fields.offset ∧ c ∉ fields.asciiOnly.offset) ∧
        fields.asciiOnly.wall? = some wall ∧
        fields.asciiOnly.instant? zone wall = some moment.instant ∧
        moment.zone = zone ∧ moment.kind = Moment.kindOf (trim text.toList)) ∧
    ∀ zones : ZoneDatabase, zones.HasAsciiNames → ∀ zone, Zone.ofTextIn? zones text = some zone ↔
      ∃ sign rest hours minutes,
        (Zone.afterUtc (trim text.toList)).dropWhile isBlank = sign :: rest ∧
        (sign = '+' ∨ sign = '-') ∧ Zone.offsetDigits? rest = some (hours, minutes) ∧
        (c ∈ hours ∧ Zone.smallValue hours = 0 ∨ c ∈ minutes ∧ Zone.smallValue minutes = 0) ∧
        Zone.ofOffset? (decide (sign = '-')) (Zone.smallValue hours) (Zone.smallValue minutes) =
          some zone := by
  refine ⟨?_, ?_, fun zone moment => Moment.ofText?_of_foreign hc hmem,
    fun zones hzones zone => Zone.ofTextIn?_of_foreign hc hzones hmem⟩
  · intro format number hread
    obtain ⟨negative, body, whole, fraction, htrim, hdigits, hnumber, hforeign⟩ :=
      Amount.foreign_digits_of_read? hread
    exact ⟨negative, body, whole, fraction, htrim, hdigits, hnumber,
      fun before behind => hforeign c before behind hc⟩
  · rintro format first others rfl hdigits hfirst hthree
    exact Amount.read?_of_runs hc format hdigits hfirst hthree

/-- The last day of a month in Arabic digits, which is read as the first one, and an offset in
Arabic digits, which is read as universal time. -/
theorem readings_of_arabic_digits :
    (IsForeignDigit '٣' ∧ '٣' ∈ "2025-09-٣٠".toList ∧ '٣' ∈ "UTC+٣".toList ∧
      Zone.known.HasAsciiNames) ∧
      Moment.ofText? .utc "2025-09-٣٠" = some ⟨⟨1756684800, 0⟩, .utc, .dateOnly⟩ ∧
      Zone.ofTextIn? Zone.known "UTC+٣" = some .utc := by
  have hc : IsForeignDigit '٣' := ⟨by decide, by decide⟩
  have hmem : '٣' ∈ "2025-09-٣٠".toList := by decide
  have hmem' : '٣' ∈ "UTC+٣".toList := by decide
  obtain ⟨-, -, hdate, -⟩ := readings_of_foreign_digits hc hmem
  obtain ⟨-, -, -, hzone⟩ := readings_of_foreign_digits hc hmem'
  refine ⟨⟨hc, hmem, hmem', Zone.hasAsciiNames_known⟩, (hdate .utc _).mpr ?_,
    (hzone _ Zone.hasAsciiNames_known _).mpr ?_⟩
  · refine ⟨{ year := "2025".toList, month := "09".toList, day := "٣٠".toList },
      ⟨1756684800, 0⟩, by decide +kernel, by decide, .inl ?_, by decide +kernel, by decide, rfl,
      by decide +kernel⟩
    exact ⟨"٣٠".toList, by decide, by decide, by decide⟩
  · exact ⟨'+', "٣".toList, "٣".toList, [], by decide +kernel, .inl rfl, by decide +kernel,
      .inl ⟨by decide, by decide +kernel⟩, by decide +kernel⟩

/-- **Foreign digits that are dropped**: one between other digits, those of a day, and those of an
offset. -/
theorem foreign_digits_dropped :
    IsForeignDigit '٣' ∧
      Amount.read? .european "1٣234" = some 1234 ∧
      Moment.ofText? .utc "2025-09-٣٠" = Moment.ofText? .utc "2025-09-01" ∧
      (Moment.ofText? .utc "2025-09-٣٠").isSome ∧
      Zone.ofText? "UTC+٣" = some .utc := by
  exact ⟨⟨by decide, by decide⟩, by decide +kernel, by decide +kernel, by decide +kernel,
    by decide +kernel⟩

end SheetFormula
