import SheetFormula.Proofs.Moment.Reading
import SheetFormula.Proofs.Moment.Writing

/-!
# Reading undoes writing

A moment that is written with date, time of day and offset is read again in whatever zone the text
is read, as the same instant, cut off to milliseconds, if the offset is one of whole minutes. A leap
second is written as a second of 60, which is not read. A moment that is written as a plain date is
read again, in its own zone, as the midnight of that date. Most texts can therefore be handed from
one date function to another.

## Main results

* `SheetFormula.Moment.kindOf_dateText`, `SheetFormula.Moment.kindOf_of_mem` — a date is a plain
  date, and a text with other characters is none.
* `SheetFormula.Moment.IsoFields.instant?_offsetMark` — an offset that is written leads back to the
  instant.
* `SheetFormula.Moment.ofText?_toIso_rounded`, `ofText?_toIso_eq_none`, `ofText?_toIso`,
  `ofText?_toIsoDate` — what is read of the two ways to write a moment.
* `SheetFormula.Moment.reading_undoes_writing` — both together, and that what is read is written
  alike.
-/

set_option relaxedAutoImplicit false
set_option autoImplicit false

namespace SheetFormula.Moment

open SheetFormula.Calendar (Date Timestamp nanosPerSecond)
open SheetFormula.Text (Shape isBlank isDecimalDigit trim)

/-! ## Plain dates -/

/-- **A plain date is three runs of digits with the same mark between them.** -/
lemma exists_of_isPlainDate {text : List Char} (h : isPlainDate text = true) :
    ∃ first second third mark, text = first ++ mark :: (second ++ mark :: third) ∧
      (∀ c ∈ first, isDecimalDigit c = true) ∧ (∀ c ∈ second, isDecimalDigit c = true) ∧
      (∀ c ∈ third, isDecimalDigit c = true) ∧ (mark = '-' ∨ mark = '.' ∨ mark = '/') := by
  obtain ⟨shape, hshape, hspans⟩ := List.any_eq_true.mp h
  rw [Shape.spans_iff] at hspans
  simp only [plainDateShapes, List.mem_cons, List.not_mem_nil, or_false] at hshape
  rcases hshape with rfl | rfl | rfl | rfl
  all_goals
    simp only [Shape.mem_sequence_cons, Shape.mem_sequence_nil, Shape.mem_oneOrTwoDigits,
      Shape.mem_char, Shape.digits, Shape.mem_times] at hspans
    obtain ⟨_, ⟨first, -, hfirst, rfl⟩, _, rfl, _, ⟨second, -, hsecond, rfl⟩, _, rfl, _,
      ⟨third, -, hthird, rfl⟩, rfl⟩ := hspans
    exact ⟨first, second, third, _, by rw [List.append_nil], hfirst, hsecond, hthird, by decide⟩

/-- A plain date consists of digits, hyphens, points and slashes. -/
lemma notMem_of_isPlainDate {text : List Char} (h : isPlainDate text = true) {c : Char}
    (hc : isDecimalDigit c = false) (hmark : c ≠ '-' ∧ c ≠ '.' ∧ c ≠ '/') : c ∉ text := by
  have hdigits : ∀ run : List Char, (∀ d ∈ run, isDecimalDigit d = true) → c ∉ run := by
    intro run hrun hmem
    rw [hrun c hmem] at hc
    cases hc
  obtain ⟨first, second, third, mark, rfl, hfirst, hsecond, hthird, rfl | rfl | rfl⟩ :=
    exists_of_isPlainDate h
  all_goals
    simp [hdigits first hfirst, hdigits second hsecond, hdigits third hthird, hmark]

/-- A text with another character has a time of day. -/
lemma kindOf_of_mem {text : List Char} {c : Char} (hmem : c ∈ text) (hc : isDecimalDigit c = false)
    (hmark : c ≠ '-' ∧ c ≠ '.' ∧ c ≠ '/') : kindOf text = .dateTime :=
  if_neg fun hplain => notMem_of_isPlainDate hplain hc hmark hmem

/-- A date is a plain date. -/
lemma kindOf_dateText {fields : IsoFields} {date : Date} (h : fields.WritesDate date) :
    kindOf fields.dateText = .dateOnly := by
  refine if_pos (List.any_eq_true.mpr ⟨_, List.mem_cons_self, ?_⟩)
  simp only [Shape.spans_iff, Shape.mem_sequence_cons, Shape.mem_sequence_nil, Shape.mem_char,
    Shape.digits, Shape.mem_times]
  exact ⟨_, ⟨fields.year, h.isField_year.length_eq, fun _ => h.isField_year.isDecimalDigit, rfl⟩, _,
    rfl, _, ⟨fields.month, h.isField_month.length_eq, fun _ => h.isField_month.isDecimalDigit, rfl⟩,
    _, rfl, [], ⟨fields.day, h.isField_day.length_eq, fun _ => h.isField_day.isDecimalDigit,
      by simp⟩, rfl⟩

/-! ## White space -/

/-- A field has no white space. -/
lemma IsField.isBlank {width value : ℕ} {digits : List Char} (h : IsField width value digits)
    {c : Char} (hc : c ∈ digits) : Text.isBlank c = false :=
  Text.isBlank_of_isDecimalDigit (h.isDecimalDigit hc)

/-- A date is written without white space. -/
lemma IsoFields.WritesDate.isBlank_dateText {fields : IsoFields} {date : Date}
    (h : fields.WritesDate date) : ∀ c ∈ fields.dateText, Text.isBlank c = false := by
  intro c hc
  simp only [dateText, List.mem_append, List.mem_cons] at hc
  rcases hc with hc | rfl | hc | rfl | hc
  · exact h.isField_year.isBlank hc
  · rfl
  · exact h.isField_month.isBlank hc
  · rfl
  · exact h.isField_day.isBlank hc

/-- A time of day is written without white space. -/
lemma IsoFields.Writes.isBlank_timeText {fields : IsoFields} {wall : Timestamp}
    (h : fields.Writes wall) (hoffset : ∀ c ∈ fields.offset, Text.isBlank c = false) :
    ∀ c ∈ fields.timeText, Text.isBlank c = false := by
  intro c hc
  simp only [timeText, List.mem_append, List.mem_cons] at hc
  rcases hc with hc | rfl | hc | rfl | hc | rfl | hc | hc
  · exact h.isField_hour.isBlank hc
  · rfl
  · exact h.isField_minute.isBlank hc
  · rfl
  · exact h.isField_second.isBlank hc
  · rfl
  · exact h.isField_fraction.isBlank hc
  · exact hoffset c hc

/-- An offset is written without white space. -/
lemma WritesOffset.isBlank {negative : Bool} {minutes : ℕ} {text : List Char}
    (h : WritesOffset negative minutes text) {c : Char} (hc : c ∈ text) :
    Text.isBlank c = false := by
  obtain ⟨hours, rest, hhours, hrest, rfl⟩ := h
  simp only [List.mem_cons, List.mem_append] at hc
  rcases hc with rfl | hc | rfl | hc
  · split_ifs <;> rfl
  · exact hhours.isBlank hc
  · rfl
  · exact hrest.isBlank hc

/-! ## Instants -/

/-- An instant, cut off to milliseconds. -/
lemma ofMillis_millis {instant : Timestamp} (hleap : instant.isLeap = false) :
    Timestamp.ofMillis instant.millis = ⟨instant.seconds, instant.nanos / 1000000 * 1000000⟩ := by
  have hnanos := Timestamp.nanos_lt_of_not_isLeap hleap
  unfold nanosPerSecond at hnanos
  simp only [Timestamp.ofMillis, Timestamp.millis, Timestamp.mk.injEq]
  omega

/-- **An offset that is written leads from the wall clock back.** -/
theorem IsoFields.instant?_of_writesOffset {fields : IsoFields} {negative : Bool} {minutes : ℕ}
    (h : WritesOffset negative minutes fields.offset) (hday : minutes < 1440) (zone : Zone)
    (wall : Timestamp) :
    fields.instant? zone wall =
      (wall.shift (-if negative then -(60 * minutes : ℤ) else 60 * minutes)).checked := by
  have hread := h.offsetSeconds? hday
  obtain ⟨hours, rest, hhours, hrest, htext⟩ := h
  obtain ⟨a, b, rfl⟩ := List.length_eq_two.mp hhours.length_eq
  rw [htext] at hread
  rw [instant?, htext]
  simp only [List.cons_append, List.nil_append, Option.bind_eq_bind] at hread ⊢
  rw [hread]
  rfl

/-- What stands behind a time of day has the shape of an offset, has no white space, and begins with
no digit. -/
lemma isOffset_offsetMark {zone : Zone} {instant : Timestamp}
    (hday : (zone.offsetAt instant).natAbs < 86370) :
    isOffset (offsetMark zone instant).toList = true ∧
      (∀ c ∈ (offsetMark zone instant).toList, Text.isBlank c = false) ∧
      ∀ c ∈ (offsetMark zone instant).toList.head?, isDecimalDigit c = false := by
  unfold offsetMark
  split_ifs with hutc
  · have htext : "Z".toList = ['Z'] := rfl
    rw [htext]
    refine ⟨rfl, ?_, ?_⟩
    · intro c hc
      rw [List.mem_singleton.mp hc]
      rfl
    · intro c hc
      obtain rfl : 'Z' = c := by simpa using hc
      decide
  · have hwrites := writesOffset_minutesText hday
    refine ⟨hwrites.isOffset, fun c => hwrites.isBlank, fun c hc => ?_⟩
    obtain ⟨sign, rest, hsign, htext⟩ := hwrites.exists_eq_cons
    obtain rfl : sign = c := by simpa [htext] using hc
    rcases hsign with rfl | rfl <;> decide

/-- A shift back and forth leads nowhere. -/
lemma shift_neg_shift (t : Timestamp) (offset : ℤ) : (t.shift (-offset)).shift offset = t := by
  simp [Timestamp.shift]

/-- **The mark of an offset leads from a wall-clock time back by the offset, rounded to
minutes.** -/
theorem IsoFields.instant?_offsetMark {fields : IsoFields} {zone : Zone} {instant wall : Timestamp}
    (hday : (zone.offsetAt instant).natAbs < 86370)
    (hoffset : fields.offset = (offsetMark zone instant).toList)
    (hrange : (wall.shift (-roundedOffset (zone.offsetAt instant))).inRange) (zone' : Zone) :
    fields.instant? zone' wall = some (wall.shift (-roundedOffset (zone.offsetAt instant))) := by
  rw [offsetMark] at hoffset
  split_ifs at hoffset with hutc
  · cases zone with
    | utc =>
      have hmark : fields.offset = ['Z'] := hoffset
      rw [instant?, hmark]
      simp [Zone.offsetAt, roundedOffset, Zone.roundedMinutes, Timestamp.shift]
    | _ => cases hutc
  · have hwrites := hoffset ▸ writesOffset_minutesText hday
    have hrounded : Zone.roundedMinutes (zone.offsetAt instant) < 1440 := by
      unfold Zone.roundedMinutes
      omega
    rw [IsoFields.instant?_of_writesOffset hwrites hrounded]
    simp only [decide_eq_true_eq]
    exact Timestamp.checked_eq_some.mpr ⟨rfl, hrange⟩

/-- The wall-clock time of a moment as it is written: cut off to milliseconds, a leap second as the
second behind it. -/
def wallMillis (moment : Moment) : Timestamp :=
  ⟨moment.wallClock.seconds + moment.wallClock.nanos / nanosPerSecond,
    writtenMillis moment.wallClock * 1000000⟩

/-- The second of a time outside leap seconds is written as it is. -/
lemma writtenSecond_lt {wall : Timestamp} (hleap : wall.isLeap = false) :
    writtenSecond wall < 60 := by
  have hsecond : wall.second < 60 := Nat.mod_lt _ (by decide)
  rw [writtenSecond, Nat.div_eq_of_lt (Timestamp.nanos_lt_of_not_isLeap hleap)]
  exact hsecond

/-- The offset of whole minutes of a moment leads from its wall clock, cut off to milliseconds, back
to its instant. -/
lemma shift_wallMillis {moment : Moment} (hleap : moment.instant.isLeap = false)
    (hminutes : 60 ∣ moment.zone.offsetAt moment.instant) :
    moment.wallMillis.shift (-roundedOffset (moment.zone.offsetAt moment.instant)) =
      .ofMillis moment.instant.millis := by
  have hnanos : moment.wallClock.nanos < nanosPerSecond := Timestamp.nanos_lt_of_not_isLeap hleap
  rw [ofMillis_millis hleap, roundedOffset_of_dvd hminutes, wallMillis, writtenMillis,
    Nat.mod_eq_of_lt hnanos, ← Int.natCast_div, Nat.div_eq_of_lt hnanos]
  simp [Timestamp.shift, wallClock, Zone.wallClock]

/-! ## Reading what is written -/

/-- A moment with a time of day is read in its parts, if its second has two digits. -/
lemma ofText?_toIso_fields {moment : Moment} (hsecond : writtenSecond moment.wallClock < 100)
    (hyear : 0 ≤ moment.date.year ∧ moment.date.year ≤ 9999)
    (hday : (moment.zone.offsetAt moment.instant).natAbs < 86370) (zone : Zone) :
    ∃ fields : IsoFields, fields.Writes moment.wallClock ∧
      fields.offset = (offsetMark moment.zone moment.instant).toList ∧
      ofText? zone moment.toIso =
        (fields.wall?.bind (fields.instant? zone)).map (⟨·, zone, .dateTime⟩) := by
  obtain ⟨fields, hfields⟩ : ∃ fields, fields =
      wallFields moment.wallClock (offsetMark moment.zone moment.instant).toList := ⟨_, rfl⟩
  have hwrites : fields.Writes moment.wallClock := hfields ▸ writes_wallFields hsecond hyear _
  have htext : moment.toIso.toList = fields.dateText ++ 'T' :: fields.timeText :=
    hfields ▸ toList_toIso hyear
  have hmark : fields.offset = (offsetMark moment.zone moment.instant).toList := hfields ▸ rfl
  obtain ⟨hoffset, hblank, hhead⟩ := hmark ▸ isOffset_offsetMark hday
  have htrim : trim moment.toIso.toList = moment.toIso.toList := by
    apply Text.trim_of_forall
    intro c hc
    rw [htext, List.mem_append, List.mem_cons] at hc
    rcases hc with hc | rfl | hc
    · exact hwrites.isBlank_dateText c hc
    · rfl
    · exact hwrites.isBlank_timeText hblank c hc
  have hiso : isoFields? moment.toIso.toList = some fields := by
    rw [htext, hwrites.isoFields? hoffset hhead]
  have hread : readIso? zone moment.toIso.toList = fields.wall?.bind (fields.instant? zone) := by
    rw [readIso?, hiso]
    rfl
  have hkind : kindOf moment.toIso.toList = .dateTime :=
    kindOf_of_mem (htext ▸ by simp) (by decide : isDecimalDigit 'T' = false) (by decide)
  refine ⟨fields, hwrites, hmark, ?_⟩
  simp only [ofText?, htrim, hread, readLocale?_of_isoFields? hiso, hkind, Option.or_none]

/-- **A moment with a time of day is read again**, in whatever zone, with its offset rounded to
minutes, if its second is written as less than 60. -/
theorem ofText?_toIso_rounded {moment : Moment} (hsecond : writtenSecond moment.wallClock < 60)
    (hyear : 0 ≤ moment.date.year ∧ moment.date.year ≤ 9999)
    (hday : (moment.zone.offsetAt moment.instant).natAbs < 86370) (zone : Zone) :
    ofText? zone moment.toIso = some ⟨moment.wallMillis.shift
      (-roundedOffset (moment.zone.offsetAt moment.instant)), zone, .dateTime⟩ := by
  obtain ⟨fields, hwrites, hmark, hread⟩ := ofText?_toIso_fields (by omega) hyear hday zone
  have hrange : (moment.wallMillis.shift
      (-roundedOffset (moment.zone.offsetAt moment.instant))).inRange := by
    have hrounded := natAbs_roundedOffset_lt hday
    have hleap : moment.wallClock.nanos / nanosPerSecond < 60 := by
      unfold writtenSecond at hsecond
      omega
    -- only the seconds of a time decide whether it lies in the range of dates
    have hsteps : ((moment.wallClock.nanos / nanosPerSecond : ℕ) +
        -roundedOffset (moment.zone.offsetAt moment.instant)).natAbs < 2 * 86400 := by
      generalize moment.wallClock.nanos / nanosPerSecond = leap at hleap
      omega
    have hinRange := (Timestamp.hasFourDigitYear_of_date hyear).inRange_shift hsteps
    unfold wallMillis Timestamp.shift Timestamp.inRange Timestamp.dayNumber at *
    simpa [add_assoc] using hinRange
  have hwall : fields.wall? = some moment.wallMillis := hwrites.wall? hsecond hyear.1
  rw [hread, hwall, Option.bind_some, IsoFields.instant?_offsetMark hday hmark hrange zone,
    Option.map_some]

/-- **A moment in a leap second at the end of its minute is not read again**, since its second is
written as 60. -/
theorem ofText?_toIso_eq_none {moment : Moment} (hsecond : 60 ≤ writtenSecond moment.wallClock)
    (hnanos : moment.instant.nanos < 2 * nanosPerSecond)
    (hyear : 0 ≤ moment.date.year ∧ moment.date.year ≤ 9999)
    (hday : (moment.zone.offsetAt moment.instant).natAbs < 86370) (zone : Zone) :
    ofText? zone moment.toIso = none := by
  have hnanos' : moment.wallClock.nanos < 2 * nanosPerSecond := hnanos
  have hdigits : writtenSecond moment.wallClock < 100 := by
    have hminute : moment.wallClock.second < 60 := Nat.mod_lt _ (by decide)
    have hleap := Nat.div_lt_of_lt_mul (Nat.mul_comm 2 _ ▸ hnanos')
    unfold writtenSecond
    omega
  obtain ⟨fields, hwrites, -, hread⟩ := ofText?_toIso_fields hdigits hyear hday zone
  rw [hread, hwrites.wall?_eq_none hsecond]
  rfl

/-- **A moment with an offset of whole minutes is read again as the same instant**, cut off to
milliseconds. -/
theorem ofText?_toIso {moment : Moment} (hleap : moment.instant.isLeap = false)
    (hyear : 0 ≤ moment.date.year ∧ moment.date.year ≤ 9999)
    (hminutes : 60 ∣ moment.zone.offsetAt moment.instant)
    (hday : (moment.zone.offsetAt moment.instant).natAbs < 86400) (zone : Zone) :
    ofText? zone moment.toIso = some ⟨.ofMillis moment.instant.millis, zone, .dateTime⟩ := by
  have hleap' : moment.wallClock.isLeap = false := hleap
  rw [ofText?_toIso_rounded (writtenSecond_lt hleap') hyear (by omega),
    shift_wallMillis hleap hminutes]

/-- **A plain date is read again as its midnight**, in a zone in which midnight can be found, and
not at all in another. -/
theorem ofText?_toIsoDate {moment : Moment}
    (hyear : 0 ≤ moment.date.year ∧ moment.date.year ≤ 9999) (zone : Zone) :
    ofText? zone moment.toIsoDate =
      (zone.instantAt? (.ofDay moment.wallClock.dayNumber 0 0)).map (⟨·, zone, .dateOnly⟩) := by
  have hvalid := moment.wallClock.isValid_date
  have hwrites := writesDate_dateFields hvalid hyear
  have htext : moment.toIsoDate.toList = (dateFields moment.wallClock.date).dateText :=
    toList_dateText hyear
  have htrim : trim moment.toIsoDate.toList = moment.toIsoDate.toList := by
    apply Text.trim_of_forall
    rw [htext]
    exact hwrites.isBlank_dateText
  have hnumber : moment.wallClock.date.dayNumber = moment.wallClock.dayNumber :=
    Calendar.dayNumber_ofDayNumber _
  have hfields := htext ▸ hwrites.isoFields?
  have hread : readIso? zone moment.toIsoDate.toList =
      zone.instantAt? (.ofDay moment.wallClock.dayNumber 0 0) := by
    rw [readIso?, hfields]
    simp only [hwrites.wall? hvalid hyear.1, Option.bind_eq_bind, Option.bind_some, hnumber]
    rfl
  have hkind : kindOf moment.toIsoDate.toList = .dateOnly := htext ▸ kindOf_dateText hwrites
  simp only [ofText?, htrim, hread, readLocale?_of_isoFields? hfields, hkind, Option.or_none]

/-- The offset at an instant does not depend on its fraction of a second. -/
lemma offsetAt_congr {instant instant' : Timestamp} (h : instant.seconds = instant'.seconds)
    (zone : Zone) : zone.offsetAt instant = zone.offsetAt instant' := by
  cases zone with
  | named name table => exact congrArg table.offsetAt h
  | _ => rfl

/-- What is written of an instant outside leap seconds is written of its milliseconds. -/
lemma toIso_ofMillis {moment : Moment} (hleap : moment.instant.isLeap = false) (kind : MomentKind) :
    toIso ⟨.ofMillis moment.instant.millis, moment.zone, kind⟩ = moment.toIso := by
  have hnanos := Timestamp.nanos_lt_of_not_isLeap hleap
  obtain ⟨⟨seconds, nanos⟩, zone, kind'⟩ := moment
  have hoffset : zone.offsetAt ⟨seconds, nanos / 1000000 * 1000000⟩ =
      zone.offsetAt ⟨seconds, nanos⟩ := offsetAt_congr rfl zone
  have hwhole : nanos / 1000000 * 1000000 / nanosPerSecond = nanos / nanosPerSecond := by
    unfold nanosPerSecond at *
    dsimp only at hnanos
    omega
  have hmillis : nanos / 1000000 * 1000000 % nanosPerSecond / 1000000 =
      nanos % nanosPerSecond / 1000000 := by
    unfold nanosPerSecond at *
    omega
  rw [ofMillis_millis hleap]
  simp only [toIso, wallClock, Zone.wallClock, offsetMark, timeText, Timestamp.shift, hoffset,
    hwhole, hmillis, Timestamp.date, Timestamp.dayNumber, Timestamp.hour, Timestamp.minute,
    Timestamp.second, Timestamp.secondOfDay]

/-- Universal time and the fixed zones show every wall-clock time with a year of four digits. -/
lemma exists_instantAt? {zone : Zone} (hzone : zone = .utc ∨ ∃ offset, zone = .fixed offset)
    (hday : ∀ instant, (zone.offsetAt instant).natAbs < 86400) {wall : Timestamp}
    (hyear : 0 ≤ wall.date.year ∧ wall.date.year ≤ 9999) :
    ∃ instant, zone.instantAt? wall = some instant ∧ zone.wallClock instant = wall := by
  rcases hzone with rfl | ⟨offset, rfl⟩
  · exact ⟨wall, rfl, by simp [Zone.wallClock, Zone.offsetAt, Timestamp.shift]⟩
  · have hoffset : offset.natAbs < 86400 := hday wall
    have hrange := (Timestamp.hasFourDigitYear_of_date hyear).inRange_shift
      (show (-offset).natAbs < 2 * 86400 by omega)
    exact ⟨wall.shift (-offset), Timestamp.checked_eq_some.mpr ⟨rfl, hrange⟩,
      shift_neg_shift wall offset⟩

/-- **Reading undoes writing.** Outside leap seconds, for local years of four digits and offsets of
whole minutes less than a day, a moment written with its time of day is read in every zone as the
same instant, cut off to milliseconds, and writing it again gives the same text. In universal time
and in the fixed zones a moment written as a plain date is read as the midnight of its date, and
writing that gives the same text. -/
theorem reading_undoes_writing (moment : Moment) (hleap : moment.instant.isLeap = false)
    (hyear : 0 ≤ moment.date.year ∧ moment.date.year ≤ 9999)
    (hminutes : 60 ∣ moment.zone.offsetAt moment.instant)
    (hday : (moment.zone.offsetAt moment.instant).natAbs < 86400) :
    (∀ zone, ofText? zone moment.toIso =
      some ⟨.ofMillis moment.instant.millis, zone, .dateTime⟩) ∧
    (∃ read, ofText? moment.zone moment.toIso = some read ∧ read.render = moment.toIso) ∧
    ((moment.zone = .utc ∨ ∃ offset, moment.zone = .fixed offset) →
      ∃ read, ofText? moment.zone moment.toIsoDate = some read ∧ read.zone = moment.zone ∧
        read.kind = .dateOnly ∧ read.wallClock = .ofDay moment.wallClock.dayNumber 0 0 ∧
        read.date = moment.date ∧ read.render = moment.toIsoDate) := by
  have hread := ofText?_toIso hleap hyear hminutes hday
  refine ⟨hread, ⟨_, hread moment.zone, toIso_ofMillis hleap .dateTime⟩, ?_⟩
  intro hzone
  have hday' : ∀ instant, (moment.zone.offsetAt instant).natAbs < 86400 := by
    intro instant
    rcases hzone with hutc | ⟨offset, hfixed⟩
    · simp [hutc, Zone.offsetAt]
    · rw [hfixed] at hday ⊢
      exact hday
  have hnumber : (Timestamp.ofDay moment.wallClock.dayNumber 0 0).dayNumber =
      moment.wallClock.dayNumber := Timestamp.dayNumber_ofDay (by decide)
  have hdate : (Timestamp.ofDay moment.wallClock.dayNumber 0 0).date = moment.date := by
    rw [Timestamp.date, hnumber]
    rfl
  obtain ⟨instant, hinstant, hwall⟩ := exists_instantAt? hzone hday' (hdate ▸ hyear)
  have hdate' : date ⟨instant, moment.zone, .dateOnly⟩ = moment.date := by
    rw [date, wallClock, hwall, hdate]
  have hread : ofText? moment.zone moment.toIsoDate = some ⟨instant, moment.zone, .dateOnly⟩ := by
    rw [ofText?_toIsoDate hyear, hinstant, Option.map_some]
  refine ⟨_, hread, rfl, rfl, hwall, hdate', ?_⟩
  exact congrArg dateText hdate'

/-- A moment shortly before 1970, in a zone with an offset of hours and a half. -/
theorem reading_undoes_writing_before_1970 :
    let moment : Moment := ⟨⟨-1, 999999999⟩, .fixed (-12600), .dateTime⟩
    moment.toIso = "1969-12-31T20:29:59.999-03:30" ∧
      ofText? .utc moment.toIso = some ⟨⟨-1, 999000000⟩, .utc, .dateTime⟩ ∧
      ∃ read, ofText? moment.zone moment.toIsoDate = some read ∧ read.render = "1969-12-31" := by
  intro moment
  obtain ⟨hread, -, hdate⟩ :=
    reading_undoes_writing moment (by decide) (by decide) (by decide) (by decide)
  obtain ⟨read, hread', -, -, -, -, hrender⟩ := hdate (.inr ⟨-12600, rfl⟩)
  have htext : moment.toIsoDate = "1969-12-31" := by decide +kernel
  have hinstant : Timestamp.ofMillis moment.instant.millis = ⟨-1, 999000000⟩ := by decide
  exact ⟨by decide +kernel, hinstant ▸ hread .utc, read, hread', hrender.trans htext⟩

end SheetFormula.Moment
