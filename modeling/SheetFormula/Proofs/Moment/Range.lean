import SheetFormula.Library.Dates
import SheetFormula.Moment.Arithmetic
import SheetFormula.Proofs.Moment.Reading
import SheetFormula.Proofs.Zone.Offsets

/-!
# Moments in the range of dates

The readers of moments and the steps from them keep instants in the range of dates. The wall clock
is ahead or behind by less than a day, so it stays in the range as well, except for instants that
are less than the offset away from an end of the range: these are accepted although the wall clock
shows no date of the range there. Dates that are read from text, and whole steps of calendar units,
lead to wall-clock times in the range.

## Main definitions

* `SheetFormula.Moment.Accepted` — the moments that are read in a zone, and the steps from them.

## Main results

* `SheetFormula.Moment.inRange_of_ofText?` — dates that are read from text.
* `SheetFormula.Moment.inRange_of_plus`, `SheetFormula.Moment.wallClock_inRange_of_plus` — steps
  from a moment.
* `SheetFormula.Moment.Accepted.inRange` — instants are in the range of dates.
* `SheetFormula.Moment.wallClock_of_accepted` — when wall clocks are.
* `SheetFormula.Moment.wallClock_before_first_day` — an accepted moment of which the wall clock is
  not.
-/

set_option relaxedAutoImplicit false
set_option autoImplicit false

namespace SheetFormula.Moment

open SheetFormula.Calendar (Date Timestamp firstDay lastDay)
open SheetFormula.Number (digitsValue)

/-! ## Years in texts -/

/-- A field with a value consists of ASCII digits. -/
lemma fieldValue?_eq_some {digits : List Char} {value : ℕ} (h : fieldValue? digits = some value) :
    (∀ c ∈ digits, c.isDigit) ∧ digitsValue digits = value := by
  unfold fieldValue? at h
  split_ifs at h with hdigits
  exact ⟨List.all_eq_true.mp hdigits.2, by simpa using h⟩

/-- **A text in ISO notation names a time in a year of four digits.** -/
lemma hasFourDigitYear_of_wall? {text : List Char} {fields : IsoFields} {wall : Timestamp}
    (hfields : isoFields? text = some fields) (hwall : fields.wall? = some wall) :
    wall.HasFourDigitYear := by
  obtain ⟨-, -, ⟨hlength, -⟩, -⟩ := exists_of_isoFields? hfields
  obtain ⟨year, hyear, hwall⟩ := Option.bind_eq_some_iff.mp hwall
  obtain ⟨month, -, hwall⟩ := Option.bind_eq_some_iff.mp hwall
  obtain ⟨nanos, -, hwall⟩ := Option.bind_eq_some_iff.mp hwall
  obtain ⟨hdigits, hvalue⟩ := fieldValue?_eq_some hyear
  have hbound : year < 10000 := by
    have hlt := Number.digitsValue_lt hdigits
    rw [hlength, hvalue] at hlt
    exact hlt
  dsimp only at hwall
  split_ifs at hwall
  obtain ⟨hvalid, hday⟩ := Timestamp.dayNumber_of_ofFields? hwall
  exact ⟨_, hvalid, ⟨by simp, by simp only; omega⟩, hday⟩

/-- The year of a layout has at most four digits. -/
lemma year_of_readParts? {layout : List Part} {values final : FieldValues} {text : List Char}
    (hyear : 0 ≤ values.year ∧ values.year ≤ 9999) (h : readParts? values layout text = some final) :
    0 ≤ final.year ∧ final.year ≤ 9999 := by
  induction layout generalizing values text with
  | nil =>
    simp only [readParts?] at h
    split_ifs at h
    cases h
    exact hyear
  | cons part parts ih =>
    cases part with
    | field field =>
      obtain ⟨value, rest, hread, hrest⟩ := exists_of_readParts?_field h
      apply ih _ hrest
      obtain ⟨-, digits, -, -, ⟨-, hwidth, hdigits⟩, rfl⟩ := exists_of_readField? hread
      have hlt := Number.digitsValue_lt hdigits
      cases field with
      | year =>
        have hpow : 10 ^ digits.length ≤ 10 ^ 4 := Nat.pow_le_pow_right (by decide) hwidth
        simp only [FieldValues.set]
        omega
      | _ => exact hyear
    | mark mark =>
      obtain ⟨rest, -, hrest⟩ := exists_of_readParts?_mark h
      exact ih hyear hrest
    | blank =>
      simp only [readParts?] at h
      exact ih hyear h

/-- **A text in a layout names a time in a year of four digits.** -/
lemma hasFourDigitYear_of_readLayout? {layout : List Part} {text : List Char} {wall : Timestamp}
    (h : readLayout? layout text = some wall) : wall.HasFourDigitYear := by
  obtain ⟨values, hvalues, hwall⟩ := Option.bind_eq_some_iff.mp h
  obtain ⟨hvalid, hday⟩ := Timestamp.dayNumber_of_ofFields? hwall
  have hyear := year_of_readParts? (by decide) hvalues
  exact ⟨_, hvalid, hyear, hday⟩

/-! ## Instants of texts -/

/-- The seconds of an offset are less than a day. -/
lemma natAbs_lt_of_offsetSeconds? {offset : List Char} {seconds : ℤ}
    (h : offsetSeconds? offset = some seconds) : seconds.natAbs < 86400 := by
  unfold offsetSeconds? at h
  dsimp only at h
  split_ifs at h with hshort hsign
  all_goals
    simp only [Option.some.injEq] at h
    omega

section Text

variable {zone : Zone} (hzone : zone.IsProper) {wall instant : Timestamp}
  (hyear : wall.HasFourDigitYear)

include hzone hyear

/-- An instant less than a day from a wall-clock time in a year of four digits. -/
lemma inRange_of_near {offset : ℤ} (hoffset : offset.natAbs < 86400) :
    (wall.shift offset).inRange ∧ (zone.wallClock (wall.shift offset)).inRange := by
  have hlocal := Zone.natAbs_offsetAt_lt hzone (wall.shift offset)
  have hshift : zone.wallClock (wall.shift offset) =
      wall.shift (offset + zone.offsetAt (wall.shift offset)) := by
    simp [Zone.wallClock, Timestamp.shift, Int.add_assoc]
  rw [hshift]
  exact ⟨hyear.inRange_shift (by omega), hyear.inRange_shift (by omega)⟩

/-- An instant that a zone finds for a wall-clock time in a year of four digits. -/
lemma inRange_of_found (h : zone.instantAt? wall = some instant) :
    instant.inRange ∧ (zone.wallClock instant).inRange := by
  have hwall : wall.inRange := by
    have hshift := hyear.inRange_shift (show (0 : ℤ).natAbs < 2 * 86400 by decide)
    simpa [Timestamp.shift] using hshift
  obtain ⟨hinstant, hlocal⟩ := Zone.inRange_of_instantAt? hwall h
  exact ⟨hinstant, hlocal hzone⟩

end Text

/-- **Dates that are read from text are in the range of dates**, and so are their wall clocks. -/
theorem inRange_of_ofText? {zone : Zone} (hzone : zone.IsProper) {text : String} {moment : Moment}
    (h : ofText? zone text = some moment) : moment.instant.inRange ∧ moment.wallClock.inRange := by
  obtain ⟨instant, hread, rfl⟩ := Option.map_eq_some_iff.mp h
  change instant.inRange ∧ (zone.wallClock instant).inRange
  rcases Option.or_eq_some_iff.mp hread with hiso | ⟨-, hlocale⟩
  · obtain ⟨fields, hfields, hiso⟩ := Option.bind_eq_some_iff.mp hiso
    obtain ⟨wall, hwall, hinstant⟩ := Option.bind_eq_some_iff.mp hiso
    have hyear := hasFourDigitYear_of_wall? hfields hwall
    unfold IsoFields.instant? at hinstant
    split at hinstant
    · exact inRange_of_found hzone hyear hinstant
    · obtain rfl : wall = instant := by simpa using hinstant
      have hnear := inRange_of_near hzone hyear (by decide : (0 : ℤ).natAbs < 86400)
      simpa [Timestamp.shift] using hnear
    · obtain ⟨offset, hoffset, hinstant⟩ := Option.bind_eq_some_iff.mp hinstant
      obtain ⟨rfl, -⟩ := Timestamp.checked_eq_some.mp hinstant
      have hlt := natAbs_lt_of_offsetSeconds? hoffset
      exact inRange_of_near hzone hyear (by omega)
  · unfold readLocale? at hlocale
    split_ifs at hlocale
    split at hlocale
    next wall hlayout =>
      obtain ⟨layout, -, hwall⟩ := List.exists_of_findSome?_eq_some hlayout
      exact inRange_of_found hzone (hasFourDigitYear_of_readLayout? hwall) hlocale
    next => cases hlocale

/-! ## Steps -/

/-- A whole step of calendar units leads to an instant that the zone finds for a time in the range
of dates. -/
lemma exists_wall_of_plusWhole? {moment : Moment} {count : ℤ} {unit : DateUnit}
    {instant : Timestamp} (hunit : unit.months?.isSome ∨ unit.days?.isSome)
    (h : moment.plusWhole? count unit = some instant) :
    ∃ wall : Timestamp, wall.inRange ∧ moment.zone.instantAt? wall = some instant := by
  unfold plusWhole? at h
  split at h
  · obtain ⟨wall, hwall, h⟩ := Option.bind_eq_some_iff.mp h
    exact ⟨wall, Timestamp.inRange_of_addMonths? (Timestamp.addMonths?_of_stepMonths? hwall), h⟩
  · obtain ⟨wall, hwall, h⟩ := Option.bind_eq_some_iff.mp h
    exact ⟨wall, Timestamp.inRange_of_checked hwall, h⟩
  · next hmonths hdays => simp [hmonths, hdays] at hunit

/-- A whole step leads to an instant in the range of dates. -/
lemma inRange_of_plusWhole? {moment : Moment} {count : ℤ} {unit : DateUnit} {instant : Timestamp}
    (h : moment.plusWhole? count unit = some instant) : instant.inRange := by
  by_cases hunit : unit.months?.isSome ∨ unit.days?.isSome
  · obtain ⟨wall, hwall, hinstant⟩ := exists_wall_of_plusWhole? hunit h
    exact (Zone.inRange_of_instantAt? hwall hinstant).1
  · have hclock : unit.months? = none ∧ unit.days? = none := by simpa [not_or] using hunit
    rw [plusWhole?, hclock.1, hclock.2] at h
    exact Timestamp.inRange_of_checked h

/-- What a step by an amount does: a whole step, and behind it a duration if the amount is not
whole. -/
lemma exists_of_plus {moment moment' : Moment} {amount : Float} {unit : DateUnit}
    (h : moment.plus amount unit = .ok moment') :
    ∃ count instant, moment.plusWhole? count unit = some instant ∧
      (moment' = { moment with instant } ∨ (Number.whole? amount).isSome = false ∧
        ∃ millis instant', instant.plusMillis? millis = some instant' ∧
          moment' = { moment with instant := instant' }) := by
  unfold plus at h
  split at h
  next => cases h
  next count hcount =>
    split_ifs at h with hlarge hcalendar hwhole
    · dsimp only at h
      split at h
      next found hfound =>
        cases h
        exact ⟨count, found, hfound, .inl rfl⟩
      next => cases h
    · dsimp only at h
      split at h
      next found hfound =>
        cases h
        obtain ⟨instant, hinstant, hmillis⟩ := Option.bind_eq_some_iff.mp hfound
        exact ⟨count, instant, hinstant, .inr ⟨by simpa using hwhole, _, found, hmillis, rfl⟩⟩
      next => cases h

/-- **A step leads to an instant in the range of dates**, in the same zone. -/
theorem inRange_of_plus {moment moment' : Moment} {amount : Float} {unit : DateUnit}
    (h : moment.plus amount unit = .ok moment') :
    moment'.zone = moment.zone ∧ moment'.instant.inRange := by
  obtain ⟨count, instant, hwhole, rfl | ⟨-, millis, instant', hmillis, rfl⟩⟩ := exists_of_plus h
  · exact ⟨rfl, inRange_of_plusWhole? hwhole⟩
  · exact ⟨rfl, Timestamp.inRange_of_checked hmillis⟩

/-- **A whole step of calendar units leads to a wall clock in the range of dates.** -/
theorem wallClock_inRange_of_plus {moment moment' : Moment} (hzone : moment.zone.IsProper)
    {amount : Float} {unit : DateUnit} (hunit : unit.months?.isSome ∨ unit.days?.isSome)
    (hamount : (Number.whole? amount).isSome) (h : moment.plus amount unit = .ok moment') :
    moment'.wallClock.inRange := by
  obtain ⟨count, instant, hwhole, rfl | ⟨hfraction, -⟩⟩ := exists_of_plus h
  · obtain ⟨wall, hwall, hinstant⟩ := exists_wall_of_plusWhole? hunit hwhole
    exact (Zone.inRange_of_instantAt? hwall hinstant).2 hzone
  · rw [hamount] at hfraction
    cases hfraction

/-! ## Accepted moments -/

/-- The moments that date functions work with in a zone: those that values are read as, if instants
among the values are in the range of dates, and those that steps lead to. -/
inductive Accepted (zone : Zone) : Moment → Prop
  | read {value : Value} {moment : Moment}
      (hnative : ∀ instant, value = .date instant → instant.inRange)
      (h : ofValue? zone value = some moment) : Accepted zone moment
  | step {moment moment' : Moment} {amount : Float} {unit : DateUnit}
      (hmoment : Accepted zone moment) (h : moment.plus amount unit = .ok moment') :
      Accepted zone moment'

/-- A value is read as an instant in the range of dates, in the zone at hand. -/
lemma inRange_of_ofValue? {zone : Zone} (hzone : zone.IsProper) {value : Value} {moment : Moment}
    (hnative : ∀ instant, value = .date instant → instant.inRange)
    (h : ofValue? zone value = some moment) : moment.zone = zone ∧ moment.instant.inRange := by
  unfold ofValue? at h
  split_ifs at h
  split at h
  next instant htruthy =>
    cases h
    exact ⟨rfl, hnative instant rfl⟩
  next number htruthy =>
    obtain ⟨millis, -, h⟩ := Option.bind_eq_some_iff.mp h
    obtain ⟨instant, hinstant, rfl⟩ := Option.map_eq_some_iff.mp h
    exact ⟨rfl, Timestamp.inRange_of_checked hinstant⟩
  next text htruthy =>
    obtain ⟨instant, -, hmoment⟩ := Option.map_eq_some_iff.mp h
    exact ⟨hmoment ▸ rfl, (inRange_of_ofText? hzone h).1⟩
  next => cases h

/-- **Accepted moments are seen in their zone, at instants in the range of dates.**

**Proof sketch.** Induction on the steps. -/
theorem Accepted.inRange {zone : Zone} (hzone : zone.IsProper) {moment : Moment}
    (h : Accepted zone moment) : moment.zone = zone ∧ moment.instant.inRange := by
  induction h with
  | read hnative h => exact inRange_of_ofValue? hzone hnative h
  | step hmoment h ih =>
    obtain ⟨hsame, hrange⟩ := inRange_of_plus h
    exact ⟨hsame.trans ih.1, hrange⟩

/-- The wall clock leaves the range of dates before its first day or behind its last one. -/
lemma wallClock_inRange_eq_false_iff {zone : Zone} (hzone : zone.IsProper) {instant : Timestamp}
    (hrange : instant.inRange) :
    (zone.wallClock instant).inRange = false ↔
      instant.dayNumber = firstDay ∧ instant.secondOfDay + zone.offsetAt instant < 0 ∨
        instant.dayNumber = lastDay ∧ 86400 ≤ instant.secondOfDay + zone.offsetAt instant := by
  have hoffset := Zone.natAbs_offsetAt_lt hzone instant
  obtain ⟨hseconds, hday⟩ := instant.seconds_eq
  rw [← Bool.not_eq_true, Timestamp.inRange_iff]
  rw [Timestamp.inRange_iff] at hrange
  have hwall : (zone.wallClock instant).dayNumber =
      (instant.dayNumber * 86400 + instant.secondOfDay + zone.offsetAt instant) / 86400 := by
    rw [Zone.wallClock, Timestamp.shift, Timestamp.dayNumber, hseconds]
    rfl
  have hends : firstDay < lastDay := by decide
  rw [hwall]
  omega

/-- **When accepted moments have a wall-clock time in the range of dates.** In every zone the
instant of an accepted moment is in the range. Its wall clock is not, exactly if the instant is on
the first day of the range and the wall clock is behind by more than the time of day, or if it is on
the last day and the wall clock is ahead into the next one. The wall clock of a moment that is read
from text is always in the range, and so is that of a moment to which a whole step of calendar units
leads. -/
theorem wallClock_of_accepted {zone : Zone} (hzone : zone.IsProper) :
    (∀ moment, Accepted zone moment →
      moment.zone = zone ∧ moment.instant.inRange ∧
        (moment.wallClock.inRange = false ↔
          moment.instant.dayNumber = firstDay ∧
              moment.instant.secondOfDay + zone.offsetAt moment.instant < 0 ∨
            moment.instant.dayNumber = lastDay ∧
              86400 ≤ moment.instant.secondOfDay + zone.offsetAt moment.instant)) ∧
    (∀ text moment, ofText? zone text = some moment → moment.wallClock.inRange) ∧
    ∀ moment amount unit moment', Accepted zone moment →
      (DateUnit.months? unit).isSome ∨ (DateUnit.days? unit).isSome →
      (Number.whole? amount).isSome → moment.plus amount unit = .ok moment' →
        moment'.wallClock.inRange := by
  refine ⟨?_, ?_, ?_⟩
  · intro moment hmoment
    obtain ⟨rfl, hrange⟩ := hmoment.inRange hzone
    exact ⟨rfl, hrange, wallClock_inRange_eq_false_iff hzone hrange⟩
  · intro text moment htext
    exact (inRange_of_ofText? hzone htext).2
  · intro moment amount unit moment' hmoment hunit hamount hstep
    obtain ⟨rfl, -⟩ := hmoment.inRange hzone
    exact wallClock_inRange_of_plus hzone hunit hamount hstep

/-- The first instant of the range of dates, read from milliseconds five hours behind universal
time. -/
theorem wallClock_of_accepted_milliseconds :
    let moment : Moment := ⟨⟨firstDay * 86400, 0⟩, .fixed (-18000), .dateTime⟩
    (Zone.fixed (-18000)).IsProper ∧ Accepted (.fixed (-18000)) moment ∧
      moment.wallClock.inRange = false := by
  intro moment
  have hzone : (Zone.fixed (-18000)).IsProper := by decide
  have hread : ofValue? (.fixed (-18000)) (.number (-8334601228800000.0)) = some moment := by
    decide +kernel
  have hmoment : Accepted (.fixed (-18000)) moment := .read (by simp) hread
  obtain ⟨-, -, hwall⟩ := (wallClock_of_accepted hzone).1 moment hmoment
  exact ⟨hzone, hmoment, hwall.mpr (.inl (by decide))⟩

/-- **An accepted moment of which the wall clock is not in the range of dates**: hours are added to
a moment that is read from text, up to the first instant of the range, in a zone behind universal
time. -/
theorem wallClock_before_first_day :
    let start : Moment := ⟨⟨0, 0⟩, .fixed (-18000), .dateTime⟩
    let stepped : Moment := ⟨⟨firstDay * 86400, 0⟩, .fixed (-18000), .dateTime⟩
    ofText? (.fixed (-18000)) "1970-01-01T00:00:00Z" = some start ∧
      (start.plus (-2315167008.0) .hours).toOption = some stepped ∧
      stepped.wallClock.inRange = false := by
  decide +kernel

end SheetFormula.Moment
