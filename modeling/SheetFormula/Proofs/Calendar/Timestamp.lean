import SheetFormula.Calendar.Timestamp
import SheetFormula.Proofs.Calendar.Date

/-!
# Steps in time

Where steps of whole months, days and seconds lead, and that longer steps lead further. A step of
months goes to the month of which the number is that much greater; a step of days goes to the same
time of day, a second later if it starts in a leap second.

## Main definitions

* `SheetFormula.Calendar.Timestamp.monthStep` — the date a number of months later.
* `SheetFormula.Calendar.Timestamp.HasFourDigitYear` — the points in the years 0 to 9999.
* `SheetFormula.Calendar.Timestamp.nanosUntil` — the nanoseconds between points outside leap
  seconds.

## Main results

* `SheetFormula.Calendar.Timestamp.monthIndex_monthStep` — a step of months goes to the month with
  the right number.
* `SheetFormula.Calendar.Timestamp.stepMonths?_eq` — steps forward and back follow one formula.
* `SheetFormula.Calendar.Timestamp.addMonths?_mono`, `plusDays?_mono` — shorter steps lead less far.
* `SheetFormula.Calendar.Timestamp.before_of_addMonths?`, `before_of_plusDays?` — steps that are too
  long for the months or days between two points lead beyond the second one.
* `SheetFormula.Calendar.Timestamp.inRange_of_addMonths?`, `HasFourDigitYear.inRange_shift` — steps
  of months, and the years of four digits, stay in the range of dates.
-/

set_option relaxedAutoImplicit false
set_option autoImplicit false

namespace SheetFormula.Calendar.Timestamp

/-! ## Order -/

/-- The order of points, by seconds and then by nanoseconds. -/
lemma before_iff {s t : Timestamp} :
    s.before t ↔ s.seconds < t.seconds ∨ s.seconds = t.seconds ∧ s.nanos < t.nanos := by
  simp [before]

/-- A point is not before another one if it is later, or the same. -/
lemma before_eq_false_iff {s t : Timestamp} :
    s.before t = false ↔ t.seconds < s.seconds ∨ t.seconds = s.seconds ∧ t.nanos ≤ s.nanos := by
  rw [← Bool.not_eq_true, before_iff]
  omega

/-- What is not before a later point is not before an earlier one. -/
lemma before_eq_false_trans {r s t : Timestamp} (hrs : s.before r = false)
    (hst : t.before s = false) : t.before r = false := by
  rw [before_eq_false_iff] at hrs hst ⊢
  omega

/-- Points of which none is before the other are the same. -/
lemma eq_of_before_eq_false {s t : Timestamp} (hst : s.before t = false)
    (hts : t.before s = false) : s = t := by
  rw [before_eq_false_iff] at hst hts
  obtain ⟨seconds, nanos⟩ := s
  obtain ⟨seconds', nanos'⟩ := t
  simp only at hst hts
  rw [mk.injEq]
  omega

/-! ## Days -/

/-- A point is made up of its day and the second of the day. -/
lemma seconds_eq (t : Timestamp) :
    t.seconds = t.dayNumber * secondsPerDay + t.secondOfDay ∧ t.secondOfDay < 86400 := by
  unfold dayNumber secondOfDay secondsPerDay
  omega

/-- Points are in the order of their days. -/
lemma before_of_dayNumber_lt {s t : Timestamp} (h : s.dayNumber < t.dayNumber) : s.before t := by
  rw [before_iff]
  unfold dayNumber secondsPerDay at h
  omega

/-- Steps of days keep the time of day, up to a carry out of a leap second that is the same for all
of them. -/
lemma exists_plus_days (t : Timestamp) :
    ∃ (carry : ℤ) (nanos : ℕ), 0 ≤ carry ∧ ∀ days : ℤ, 0 < days →
      t.plus (days * secondsPerDay) 0 = ⟨t.seconds + days * secondsPerDay + carry, nanos⟩ := by
  by_cases hleap : t.isLeap
  · have hnanos : nanosPerSecond ≤ t.nanos := by simpa [isLeap] using hleap
    refine ⟨(t.nanos - nanosPerSecond + 0 : ℤ) / nanosPerSecond,
      ((t.nanos - nanosPerSecond + 0 : ℤ) % nanosPerSecond).toNat, ?_, fun days hdays => ?_⟩
    · unfold nanosPerSecond at hnanos ⊢
      omega
    · have hpos : 0 < days * secondsPerDay := by unfold secondsPerDay; omega
      rw [plus, if_pos hleap, if_pos (.inl hpos), normal]
  · refine ⟨(t.nanos + 0 : ℤ) / nanosPerSecond, ((t.nanos + 0 : ℤ) % nanosPerSecond).toNat, ?_,
      fun days _ => ?_⟩
    · unfold nanosPerSecond
      omega
    · rw [plus, if_neg hleap, normal]

/-- A point is kept if it lies in the range of dates. -/
lemma checked_eq_some {s t : Timestamp} : t.checked = some s ↔ t = s ∧ t.inRange := by
  unfold checked
  split_ifs with h <;> simp [h]

/-- What is kept lies in the range of dates. -/
lemma inRange_of_checked {s t : Timestamp} (h : t.checked = some s) : s.inRange := by
  obtain ⟨rfl, hrange⟩ := checked_eq_some.mp h
  exact hrange

/-- The points in the range of dates are those of which the day is. -/
lemma inRange_iff {t : Timestamp} :
    t.inRange ↔ firstDay ≤ t.dayNumber ∧ t.dayNumber ≤ lastDay := by
  simp [inRange]

/-- What lies between points in the range of dates does so, too. -/
lemma inRange_between {r s t : Timestamp} (hr : r.inRange) (ht : t.inRange)
    (hrs : r.seconds ≤ s.seconds) (hst : s.seconds ≤ t.seconds) : s.inRange := by
  rw [inRange_iff] at hr ht ⊢
  have hfirst : r.dayNumber ≤ s.dayNumber := Int.ediv_le_ediv (by decide) hrs
  have hlast : s.dayNumber ≤ t.dayNumber := Int.ediv_le_ediv (by decide) hst
  omega

/-- **Shorter steps of days lead less far**, if they go forward from the range of dates. -/
theorem plusDays?_mono {s t : Timestamp} (hrange : t.inRange) {days days' : ℤ} (hpos : 0 < days)
    (hle : days ≤ days') (h : t.plusDays? days' = some s) :
    ∃ s', t.plusDays? days = some s' ∧ s.before s' = false := by
  obtain ⟨carry, nanos, hcarry, hplus⟩ := exists_plus_days t
  obtain ⟨rfl, hfar⟩ := checked_eq_some.mp h
  rw [hplus days' (by omega)] at hfar ⊢
  have hnear : t.seconds + days * secondsPerDay + carry ≤
      t.seconds + days' * secondsPerDay + carry := by
    unfold secondsPerDay
    omega
  refine ⟨⟨t.seconds + days * secondsPerDay + carry, nanos⟩, ?_, ?_⟩
  · refine checked_eq_some.mpr ⟨hplus days hpos, ?_⟩
    rw [hplus days hpos]
    refine inRange_between hrange hfar ?_ hnear
    simp only [secondsPerDay]
    omega
  · rw [before_eq_false_iff]
    dsimp only
    omega

/-- **A step of more days than there are between two points leads beyond the second one.** -/
theorem before_of_plusDays? {s t finish : Timestamp} {days : ℤ} (hpos : 0 < days)
    (hfar : finish.dayNumber - t.dayNumber < days) (h : t.plusDays? days = some s) :
    finish.before s := by
  obtain ⟨carry, nanos, hcarry, hplus⟩ := exists_plus_days t
  obtain ⟨rfl, -⟩ := checked_eq_some.mp h
  rw [hplus days hpos]
  refine before_of_dayNumber_lt ?_
  unfold dayNumber secondsPerDay at hfar ⊢
  dsimp only
  omega

/-! ## Months -/

/-- The date a number of months after that of a point: the same day of the month, or the last one
if there is none of that number. -/
def monthStep (t : Timestamp) (months : ℤ) : Date :=
  let index := t.date.monthIndex + months
  { year := index / 12
    month := (index % 12).toNat + 1
    day := min t.date.day (monthLength index) }

/-- The date of a point exists. -/
lemma isValid_date (t : Timestamp) : t.date.isValid :=
  isValid_ofDayNumber t.dayNumber

/-- A step of months leads to the same time of day, on a date in the range of years. -/
lemma addMonths?_eq_some {s t : Timestamp} {months : ℤ} :
    t.addMonths? months = some s ↔
      (firstYear ≤ (t.monthStep months).year ∧ (t.monthStep months).year ≤ lastYear) ∧
        ofDay (t.monthStep months).dayNumber t.secondOfDay t.nanos = s := by
  have hstep : t.addMonths? months =
      if firstYear ≤ (t.monthStep months).year ∧ (t.monthStep months).year ≤ lastYear then
        some (ofDay (t.monthStep months).dayNumber t.secondOfDay t.nanos)
      else none := rfl
  rw [hstep]
  split_ifs with h <;> simp [h]

/-- **A step of months goes to the month with the right number.** -/
theorem monthIndex_monthStep (t : Timestamp) (months : ℤ) :
    (t.monthStep months).monthIndex = t.date.monthIndex + months := by
  unfold monthStep
  generalize t.date.monthIndex + months = index
  simp only [Date.monthIndex]
  omega

/-- The date a number of months later exists. -/
lemma isValid_monthStep (t : Timestamp) (months : ℤ) : (t.monthStep months).isValid := by
  obtain ⟨-, -, hday, -⟩ := Date.isValid_iff.mp t.isValid_date
  have hlength := (daysInMonth_bounds (t.monthStep months).year (t.monthStep months).month).1
  rw [Date.isValid_iff]
  refine ⟨by simp [monthStep], ?_, ?_, ?_⟩
  · simp only [monthStep]
    omega
  · change 1 ≤ min t.date.day (daysInMonth _ _)
    exact le_min hday (le_trans (by decide) hlength)
  · exact Nat.min_le_right _ _

/-- The year of a date in the range of days is in the range of years. -/
lemma year_bounds_of_inRange {t : Timestamp} (h : t.inRange) :
    firstYear ≤ t.date.year ∧ t.date.year ≤ lastYear := by
  rw [inRange_iff, ← dayNumber_ofDayNumber t.dayNumber] at h
  have hvalid := t.isValid_date
  obtain ⟨hmonth, hmonth', -, -⟩ := Date.isValid_iff.mp hvalid
  constructor
  · by_contra hearly
    have hlt := dayNumber_lt_of_monthIndex_lt hvalid (show Date.isValid ⟨firstYear, 1, 1⟩ by decide)
      (by simp only [Date.monthIndex]; omega)
    exact absurd h.1 (not_le_of_gt hlt)
  · by_contra hlate
    have hlt := dayNumber_lt_of_monthIndex_lt (show Date.isValid ⟨lastYear, 12, 31⟩ by decide) hvalid
      (by simp only [Date.monthIndex]; omega)
    exact absurd h.2 (not_le_of_gt hlt)

/-- A step by a count of months, forward or back, goes where the number of months leads. -/
lemma stepMonths?_of_le {t : Timestamp} {months : ℤ} (h : months.natAbs ≤ greatestMonthCount) :
    t.stepMonths? months = t.addMonths? months := by
  unfold stepMonths?
  rw [if_neg (not_lt_of_ge h)]
  split_ifs with hforward
  · rw [monthsLater?, addMonths?, Int.natAbs_of_nonneg hforward]
  · rw [monthsEarlier?, addMonths?, Int.ofNat_natAbs_of_nonpos (by omega), Int.sub_neg]

/-- A step that there is goes where the number of months leads. -/
lemma addMonths?_of_stepMonths? {s t : Timestamp} {months : ℤ} (h : t.stepMonths? months = some s) :
    t.addMonths? months = some s := by
  have hcount : months.natAbs ≤ greatestMonthCount := by
    by_contra hlarge
    rw [stepMonths?, if_pos (lt_of_not_ge hlarge)] at h
    cases h
  rw [← stepMonths?_of_le hcount, h]

/-- **A step from the range of dates goes where the number of months leads**, since one that is no
count of months would leave the range. -/
theorem stepMonths?_eq {t : Timestamp} (hrange : t.inRange) (months : ℤ) :
    t.stepMonths? months = t.addMonths? months := by
  rcases le_or_gt months.natAbs greatestMonthCount with hcount | hlarge
  · exact stepMonths?_of_le hcount
  · rw [stepMonths?, if_pos hlarge]
    cases hstep : t.addMonths? months with
    | none => rfl
    | some s =>
      obtain ⟨⟨hfirst, hlast⟩, -⟩ := addMonths?_eq_some.mp hstep
      have hindex := t.monthIndex_monthStep months
      obtain ⟨hfirst', hlast'⟩ := year_bounds_of_inRange hrange
      rw [← Date.monthIndex_div (t.isValid_monthStep months)] at hfirst hlast
      rw [← Date.monthIndex_div t.isValid_date] at hfirst' hlast'
      unfold greatestMonthCount at hlarge
      unfold firstYear lastYear at *
      omega

/-- The day of a point that is given by day and second of the day. -/
lemma dayNumber_ofDay {day : ℤ} {second nanos : ℕ} (h : second < 86400) :
    (ofDay day second nanos).dayNumber = day := by
  unfold dayNumber ofDay secondsPerDay
  dsimp only
  omega

/-- **Shorter steps of months lead less far**, if they go forward from the range of dates. -/
theorem addMonths?_mono {s t : Timestamp} (hrange : t.inRange) {months months' : ℤ}
    (hpos : 0 ≤ months) (hle : months ≤ months') (h : t.addMonths? months' = some s) :
    ∃ s', t.addMonths? months = some s' ∧ s.before s' = false := by
  obtain ⟨hfar, rfl⟩ := addMonths?_eq_some.mp h
  have hindex := t.monthIndex_monthStep months
  have hindex' := t.monthIndex_monthStep months'
  have hyear := year_bounds_of_inRange hrange
  have hyears : t.date.year ≤ (t.monthStep months).year ∧
      (t.monthStep months).year ≤ (t.monthStep months').year := by
    rw [← Date.monthIndex_div t.isValid_date, ← Date.monthIndex_div (t.isValid_monthStep months),
      ← Date.monthIndex_div (t.isValid_monthStep months')]
    omega
  refine ⟨_, addMonths?_eq_some.mpr ⟨by omega, rfl⟩, ?_⟩
  obtain rfl | hlt := eq_or_lt_of_le hle
  · rw [before_eq_false_iff]
    exact .inr ⟨rfl, le_rfl⟩
  · have hdays := dayNumber_lt_of_monthIndex_lt (t.isValid_monthStep months)
      (t.isValid_monthStep months') (by omega)
    rw [before_eq_false_iff]
    unfold ofDay secondsPerDay
    dsimp only
    omega

/-- **A step of more months than there are between two points leads beyond the second one.** -/
theorem before_of_addMonths? {s t finish : Timestamp} {months : ℤ}
    (hfar : finish.date.monthIndex - t.date.monthIndex < months)
    (h : t.addMonths? months = some s) : finish.before s := by
  obtain ⟨-, rfl⟩ := addMonths?_eq_some.mp h
  have hindex := t.monthIndex_monthStep months
  have hdays := dayNumber_lt_of_monthIndex_lt finish.isValid_date (t.isValid_monthStep months)
    (by omega)
  refine before_of_dayNumber_lt ?_
  rw [dayNumber_ofDay t.seconds_eq.2]
  rwa [date, dayNumber_ofDayNumber] at hdays

/-- **A step of months stays in the range of dates.** -/
theorem inRange_of_addMonths? {s t : Timestamp} {months : ℤ} (h : t.addMonths? months = some s) :
    s.inRange := by
  obtain ⟨⟨hfirst, hlast⟩, rfl⟩ := addMonths?_eq_some.mp h
  rw [inRange_iff, dayNumber_ofDay t.seconds_eq.2]
  exact dayNumber_bounds_of_years (t.isValid_monthStep months) hfirst hlast

/-! ## Times of day -/

/-- A time of day on a date that exists, outside leap seconds. -/
lemma ofFields?_eq {date : Date} (hvalid : date.isValid) {hour minute second : ℕ}
    (hhour : hour < 24) (hminute : minute < 60) (hsecond : second < 60) (nanos : ℕ) :
    ofFields? date hour minute second nanos =
      some (ofDay date.dayNumber (3600 * hour + 60 * minute + second) nanos) := by
  have hfields : date.isValid ∧ hour < 24 ∧ minute < 60 ∧ second ≤ 60 :=
    ⟨hvalid, hhour, hminute, by omega⟩
  rw [ofFields?, if_pos hfields, if_neg (by omega)]

/-- There is no time of day on a date that does not exist. -/
lemma ofFields?_eq_none {date : Date} (hvalid : date.isValid = false)
    (hour minute second nanos : ℕ) : ofFields? date hour minute second nanos = none :=
  if_neg (by simp [hvalid])

/-- A time of day is on its date, leap seconds included. -/
lemma dayNumber_of_ofFields? {date : Date} {hour minute second nanos : ℕ} {t : Timestamp}
    (h : ofFields? date hour minute second nanos = some t) :
    date.isValid ∧ t.dayNumber = date.dayNumber := by
  unfold ofFields? at h
  split_ifs at h with hfields hleap
  · cases h
    exact ⟨hfields.1, dayNumber_ofDay (by omega)⟩
  · cases h
    exact ⟨hfields.1, dayNumber_ofDay (by omega)⟩

/-- A point is the time of day that its fields show, on its date. -/
lemma ofDay_fields (t : Timestamp) (nanos : ℕ) :
    ofDay t.date.dayNumber (3600 * t.hour + 60 * t.minute + t.second) nanos =
      ⟨t.seconds, nanos⟩ := by
  have htime : 3600 * t.hour + 60 * t.minute + t.second = t.secondOfDay := by
    unfold hour minute second
    omega
  rw [htime, date, dayNumber_ofDayNumber, ofDay, ← t.seconds_eq.1]

/-- A point on a date that exists, in a year of at most four digits. -/
def HasFourDigitYear (t : Timestamp) : Prop :=
  ∃ date : Date, date.isValid ∧ (0 ≤ date.year ∧ date.year ≤ 9999) ∧ t.dayNumber = date.dayNumber

/-- The date of a point decides. -/
lemma hasFourDigitYear_of_date {t : Timestamp} (hyear : 0 ≤ t.date.year ∧ t.date.year ≤ 9999) :
    t.HasFourDigitYear :=
  ⟨t.date, t.isValid_date, hyear, (dayNumber_ofDayNumber t.dayNumber).symm⟩

/-- **Points within two days of a year of four digits are in the range of dates.** -/
theorem HasFourDigitYear.inRange_shift {t : Timestamp} (h : t.HasFourDigitYear) {seconds : ℤ}
    (hseconds : seconds.natAbs < 2 * 86400) : (t.shift seconds).inRange := by
  obtain ⟨date, hvalid, ⟨hyear, hyear'⟩, hday⟩ := h
  have hbounds := dayNumber_bounds_of_years hvalid hyear hyear'
  have hbegin : Date.dayNumber ⟨0, 1, 1⟩ = -719528 := by decide
  have hend : Date.dayNumber ⟨9999, 12, 31⟩ = 2932896 := by decide
  have hfirst : firstDay = -96465292 := by decide
  have hlast : lastDay = 95026236 := by decide
  rw [inRange_iff, hfirst, hlast]
  unfold dayNumber shift secondsPerDay at *
  dsimp only
  omega

/-! ## Seconds -/

/-- Shifts are composed by adding them. -/
lemma shift_shift (t : Timestamp) (a b : ℤ) : (t.shift a).shift b = t.shift (a + b) := by
  simp [shift, Int.add_assoc]

/-- A shift by nothing leads nowhere. -/
lemma shift_zero (t : Timestamp) : t.shift 0 = t := by
  simp [shift]

/-- A shift by whole days keeps the time of day. -/
lemma secondOfDay_shift (t : Timestamp) (days : ℤ) :
    (t.shift (days * 86400)).secondOfDay = t.secondOfDay := by
  unfold secondOfDay shift secondsPerDay
  rw [Int.add_mul_emod_self_right]

/-- The nanoseconds of points that are no leap seconds are those of a second. -/
lemma nanos_lt_of_not_isLeap {t : Timestamp} (h : t.isLeap = false) : t.nanos < nanosPerSecond := by
  simpa [isLeap] using h

/-- Whole seconds are added outside leap seconds as they are. -/
lemma plus_of_not_isLeap {t : Timestamp} (h : t.isLeap = false) (seconds : ℤ) :
    t.plus seconds 0 = t.shift seconds := by
  have hnanos := nanos_lt_of_not_isLeap h
  rw [plus, h]
  simp only [Bool.false_eq_true, if_false, normal, shift, mk.injEq]
  unfold nanosPerSecond at hnanos ⊢
  omega

/-- Milliseconds that are whole seconds are added outside leap seconds as they are. -/
lemma plusMillis_of_not_isLeap {t : Timestamp} (h : t.isLeap = false) (seconds : ℤ) :
    t.plusMillis (seconds * 1000) = ⟨t.seconds + seconds, t.nanos⟩ := by
  have hseconds : (seconds * 1000).tdiv 1000 = seconds :=
    Int.mul_tdiv_cancel seconds (by decide)
  have hrest : (seconds * 1000).tmod 1000 = 0 := Int.mul_tmod_left seconds 1000
  rw [plusMillis, hseconds, hrest, Int.zero_mul, plus_of_not_isLeap h, shift]

/-- Days are added outside leap seconds as they are. -/
lemma plusDays?_of_not_isLeap {t : Timestamp} (h : t.isLeap = false) (days : ℤ) :
    t.plusDays? days = (t.shift (days * 86400)).checked := by
  rw [plusDays?, secondsPerDay, plus_of_not_isLeap h]

/-- The nanoseconds from one point to another one, where neither is in a leap second. -/
def nanosUntil (start finish : Timestamp) : ℤ :=
  (finish.seconds - start.seconds) * nanosPerSecond + (finish.nanos - start.nanos)

/-- Outside leap seconds, durations are differences, cut off to milliseconds. -/
lemma millisUntil_of_not_isLeap {start finish : Timestamp} (hstart : start.isLeap = false)
    (hfinish : finish.isLeap = false) :
    start.millisUntil finish = (start.nanosUntil finish).tdiv 1000000 := by
  simp [millisUntil, nanosUntil, hstart, hfinish]

end SheetFormula.Calendar.Timestamp
