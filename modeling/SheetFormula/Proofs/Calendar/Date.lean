import SheetFormula.Calendar.Date
import Mathlib.Data.Int.Notation
import Mathlib.Data.Nat.Notation
import Mathlib.Tactic.Common
import Mathlib.Tactic.IntervalCases
import Mathlib.Tactic.Linarith

/-!
# Days and dates

Days and dates correspond: the date of a day exists and has that day for its number. The months
follow each other without gaps, each with as many days as it has, so days are in the order of their
months.

## Main definitions

* `SheetFormula.Calendar.firstOfMonth` — the day on which a month begins.
* `SheetFormula.Calendar.marchYearStart` — the day on which a year begins that is counted from
  March.

## Main results

* `SheetFormula.Calendar.firstOfMonth_succ` — a month begins where the one before it ends.
* `SheetFormula.Calendar.dayNumber_lt_of_monthIndex_lt` — days are in the order of their months.
* `SheetFormula.Calendar.dayNumber_bounds_of_years` — the days of a range of years.
* `SheetFormula.Calendar.isValid_ofDayNumber`, `dayNumber_ofDayNumber` — every day is the number of
  a date that exists.
-/

set_option relaxedAutoImplicit false
set_option autoImplicit false

namespace SheetFormula.Calendar

/-! ## Years counted from March -/

/-- The day on which a year begins that is counted from March. -/
def marchYearStart (year : ℤ) : ℤ :=
  365 * year + year / 4 - year / 100 + year / 400 - 719468

/-- Eras of 400 years have 146097 days each. -/
lemma marchYearStart_add_eras (year era : ℤ) :
    marchYearStart (year + 400 * era) = marchYearStart year + 146097 * era := by
  unfold marchYearStart
  omega

/-- A leap year is one that four divides, but not a hundred, or that four hundred divide. -/
lemma isLeapYear_iff {year : ℤ} :
    isLeapYear year ↔ year % 4 = 0 ∧ (year % 100 ≠ 0 ∨ year % 400 = 0) := by
  simp [isLeapYear]

/-- A year that is counted from March ends with the leap day of the next one. -/
lemma marchYearStart_eq (year : ℤ) :
    marchYearStart year = marchYearStart (year - 1) + 365 + if isLeapYear year then 1 else 0 := by
  have hfour : year / 4 - (year - 1) / 4 = if year % 4 = 0 then 1 else 0 := by
    split_ifs <;> omega
  have hcentury : year / 100 - (year - 1) / 100 = if year % 100 = 0 then 1 else 0 := by
    split_ifs <;> omega
  have hera : year / 400 - (year - 1) / 400 = if year % 400 = 0 then 1 else 0 := by
    split_ifs <;> omega
  simp only [isLeapYear_iff, marchYearStart]
  split_ifs at hfour hcentury hera ⊢ <;> omega

/-- The days from March on are counted in their own year. -/
lemma dayNumber_of_late {year : ℤ} {month day : ℕ} (h : 2 < month) :
    Date.dayNumber ⟨year, month, day⟩ =
      marchYearStart year + (153 * (month - 3 : ℤ) + 2) / 5 + day - 1 := by
  simp only [Date.dayNumber, marchYearStart, if_neg (Nat.not_le_of_lt h)]
  omega

/-- The days up to February are counted in the year before. -/
lemma dayNumber_of_early {year : ℤ} {month day : ℕ} (h : month ≤ 2) :
    Date.dayNumber ⟨year, month, day⟩ =
      marchYearStart (year - 1) + (153 * (month + 9 : ℤ) + 2) / 5 + day - 1 := by
  simp only [Date.dayNumber, marchYearStart, if_pos h]
  omega

/-! ## Months -/

/-- The day on which a month begins. -/
def firstOfMonth (index : ℤ) : ℤ :=
  Date.dayNumber ⟨index / 12, (index % 12).toNat + 1, 1⟩

/-- The number of days of a month. -/
def monthLength (index : ℤ) : ℕ :=
  daysInMonth (index / 12) ((index % 12).toNat + 1)

/-- A date that exists has a month and a day. -/
lemma Date.isValid_iff {date : Date} :
    date.isValid ↔ 1 ≤ date.month ∧ date.month ≤ 12 ∧ 1 ≤ date.day ∧
      date.day ≤ daysInMonth date.year date.month := by
  simp [Date.isValid, and_assoc]

/-- The year of a date is that of its month. -/
lemma Date.monthIndex_div {date : Date} (h : date.isValid) : date.monthIndex / 12 = date.year := by
  obtain ⟨hfirst, hlast, -, -⟩ := Date.isValid_iff.mp h
  unfold monthIndex
  omega

/-- The month of a date in its year is that of its index. -/
lemma Date.monthIndex_mod {date : Date} (h : date.isValid) :
    (date.monthIndex % 12).toNat + 1 = date.month := by
  obtain ⟨hfirst, hlast, -, -⟩ := Date.isValid_iff.mp h
  unfold monthIndex
  omega

/-- Months have 28 to 31 days. -/
lemma daysInMonth_bounds (year : ℤ) (month : ℕ) :
    28 ≤ daysInMonth year month ∧ daysInMonth year month ≤ 31 := by
  unfold daysInMonth
  split
  · split <;> omega
  all_goals omega

/-- The day of a date is counted from the first of its month. -/
lemma dayNumber_eq {date : Date} (h : date.isValid) :
    date.dayNumber = firstOfMonth date.monthIndex + date.day - 1 := by
  rw [firstOfMonth, Date.monthIndex_div h, Date.monthIndex_mod h]
  obtain ⟨year, month, day⟩ := date
  dsimp only
  rcases Nat.lt_or_ge 2 month with hlate | hearly
  · rw [dayNumber_of_late hlate, dayNumber_of_late hlate]
    omega
  · rw [dayNumber_of_early hearly, dayNumber_of_early hearly]
    omega

/-- Within a year, the next month begins where a month ends. -/
lemma dayNumber_next_month (year : ℤ) {month : ℕ} (hfirst : 1 ≤ month) (hlast : month ≤ 11) :
    Date.dayNumber ⟨year, month + 1, 1⟩ =
      Date.dayNumber ⟨year, month, 1⟩ + daysInMonth year month := by
  rcases Nat.lt_or_ge 2 month with hlate | hearly
  · rw [dayNumber_of_late hlate, dayNumber_of_late (by omega)]
    interval_cases month <;> simp only [daysInMonth] <;> omega
  · rw [dayNumber_of_early hearly]
    obtain rfl | rfl : month = 1 ∨ month = 2 := by omega
    · rw [dayNumber_of_early le_rfl]
      simp only [daysInMonth]
      omega
    · -- the end of February, where years counted from March change
      have hyear := marchYearStart_eq year
      rw [dayNumber_of_late (by decide)]
      simp only [daysInMonth]
      split_ifs at hyear ⊢ <;> omega

/-- The next year begins where December ends. -/
lemma dayNumber_next_year (year : ℤ) :
    Date.dayNumber ⟨year + 1, 1, 1⟩ = Date.dayNumber ⟨year, 12, 1⟩ + daysInMonth year 12 := by
  rw [dayNumber_of_early (by decide), dayNumber_of_late (by decide), Int.add_sub_cancel]
  simp only [daysInMonth]
  omega

/-- **A month begins where the one before it ends.** -/
theorem firstOfMonth_succ (index : ℤ) :
    firstOfMonth (index + 1) = firstOfMonth index + monthLength index := by
  unfold firstOfMonth monthLength
  by_cases hmonth : index % 12 = 11
  · have hyear : (index + 1) / 12 = index / 12 + 1 := by omega
    have hnext : (index + 1) % 12 = 0 := by omega
    rw [hyear, hnext, hmonth]
    exact dayNumber_next_year (index / 12)
  · have hyear : (index + 1) / 12 = index / 12 := by omega
    have hnext : ((index + 1) % 12).toNat = (index % 12).toNat + 1 := by omega
    rw [hyear, hnext]
    exact dayNumber_next_month (index / 12) (by omega) (by omega)

/-- Months begin in their order. -/
lemma firstOfMonth_mono {index index' : ℤ} (h : index ≤ index') :
    firstOfMonth index ≤ firstOfMonth index' := by
  obtain ⟨count, rfl⟩ := Int.le.dest h
  clear h
  induction count with
  | zero => simp
  | succ count ih =>
    have hnext := firstOfMonth_succ (index + count)
    rw [Nat.cast_succ, ← Int.add_assoc]
    omega

/-- The days of a month end before the next month begins. -/
lemma dayNumber_bounds {date : Date} (h : date.isValid) :
    firstOfMonth date.monthIndex ≤ date.dayNumber ∧
      date.dayNumber < firstOfMonth (date.monthIndex + 1) := by
  obtain ⟨-, -, hfirst, hlast⟩ := Date.isValid_iff.mp h
  rw [dayNumber_eq h, firstOfMonth_succ, monthLength, Date.monthIndex_div h, Date.monthIndex_mod h]
  omega

/-- **Days are in the order of their months.** -/
theorem dayNumber_lt_of_monthIndex_lt {date date' : Date} (h : date.isValid) (h' : date'.isValid)
    (hlt : date.monthIndex < date'.monthIndex) : date.dayNumber < date'.dayNumber := by
  have hend := (dayNumber_bounds h).2
  have hbegin := (dayNumber_bounds h').1
  have hmonths := firstOfMonth_mono (show date.monthIndex + 1 ≤ date'.monthIndex by omega)
  omega

/-- **Days of a range of years lie between the first and the last day of the range.** -/
theorem dayNumber_bounds_of_years {date : Date} (h : date.isValid) {first last : ℤ}
    (hfirst : first ≤ date.year) (hlast : date.year ≤ last) :
    Date.dayNumber ⟨first, 1, 1⟩ ≤ date.dayNumber ∧
      date.dayNumber ≤ Date.dayNumber ⟨last, 12, 31⟩ := by
  obtain ⟨hbegin, hend⟩ := dayNumber_bounds h
  have hyear := Date.monthIndex_div h
  have hjanuary : firstOfMonth (12 * first) = Date.dayNumber ⟨first, 1, 1⟩ := by
    have hdiv : 12 * first / 12 = first := by omega
    have hmod : (12 * first % 12).toNat = 0 := by omega
    rw [firstOfMonth, hdiv, hmod]
  have hdecember : firstOfMonth (12 * last + 11) = Date.dayNumber ⟨last, 12, 1⟩ := by
    have hdiv : (12 * last + 11) / 12 = last := by omega
    have hmod : ((12 * last + 11) % 12).toNat = 11 := by omega
    rw [firstOfMonth, hdiv, hmod]
  constructor
  · have hmonths := firstOfMonth_mono (show 12 * first ≤ date.monthIndex by omega)
    omega
  · have hmonths := firstOfMonth_mono (show date.monthIndex + 1 ≤ 12 * last + 11 + 1 by omega)
    have hlength : monthLength (12 * last + 11) ≤ 31 := (daysInMonth_bounds _ _).2
    have hday : Date.dayNumber ⟨last, 12, 31⟩ = Date.dayNumber ⟨last, 12, 1⟩ + 30 := by
      simp only [Date.dayNumber]
      omega
    rw [firstOfMonth_succ (12 * last + 11), hdecember] at hmonths
    omega

/-! ## The dates of days -/

/-- The date of a day in a year that is counted from March. -/
def dateInMarchYear (year dayOfYear : ℤ) : Date :=
  let month := (5 * dayOfYear + 2) / 153
  { year := if month < 10 then year else year + 1
    month := (if month < 10 then month + 3 else month - 9).toNat
    day := (dayOfYear - (153 * month + 2) / 5 + 1).toNat }

/-- A day of an era stands in a century, in four years of it, in a year of these, and in that year.
Only a last year of four has a 366th day, and the last one of a century only at the end of the
era. -/
lemma exists_parts_of_era {dayOfEra : ℤ} (hfirst : 0 ≤ dayOfEra) (hlast : dayOfEra < 146097) :
    ∃ century quad year day : ℤ, dayOfEra = 36524 * century + 1461 * quad + 365 * year + day ∧
      (0 ≤ century ∧ century ≤ 3) ∧ (0 ≤ quad ∧ quad ≤ 24) ∧ (0 ≤ year ∧ year ≤ 3) ∧
      (0 ≤ day ∧ day ≤ 365) ∧ (day = 365 → year = 3 ∧ (quad = 24 → century = 3)) := by
  obtain ⟨century, hcentury⟩ : ∃ century, century = min (dayOfEra / 36524) 3 := ⟨_, rfl⟩
  obtain ⟨inCentury, hinCentury⟩ : ∃ rest, rest = dayOfEra - 36524 * century := ⟨_, rfl⟩
  obtain ⟨year, hyear⟩ : ∃ year, year = min (inCentury % 1461 / 365) 3 := ⟨_, rfl⟩
  refine ⟨century, inCentury / 1461, year, inCentury % 1461 - 365 * year, ?_, ?_, ?_, ?_, ?_, ?_⟩
  all_goals omega

/-- The year of a day in an era is the one that the parts of the day give. -/
lemma yearOfEra_eq {century quad year day : ℤ} (hcentury : 0 ≤ century ∧ century ≤ 3)
    (hquad : 0 ≤ quad ∧ quad ≤ 24) (hyear : 0 ≤ year ∧ year ≤ 3) (hday : 0 ≤ day ∧ day ≤ 365)
    (hleap : day = 365 → year = 3 ∧ (quad = 24 → century = 3)) {dayOfEra : ℤ}
    (hparts : dayOfEra = 36524 * century + 1461 * quad + 365 * year + day) :
    (dayOfEra - dayOfEra / 1460 + dayOfEra / 36524 - dayOfEra / 146096) / 365 =
      100 * century + 4 * quad + year := by
  -- the quotient by 1460 runs ahead of the leap years, by one leap day at most
  obtain ⟨shift, hshift, hquads⟩ : ∃ shift : ℤ, (0 ≤ day - shift ∧ day - shift < 365) ∧
      dayOfEra / 1460 = 25 * century + quad + shift := by
    by_cases hlate : 1460 ≤ 24 * century + quad + 365 * year + day
    · exact ⟨1, by omega, by omega⟩
    · exact ⟨0, by omega, by omega⟩
  have hcenturies : dayOfEra / 36524 - dayOfEra / 146096 = century := by
    obtain hend | hbefore : dayOfEra = 146096 ∧ century = 3 ∨
        1461 * quad + 365 * year + day < 36524 := by omega
    · rw [hend.1, hend.2]
      rfl
    · have hfull : dayOfEra / 36524 = century := by omega
      have hnone : dayOfEra / 146096 = 0 := by omega
      rw [hfull, hnone, Int.sub_zero]
  have hrest : dayOfEra - dayOfEra / 1460 + dayOfEra / 36524 - dayOfEra / 146096 =
      (day - shift) + 365 * (100 * century + 4 * quad + year) := by
    linarith only [hparts, hquads, hcenturies]
  rw [hrest, Int.add_mul_ediv_left _ _ (by decide), Int.ediv_eq_zero_of_lt hshift.1 hshift.2,
    Int.zero_add]

/-- **Every day stands in a year that is counted from March**, and has its date there. Only before
a leap day is there a 366th day. -/
theorem ofDayNumber_eq (days : ℤ) :
    ∃ year dayOfYear : ℤ, 0 ≤ dayOfYear ∧ dayOfYear ≤ 365 ∧
      (dayOfYear = 365 → isLeapYear (year + 1)) ∧ days = marchYearStart year + dayOfYear ∧
      Date.ofDayNumber days = dateInMarchYear year dayOfYear := by
  obtain ⟨century, quad, year, day, hparts, hcentury, hquad, hyear, hday, hleap⟩ :=
    exists_parts_of_era (show 0 ≤ (days + 719468) % 146097 by omega) (by omega)
  have hquads : (100 * century + 4 * quad + year) / 4 = 25 * century + quad := by omega
  have hcenturies : (100 * century + 4 * quad + year) / 100 = century := by omega
  have hdayOfYear : (days + 719468) % 146097 - (365 * (100 * century + 4 * quad + year) +
      (100 * century + 4 * quad + year) / 4 - (100 * century + 4 * quad + year) / 100) = day := by
    rw [hparts, hquads, hcenturies]
    omega
  refine ⟨100 * century + 4 * quad + year + 400 * ((days + 719468) / 146097), day, hday.1, hday.2,
    ?_, ?_, ?_⟩
  · intro hlast
    obtain ⟨rfl, hend⟩ := hleap hlast
    rw [isLeapYear_iff]
    by_cases hquad' : quad = 24
    · have hcentury' := hend hquad'
      omega
    · omega
  · have heras : (100 * century + 4 * quad + year) / 400 = 0 := by omega
    rw [marchYearStart_add_eras, marchYearStart, hquads, hcenturies, heras]
    omega
  · have hyearOfEra := yearOfEra_eq hcentury hquad hyear hday hleap hparts
    simp only [Date.ofDayNumber, dateInMarchYear, hyearOfEra, hdayOfYear]

/-- The date of a day in a year that is counted from March exists. -/
lemma isValid_dateInMarchYear {year dayOfYear : ℤ} (hfirst : 0 ≤ dayOfYear)
    (hlast : dayOfYear ≤ 365) (hleap : dayOfYear = 365 → isLeapYear (year + 1)) :
    (dateInMarchYear year dayOfYear).isValid := by
  rw [Date.isValid_iff]
  obtain ⟨month, hmonth⟩ : ∃ month, month = (5 * dayOfYear + 2) / 153 := ⟨_, rfl⟩
  have hbegin : 0 ≤ month := by omega
  have hend : month ≤ 11 := by omega
  simp only [dateInMarchYear, ← hmonth]
  by_cases hfebruary : month = 11
  · subst hfebruary
    have hlength : daysInMonth (year + 1) 2 = if isLeapYear (year + 1) then 29 else 28 := rfl
    have hday : dayOfYear = 365 → daysInMonth (year + 1) 2 = 29 := fun hday => by
      rw [hlength, if_pos (hleap hday)]
    have hshort := (daysInMonth_bounds (year + 1) 2).1
    refine ⟨by decide, by decide, by omega, ?_⟩
    change (dayOfYear - 337 + 1).toNat ≤ daysInMonth (year + 1) 2
    omega
  · -- in all other months the number of days does not hang on the year
    interval_cases month
    all_goals first
      | exact absurd rfl hfebruary
      | exact ⟨by decide, by decide, by omega, by simp [daysInMonth]; omega⟩

/-- The number of the date of a day in a year that is counted from March. -/
lemma dayNumber_dateInMarchYear {year dayOfYear : ℤ} (hfirst : 0 ≤ dayOfYear)
    (hlast : dayOfYear ≤ 365) :
    (dateInMarchYear year dayOfYear).dayNumber = marchYearStart year + dayOfYear := by
  obtain ⟨month, hmonth⟩ : ∃ month, month = (5 * dayOfYear + 2) / 153 := ⟨_, rfl⟩
  have hday : 0 ≤ dayOfYear - (153 * month + 2) / 5 := by omega
  have hbegin : 0 ≤ month := by omega
  have hend : month ≤ 11 := by omega
  simp only [dateInMarchYear, ← hmonth]
  by_cases hlate : month < 10
  · simp only [hlate, if_true]
    rw [dayNumber_of_late (by omega)]
    omega
  · simp only [hlate, if_false]
    rw [dayNumber_of_early (by omega), Int.add_sub_cancel]
    omega

/-- **Every day is the day of a date that exists.** -/
theorem isValid_ofDayNumber (days : ℤ) : (Date.ofDayNumber days).isValid := by
  obtain ⟨year, dayOfYear, hfirst, hlast, hleap, -, hdate⟩ := ofDayNumber_eq days
  rw [hdate]
  exact isValid_dateInMarchYear hfirst hlast hleap

/-- **The date of a day has that day for its number.** -/
theorem dayNumber_ofDayNumber (days : ℤ) : (Date.ofDayNumber days).dayNumber = days := by
  obtain ⟨year, dayOfYear, hfirst, hlast, -, hdays, hdate⟩ := ofDayNumber_eq days
  rw [hdate, dayNumber_dateInMarchYear hfirst hlast, ← hdays]

/-- Dates that exist and have the same number are the same. -/
lemma eq_of_dayNumber_eq {date date' : Date} (h : date.isValid) (h' : date'.isValid)
    (hdays : date.dayNumber = date'.dayNumber) : date = date' := by
  have hindex : date.monthIndex = date'.monthIndex := by
    rcases lt_trichotomy date.monthIndex date'.monthIndex with hlt | heq | hgt
    · exact absurd hdays (dayNumber_lt_of_monthIndex_lt h h' hlt).ne
    · exact heq
    · exact absurd hdays (dayNumber_lt_of_monthIndex_lt h' h hgt).ne'
  have hyear : date.year = date'.year := by
    rw [← Date.monthIndex_div h, hindex, Date.monthIndex_div h']
  have hmonth : date.month = date'.month := by
    rw [← Date.monthIndex_mod h, hindex, Date.monthIndex_mod h']
  have hday : date.day = date'.day := by
    rw [dayNumber_eq h, dayNumber_eq h', hindex] at hdays
    omega
  obtain ⟨year, month, day⟩ := date
  obtain ⟨year', month', day'⟩ := date'
  exact congr (congr (congrArg Date.mk hyear) hmonth) hday

/-- **A date that exists is the date of its number.** -/
theorem ofDayNumber_dayNumber {date : Date} (h : date.isValid) :
    Date.ofDayNumber date.dayNumber = date :=
  eq_of_dayNumber_eq (isValid_ofDayNumber _) h (dayNumber_ofDayNumber _)

end SheetFormula.Calendar
