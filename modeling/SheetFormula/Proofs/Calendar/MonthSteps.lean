import SheetFormula.Proofs.Calendar.Timestamp
import Mathlib.Data.Set.Defs

/-!
# Steps of months

Months are numbered from the start of year zero. A step of months goes from a point to the month of
which the number is that much greater, to the same day of the month or the last one there is, at the
same time of day; it does so whenever the year of that month is in the range of dates. Longer steps
lead to later points, so the steps that do not lead beyond a bound are the shorter ones.

## Main definitions

* `SheetFormula.Calendar.Timestamp.monthSteps` — the steps of months that there are from a point.
* `SheetFormula.Calendar.Timestamp.monthStepsUpTo` — those of them that do not lead beyond a bound.

## Main results

* `SheetFormula.Calendar.Timestamp.mem_monthSteps_iff` — there is a step if its year is in range.
* `SheetFormula.Calendar.Timestamp.date_of_addMonths?` — where a step leads.
* `SheetFormula.Calendar.Timestamp.before_of_addMonths?_lt` — a longer step leads further.
* `SheetFormula.Calendar.Timestamp.steps_of_months` — all of it.
-/

set_option relaxedAutoImplicit false
set_option autoImplicit false

namespace SheetFormula.Calendar.Timestamp

variable {t r r' bound : Timestamp} {months months' : ℤ}

/-! ## Steps and where they lead -/

/-- The steps of months that there are from a point. -/
def monthSteps (t : Timestamp) : Set ℤ :=
  {months | ∃ r, t.addMonths? months = some r}

/-- The steps of months from a point that do not lead beyond a bound. -/
def monthStepsUpTo (t bound : Timestamp) : Set ℤ :=
  {months | ∃ r, t.addMonths? months = some r ∧ bound.before r = false}

/-- The year to which a step of months leads. -/
lemma year_monthStep (t : Timestamp) (months : ℤ) :
    (t.monthStep months).year = (t.date.monthIndex + months) / 12 :=
  rfl

/-- **There is a step if its year is in the range of dates.** -/
theorem mem_monthSteps_iff :
    months ∈ t.monthSteps ↔ firstYear ≤ (t.date.monthIndex + months) / 12 ∧
      (t.date.monthIndex + months) / 12 ≤ lastYear := by
  rw [← year_monthStep]
  constructor
  · rintro ⟨r, h⟩
    exact (addMonths?_eq_some.mp h).1
  · intro h
    exact ⟨_, addMonths?_eq_some.mpr ⟨h, rfl⟩⟩

/-- From the range of dates there are no steps of `2 ^ 31` months or more, forward or back. -/
lemma natAbs_lt_of_mem_monthSteps (hrange : t.inRange) (h : months ∈ t.monthSteps) :
    months.natAbs < 2 ^ 31 := by
  obtain ⟨hfirst, hlast⟩ := mem_monthSteps_iff.mp h
  obtain ⟨hfirst', hlast'⟩ := year_bounds_of_inRange hrange
  rw [← Date.monthIndex_div t.isValid_date] at hfirst' hlast'
  unfold firstYear lastYear at *
  omega

/-- The second of the day of a point that is given by day and second of the day. -/
lemma secondOfDay_ofDay {day : ℤ} {second nanos : ℕ} (h : second < 86400) :
    (ofDay day second nanos).secondOfDay = second := by
  unfold secondOfDay ofDay secondsPerDay
  dsimp only
  omega

/-- **A step of months leads to a date a number of months later, at the same time of day.** -/
theorem date_of_addMonths? (h : t.addMonths? months = some r) :
    r.date = t.monthStep months ∧ r.secondOfDay = t.secondOfDay ∧ r.nanos = t.nanos := by
  obtain ⟨-, rfl⟩ := addMonths?_eq_some.mp h
  have hsecond := t.seconds_eq.2
  refine ⟨?_, secondOfDay_ofDay hsecond, rfl⟩
  rw [date, dayNumber_ofDay hsecond, ofDayNumber_dayNumber (t.isValid_monthStep months)]

/-! ## Order -/

/-- **A longer step of months leads further.** -/
theorem before_of_addMonths?_lt (hlt : months < months') (h : t.addMonths? months = some r)
    (h' : t.addMonths? months' = some r') : r.before r' := by
  obtain ⟨-, rfl⟩ := addMonths?_eq_some.mp h
  obtain ⟨-, rfl⟩ := addMonths?_eq_some.mp h'
  have hindex := t.monthIndex_monthStep months
  have hindex' := t.monthIndex_monthStep months'
  have hdays := dayNumber_lt_of_monthIndex_lt (t.isValid_monthStep months)
    (t.isValid_monthStep months') (by omega)
  refine before_of_dayNumber_lt ?_
  rwa [dayNumber_ofDay t.seconds_eq.2, dayNumber_ofDay t.seconds_eq.2]

/-- What is before another point is not behind it. -/
lemma before_eq_false_of_before (h : r.before r') : r'.before r = false := by
  rw [before_iff] at h
  rw [before_eq_false_iff]
  omega

/-- The steps that do not lead beyond a bound are steps that there are. -/
lemma monthStepsUpTo_subset : t.monthStepsUpTo bound ⊆ t.monthSteps := by
  rintro months ⟨r, hr, -⟩
  exact ⟨r, hr⟩

/-- A step that is no longer than one that does not lead beyond a bound does not do so, either. -/
lemma mem_monthStepsUpTo_of_le (hle : months ≤ months') (h : months ∈ t.monthSteps)
    (h' : months' ∈ t.monthStepsUpTo bound) : months ∈ t.monthStepsUpTo bound := by
  obtain ⟨r, hr⟩ := h
  obtain ⟨r', hr', hbound⟩ := h'
  refine ⟨r, hr, ?_⟩
  obtain rfl | hlt := eq_or_lt_of_le hle
  · obtain rfl := Option.some.inj (hr.symm.trans hr')
    exact hbound
  · have hbefore := before_of_addMonths?_lt hlt hr hr'
    exact before_eq_false_trans (before_eq_false_of_before hbefore) hbound

/-- From the range of dates, all steps between none and one that there is exist as well. -/
lemma mem_monthSteps_of_nonneg (hrange : t.inRange) (hpos : 0 ≤ months) (hle : months ≤ months')
    (h : months' ∈ t.monthSteps) : months ∈ t.monthSteps := by
  obtain ⟨r', hr'⟩ := h
  obtain ⟨r, hr, -⟩ := addMonths?_mono hrange hpos hle hr'
  exact ⟨r, hr⟩

/-! ## All of it -/

/-- **Steps of months.** There is a step exactly where the year of the month to which it goes is in
the range of dates. It leads to the month of which the number is so much greater, to the same day or
the last one of that month, at the same time of day. Longer steps lead further; so among the steps
that there are, those that do not lead beyond a bound are the shorter ones. From the range of dates
there are no steps of `2 ^ 31` months or more, so that every step is one forward or back by a count
of months, and with a step forward that does not lead beyond a bound there are all shorter steps
forward, and none of them leads beyond it.

**Proof sketch.** The number of the month decides which year and month a step goes to, and days are
in the order of their months. -/
theorem steps_of_months (t : Timestamp) :
    (∀ months, months ∈ t.monthSteps ↔ firstYear ≤ (t.date.monthIndex + months) / 12 ∧
      (t.date.monthIndex + months) / 12 ≤ lastYear) ∧
    (∀ months r, t.addMonths? months = some r →
      r.date.monthIndex = t.date.monthIndex + months ∧
        r.date.day = min t.date.day (daysInMonth r.date.year r.date.month) ∧
        r.secondOfDay = t.secondOfDay ∧ r.nanos = t.nanos) ∧
    (∀ months months' r r', months < months' → t.addMonths? months = some r →
      t.addMonths? months' = some r' → r.before r') ∧
    (∀ bound months months', months ≤ months' → months ∈ t.monthSteps →
      months' ∈ t.monthStepsUpTo bound → months ∈ t.monthStepsUpTo bound) ∧
    (t.inRange → (∀ months ∈ t.monthSteps, months.natAbs < 2 ^ 31) ∧
      (∀ months, t.stepMonths? months = t.addMonths? months) ∧
      ∀ bound months months', 0 ≤ months → months ≤ months' →
        months' ∈ t.monthStepsUpTo bound → months ∈ t.monthStepsUpTo bound) := by
  refine ⟨fun months => mem_monthSteps_iff, fun months r h => ?_,
    fun months months' r r' hlt h h' => before_of_addMonths?_lt hlt h h',
    fun bound months months' hle h h' => mem_monthStepsUpTo_of_le hle h h',
    fun hrange => ⟨fun months => natAbs_lt_of_mem_monthSteps hrange, stepMonths?_eq hrange, ?_⟩⟩
  · obtain ⟨hdate, hsecond, hnanos⟩ := date_of_addMonths? h
    rw [hdate]
    exact ⟨t.monthIndex_monthStep months, rfl, hsecond, hnanos⟩
  · intro bound months months' hpos hle h'
    have hstep := mem_monthSteps_of_nonneg hrange hpos hle (monthStepsUpTo_subset h')
    exact mem_monthStepsUpTo_of_le hle hstep h'

/-- From noon of the last day of January in a leap year, one month leads to the last day of February
and two months to that of March. -/
theorem steps_of_months_from_january :
    let t := ofDay (Date.dayNumber ⟨2024, 1, 31⟩) 43200 0
    let r := ofDay (Date.dayNumber ⟨2024, 2, 29⟩) 43200 0
    let r' := ofDay (Date.dayNumber ⟨2024, 3, 31⟩) 43200 0
    (t.inRange ∧ t.addMonths? 1 = some r ∧ t.addMonths? 2 = some r') ∧
      r.date.day = min t.date.day (daysInMonth r.date.year r.date.month) ∧ r.before r' ∧
      1 ∈ t.monthStepsUpTo r' := by
  intro t r r'
  have hrange : t.inRange := by decide +kernel
  have hstep : t.addMonths? 1 = some r := by decide +kernel
  have hstep' : t.addMonths? 2 = some r' := by decide +kernel
  obtain ⟨-, hleads, hlonger, -, hfrom⟩ := steps_of_months t
  have hbound : 2 ∈ t.monthStepsUpTo r' := ⟨r', hstep', by decide +kernel⟩
  exact ⟨⟨hrange, hstep, hstep'⟩, (hleads 1 r hstep).2.1, hlonger 1 2 r r' (by decide) hstep hstep',
    (hfrom hrange).2.2 r' 1 2 (by decide) (by decide) hbound⟩

end SheetFormula.Calendar.Timestamp
