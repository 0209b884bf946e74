import SheetFormula.Proofs.Moment.Range
import SheetFormula.Proofs.Zone.Resolution

/-!
# Steps by nothing

A step by no days or no months leaves a wall-clock time as it is, leap seconds included, and a step
by no milliseconds an instant. A moment that is stepped by nothing is therefore found again from its
wall clock: as the first instant at which the clock shows that time. Clock units do not go through
the wall clock, and the moment stays where it is.

## Main results

* `SheetFormula.Calendar.Timestamp.plusMillis_zero`, `addMonths?_zero`, `plusDays?_zero` — steps by
  nothing in time.
* `SheetFormula.Moment.plus_zero` — what a moment is stepped to by nothing.
* `SheetFormula.Moment.plus_zero_of_second_showing` — a moment that is stepped back by nothing.
-/

set_option relaxedAutoImplicit false
set_option autoImplicit false

namespace SheetFormula

open SheetFormula.Calendar (Date Timestamp nanosPerSecond daysInMonth monthLength)

/-! ## Points in time -/

namespace Calendar.Timestamp

variable {t : Timestamp}

/-- A step by no time leads nowhere. The nanoseconds of a point are those of a second, or twice as
many in a leap second. -/
lemma plus_zero_zero (hnanos : t.nanos < 2 * nanosPerSecond) : t.plus 0 0 = t := by
  obtain ⟨seconds, nanos⟩ := t
  unfold nanosPerSecond at hnanos
  dsimp only at hnanos
  unfold plus isLeap normal nanosPerSecond
  dsimp only
  split_ifs with hleap hforward hback
  · omega
  · omega
  · rw [mk.injEq]
    omega
  · simp only [decide_eq_true_eq] at hleap
    rw [mk.injEq]
    omega

/-- **A step by no milliseconds leads nowhere.** -/
theorem plusMillis_zero (hnanos : t.nanos < 2 * nanosPerSecond) : t.plusMillis 0 = t := by
  rw [plusMillis, Int.zero_tdiv, Int.zero_tmod, Int.zero_mul, plus_zero_zero hnanos]

/-- **A step by no days leads nowhere.** -/
theorem plusDays?_zero (hrange : t.inRange) (hnanos : t.nanos < 2 * nanosPerSecond) :
    t.plusDays? 0 = some t := by
  rw [plusDays?, Int.zero_mul, plus_zero_zero hnanos]
  exact checked_eq_some.mpr ⟨rfl, hrange⟩

/-- The date no months later is the same. -/
lemma monthStep_zero (t : Timestamp) : t.monthStep 0 = t.date := by
  have hvalid := t.isValid_date
  obtain ⟨-, -, -, hday⟩ := Date.isValid_iff.mp hvalid
  have hlength : monthLength t.date.monthIndex = daysInMonth t.date.year t.date.month := by
    rw [monthLength, Date.monthIndex_div hvalid, Date.monthIndex_mod hvalid]
  unfold monthStep
  dsimp only
  rw [add_zero, Date.monthIndex_div hvalid, Date.monthIndex_mod hvalid, hlength,
    Nat.min_eq_left hday]

/-- **A step by no months leads nowhere.** -/
theorem addMonths?_zero (hrange : t.inRange) : t.addMonths? 0 = some t := by
  refine addMonths?_eq_some.mpr ⟨?_, ?_⟩
  · rw [monthStep_zero]
    exact year_bounds_of_inRange hrange
  · rw [monthStep_zero, date, Calendar.dayNumber_ofDayNumber, ofDay, ← t.seconds_eq.1]

end Calendar.Timestamp

/-! ## Moments -/

namespace Moment

/-- What a step by nothing comes to is what a whole step by no units does. -/
lemma plus_zero_eq {moment : Moment} (hwall : moment.wallClock.inRange) (unit : DateUnit)
    {instant : Timestamp} (h : moment.plusWhole? 0 unit = some instant) :
    moment.plus 0.0 unit = .ok { moment with instant } := by
  have hcount : Number.truncated? 0.0 = some 0 := by decide +kernel
  have hsmall : ¬ greatestAmount < Float.abs 0.0 := by decide +kernel
  have hwhole : (Number.whole? 0.0).isSome := by decide +kernel
  have hcalendar : ¬ (unit.movesClock && !moment.onCalendar) = true := by simp [onCalendar, hwall]
  simp only [plus, hcount, if_neg hsmall, if_neg hcalendar, if_pos hwhole, h]

variable {moment : Moment} {unit : DateUnit}

/-- A whole step by no units of a clock leads nowhere. -/
lemma plusWhole?_zero_of_clock (hinstant : moment.instant.inRange)
    (hnanos : moment.instant.nanos < 2 * nanosPerSecond) (hmonths : unit.months? = none)
    (hdays : unit.days? = none) : moment.plusWhole? 0 unit = some moment.instant := by
  simp only [plusWhole?, hmonths, hdays, Int.zero_mul]
  rw [Timestamp.plusMillis?, Timestamp.plusMillis_zero hnanos]
  exact Timestamp.checked_eq_some.mpr ⟨rfl, hinstant⟩

/-- A whole step by no units of a calendar finds an instant for the same wall-clock time. -/
lemma plusWhole?_zero_of_calendar (hwall : moment.wallClock.inRange)
    (hnanos : moment.instant.nanos < 2 * nanosPerSecond)
    (hunit : unit.months?.isSome ∨ unit.days?.isSome) :
    moment.plusWhole? 0 unit = moment.zone.instantAt? moment.wallClock := by
  have hnanos' : moment.wallClock.nanos < 2 * nanosPerSecond := hnanos
  unfold plusWhole?
  split
  · rw [Int.zero_mul, Timestamp.stepMonths?_eq hwall, Timestamp.addMonths?_zero hwall]
    rfl
  · rw [Int.zero_mul, Timestamp.plusDays?_zero hwall hnanos']
    rfl
  · next hmonths hdays => simp [hmonths, hdays] at hunit

/-- **Stepping by nothing.** A moment of which the instant and the wall clock are in the range of
dates can be stepped by nothing in every unit, and keeps its zone, its kind and its wall-clock time.
In clock units it keeps its instant. In calendar units it goes to the first instant at which the
clock shows that time; so it keeps its instant if that is the first one, and always does so in
universal time and with a fixed offset.

**Proof sketch.** The step leaves the instant or the wall-clock time as it is. What the clock shows
at an instant is found as the first instant at which it is shown, and there is only one such. -/
theorem plus_zero (hproper : moment.zone.IsProper) (hcivil : moment.zone.HasCivilChanges)
    (hinstant : moment.instant.inRange) (hwall : moment.wallClock.inRange)
    (hnanos : moment.instant.nanos < 2 * nanosPerSecond) (unit : DateUnit) :
    ∃ instant, moment.plus 0.0 unit = .ok { moment with instant } ∧
      moment.zone.wallClock instant = moment.wallClock ∧
      (unit.months? = none → unit.days? = none → instant = moment.instant) ∧
      (unit.months?.isSome ∨ unit.days?.isSome → moment.zone.IsFirst instant) ∧
      (moment.zone.IsFirst moment.instant → instant = moment.instant) ∧
      (moment.zone = .utc ∨ (∃ offset, moment.zone = .fixed offset) →
        instant = moment.instant) := by
  have hfixed : moment.zone = .utc ∨ (∃ offset, moment.zone = .fixed offset) →
      moment.zone.IsFirst moment.instant := by
    rintro (hzone | ⟨offset, hzone⟩)
    all_goals
      rw [hzone]
      exact Zone.isFirst_of_offsetAt_eq fun _ => rfl
  by_cases hunit : unit.months?.isSome ∨ unit.days?.isSome
  · obtain ⟨first, hfound, hshown, hfirst⟩ :=
      Zone.exists_instantAt?_wallClock hproper hcivil hinstant
    have hsame (h : moment.zone.IsFirst moment.instant) : first = moment.instant :=
      h.eq hfirst hshown
    have hstep := (plusWhole?_zero_of_calendar hwall hnanos hunit).trans hfound
    refine ⟨first, plus_zero_eq hwall unit hstep, hshown, fun hmonths hdays => ?_,
      fun _ => hfirst, hsame, fun hzone => hsame (hfixed hzone)⟩
    simp [hmonths, hdays] at hunit
  · have hclock : unit.months? = none ∧ unit.days? = none := by simpa [not_or] using hunit
    have hstep := plusWhole?_zero_of_clock hinstant hnanos hclock.1 hclock.2
    exact ⟨moment.instant, plus_zero_eq hwall unit hstep, rfl, fun _ _ => rfl,
      fun h => absurd h hunit, fun _ => rfl, fun _ => rfl⟩

/-- Half past two in the night in which Berlin puts its clock back from three to two, seen for the
second time: in months it is stepped to the first instant of that time, and in hours to itself. -/
theorem plus_zero_in_berlin :
    let moment : Moment :=
      ⟨⟨1761442200, 0⟩, .named "Europe/Berlin" Zone.centralEurope, .dateTime⟩
    Zone.ofText? "Europe/Berlin" = some moment.zone ∧
      (∃ instant, moment.plus 0.0 .months = .ok { moment with instant } ∧
        moment.zone.wallClock instant = moment.wallClock ∧ moment.zone.IsFirst instant) ∧
      moment.plus 0.0 .hours = .ok moment := by
  intro moment
  have hzone : Zone.ofText? "Europe/Berlin" = some moment.zone := by decide +kernel
  have hinstant : moment.instant.inRange := by decide
  have hwall : moment.wallClock.inRange := by decide +kernel
  have hnanos : moment.instant.nanos < 2 * nanosPerSecond := by decide
  have hproper : moment.zone.IsProper := by decide +kernel
  have hcivil : moment.zone.HasCivilChanges := by
    change Zone.centralEurope.HasCivilChanges
    decide +kernel
  have hzero := plus_zero hproper hcivil hinstant hwall hnanos
  obtain ⟨first, hmonths, hshown, -, hfirst, -⟩ := hzero .months
  obtain ⟨same, hhours, -, hclock, -⟩ := hzero .hours
  rw [hclock rfl rfl] at hhours
  exact ⟨hzone, ⟨first, hmonths, hshown, hfirst (.inl rfl)⟩, hhours⟩

/-- **A moment that is stepped back by nothing**: the second half past two of that night is stepped
by no days to the first one, an hour before. -/
theorem plus_zero_of_second_showing :
    let moment : Moment :=
      ⟨⟨1761442200, 0⟩, .named "Europe/Berlin" Zone.centralEurope, .dateTime⟩
    Zone.ofText? "Europe/Berlin" = some moment.zone ∧ moment.wallClock.inRange ∧
      moment.plus 0.0 .days = .ok { moment with instant := ⟨1761438600, 0⟩ } ∧
      moment.plus 0.0 .days ≠ .ok moment := by
  intro moment
  have hstep : moment.plusWhole? 0 .days = some ⟨1761438600, 0⟩ := by decide +kernel
  have hwall : moment.wallClock.inRange := by decide +kernel
  have hplus := plus_zero_eq hwall .days hstep
  refine ⟨by decide +kernel, hwall, hplus, ?_⟩
  rw [hplus]
  simp [moment]

end Moment

end SheetFormula
