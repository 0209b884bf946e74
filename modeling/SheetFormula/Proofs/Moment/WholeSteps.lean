import SheetFormula.Proofs.Moment.Range
import SheetFormula.Proofs.Number.Whole

/-!
# Whole steps without a change of the clock

In universal time and with a fixed offset a day always has as many seconds, and a step of any number
of weeks, days, hours, minutes or seconds is a shift of the instant. It only fails at the ends of
the range of dates. So such steps are composed by adding their amounts, and a step back undoes a
step.

## Main definitions

* `SheetFormula.DateUnit.duration` — the length of a unit.
* `SheetFormula.Zone.IsSteady` — the zones of which the offset never changes.

## Main results

* `SheetFormula.Moment.plusWhole?_eq_some_iff` — what a whole step is, and when there is one.
* `SheetFormula.Moment.plus_ofInt_eq_ok_iff` — steps by whole amounts.
* `SheetFormula.Moment.plus_group_action` — how steps are composed and undone.
-/

set_option relaxedAutoImplicit false
set_option autoImplicit false

namespace SheetFormula

open SheetFormula.Calendar (Timestamp)

/-! ## Units and zones -/

namespace DateUnit

/-- The length of a unit in seconds. -/
def duration (unit : DateUnit) : ℤ :=
  unit.millis / 1000

/-- Units are whole seconds long. -/
lemma millis_eq (unit : DateUnit) : unit.millis = unit.duration * 1000 := by
  cases unit <;> rfl

/-- Of the units that are not counted in months, those that are counted in days move the clock. -/
lemma movesClock_of_months? {unit : DateUnit} (h : unit.months? = none) :
    unit.movesClock = unit.days?.isSome := by
  rw [movesClock, h, Option.isSome_none, Bool.false_or]

/-- A unit that is counted in days is as long as these. -/
lemma duration_eq_of_days? {unit : DateUnit} {days : ℤ} (h : unit.days? = some days) :
    unit.duration = days * 86400 := by
  cases unit <;> cases h <;> rfl

end DateUnit

/-- A zone of which the offset never changes: universal time, or one with a fixed offset. -/
def Zone.IsSteady (zone : Zone) : Prop :=
  zone = .utc ∨ ∃ offset, zone = .fixed offset

namespace Zone

variable {zone : Zone} {instant : Timestamp}

/-- The wall clock of a steady zone is ahead by the same offset at every instant. -/
lemma IsSteady.wallClock_shift (h : zone.IsSteady) (instant : Timestamp) (seconds : ℤ) :
    zone.wallClock (instant.shift seconds) = (zone.wallClock instant).shift seconds := by
  obtain rfl | ⟨offset, rfl⟩ := h
  all_goals
    simp only [wallClock, offsetAt, Timestamp.shift_shift, Int.add_comm]

/-- A steady zone finds the one instant at which its clock shows a time in the range of dates, if
that instant is in the range itself. -/
lemma IsSteady.instantAt?_wallClock (h : zone.IsSteady)
    (hwall : (zone.wallClock instant).inRange) :
    zone.instantAt? (zone.wallClock instant) = instant.checked := by
  obtain rfl | ⟨offset, rfl⟩ := h
  · have hsame : utc.wallClock instant = instant := instant.shift_zero
    rw [hsame] at hwall ⊢
    exact (if_pos hwall).symm
  · change ((instant.shift offset).shift (-offset)).checked = instant.checked
    rw [Timestamp.shift_shift, Int.add_right_neg, Timestamp.shift_zero]

end Zone

/-! ## Steps -/

namespace Moment

section Steady

variable (moment : Moment) (hzone : moment.zone.IsSteady)
  (hleap : moment.instant.isLeap = false) {unit : DateUnit} (hmonths : unit.months? = none)

include hzone hleap hmonths

/-- **A whole step in a steady zone is a shift of the instant.** It stays in the range of dates, and
so does the wall clock in units that are counted in days; otherwise there is no such step. -/
theorem plusWhole?_eq_some_iff {count : ℤ} {instant : Timestamp} :
    moment.plusWhole? count unit = some instant ↔
      moment.instant.shift (count * unit.duration) = instant ∧ instant.inRange ∧
        (unit.days?.isSome → (moment.zone.wallClock instant).inRange) := by
  unfold plusWhole?
  rw [hmonths]
  cases hdays : unit.days? with
  | none =>
    have hmillis : moment.instant.plusMillis (count * unit.millis) =
        moment.instant.shift (count * unit.duration) := by
      rw [unit.millis_eq, ← Int.mul_assoc]
      exact Timestamp.plusMillis_of_not_isLeap hleap _
    dsimp only
    rw [Timestamp.plusMillis?, hmillis, Timestamp.checked_eq_some]
    constructor
    · rintro ⟨rfl, hrange⟩
      exact ⟨rfl, hrange, by simp⟩
    · rintro ⟨rfl, hrange, -⟩
      exact ⟨rfl, hrange⟩
  | some days =>
    have hwallLeap : moment.wallClock.isLeap = false := hleap
    have hwall : moment.wallClock.plusDays? (count * days) =
        (moment.zone.wallClock (moment.instant.shift (count * unit.duration))).checked := by
      rw [Timestamp.plusDays?_of_not_isLeap hwallLeap, DateUnit.duration_eq_of_days? hdays,
        hzone.wallClock_shift, Int.mul_assoc]
      rfl
    dsimp only
    rw [hwall]
    constructor
    · intro h
      obtain ⟨wall, hchecked, hfound⟩ := Option.bind_eq_some_iff.mp h
      obtain ⟨rfl, hrange⟩ := Timestamp.checked_eq_some.mp hchecked
      rw [hzone.instantAt?_wallClock hrange] at hfound
      obtain ⟨rfl, hinstant⟩ := Timestamp.checked_eq_some.mp hfound
      exact ⟨rfl, hinstant, fun _ => hrange⟩
    · rintro ⟨rfl, hinstant, hrange⟩
      have hrange := hrange rfl
      refine Option.bind_eq_some_iff.mpr ⟨_, Timestamp.checked_eq_some.mpr ⟨rfl, hrange⟩, ?_⟩
      rw [hzone.instantAt?_wallClock hrange]
      exact Timestamp.checked_eq_some.mpr ⟨rfl, hinstant⟩

end Steady

/-- An amount that is a whole number, and not too large, is stepped as such. Where that moves the
wall clock, it must be on the calendar. -/
lemma plus_ofInt_eq_ok_iff {moment stepped : Moment} {count : ℤ} (hcount : |count| ≤ 10 ^ 12)
    {unit : DateUnit} :
    moment.plus (Number.ofInt count) unit = .ok stepped ↔
      (unit.movesClock → moment.onCalendar) ∧
        ∃ instant, moment.plusWhole? count unit = some instant ∧
          stepped = { moment with instant } := by
  have hbound : count.natAbs ≤ 10 ^ 12 := by
    rw [Int.abs_eq_natAbs] at hcount
    exact_mod_cast hcount
  have hwhole : Number.whole? (Number.ofInt count) = some count := Number.whole?_ofInt (by omega)
  have hgreatest : greatestAmount = Number.ofInt (10 ^ 12 : ℕ) := by decide +kernel
  have hsmall : ¬ greatestAmount < (Number.ofInt count).abs := by
    rw [Number.abs_ofInt (by omega), hgreatest, Number.ofInt_lt_ofInt_iff (by decide) (by omega)]
    omega
  simp only [plus, Number.truncated?_of_whole? hwhole, if_neg hsmall, hwhole, Option.isSome_some,
    if_true]
  split_ifs with hstops
  · simp only [Bool.and_eq_true, Bool.not_eq_true'] at hstops
    simp [hstops]
  · simp only [Bool.and_eq_true, Bool.not_eq_true', not_and, Bool.not_eq_false] at hstops
    rw [and_iff_right hstops]
    cases moment.plusWhole? count unit with
    | none => simp
    | some instant => simp [eq_comm]

/-- **Whole steps in steady zones are composed by adding their amounts.** Outside leap seconds, in
universal time and with a fixed offset, two steps of weeks, days, hours, minutes or seconds lead
where one step by both amounts does, across the ends of days, months and years. A step keeps the
zone and the kind of a moment, and in days and weeks also the time of day on its wall clock. The
step back leads to the same moment; it only fails if that moment was not in the range of dates to
begin with, or if it is taken in days or weeks and its wall clock was not.

**Proof sketch.** Each of the steps is a shift of the instant, by the length of the unit times the
amount. Where the first step and the second one stop is where the step by both stops, so it is in
the range of dates; and what the step back comes to is the moment itself. -/
theorem plus_group_action {moment stepped : Moment} (hzone : moment.zone.IsSteady)
    (hleap : moment.instant.isLeap = false) {unit : DateUnit} (hmonths : unit.months? = none)
    {a b : ℤ} (ha : |a| ≤ 10 ^ 12) (hb : |b| ≤ 10 ^ 12) (hab : |a + b| ≤ 10 ^ 12)
    (hstep : moment.plus (Number.ofInt a) unit = .ok stepped) :
    (∀ final, stepped.plus (Number.ofInt b) unit = .ok final ↔
      moment.plus (Number.ofInt (a + b)) unit = .ok final) ∧
    stepped.zone = moment.zone ∧ stepped.kind = moment.kind ∧
    (unit.days?.isSome → stepped.wallClock.secondOfDay = moment.wallClock.secondOfDay ∧
      stepped.wallClock.nanos = moment.wallClock.nanos) ∧
    (stepped.plus (Number.ofInt (-a)) unit = .ok moment ↔
      moment.instant.inRange ∧ (unit.days?.isSome → moment.wallClock.inRange)) := by
  obtain ⟨hclock, instant, hinstant, rfl⟩ := (plus_ofInt_eq_ok_iff ha).mp hstep
  obtain ⟨rfl, -, hclock'⟩ := (plusWhole?_eq_some_iff moment hzone hleap hmonths).mp hinstant
  -- A step that moves the clock begins and ends on the calendar.
  rw [DateUnit.movesClock_of_months? hmonths] at hclock
  have hclock'' : unit.days?.isSome →
      onCalendar { moment with instant := moment.instant.shift (a * unit.duration) } := hclock'
  -- A second step starts from the shifted instant, in the same zone.
  have hsecond (count : ℤ) (final : Timestamp) :
      plusWhole? { moment with instant := moment.instant.shift (a * unit.duration) } count unit =
          some final ↔
        (moment.instant.shift (a * unit.duration)).shift (count * unit.duration) = final ∧
          final.inRange ∧ (unit.days?.isSome → (moment.zone.wallClock final).inRange) :=
    plusWhole?_eq_some_iff { moment with instant := moment.instant.shift (a * unit.duration) }
      hzone hleap hmonths
  have hboth (final : Timestamp) :
      plusWhole? { moment with instant := moment.instant.shift (a * unit.duration) } b unit =
          some final ↔ moment.plusWhole? (a + b) unit = some final := by
    rw [hsecond, plusWhole?_eq_some_iff moment hzone hleap hmonths, Timestamp.shift_shift, Int.add_mul]
  refine ⟨fun final => ?_, rfl, rfl, fun hdays => ⟨?_, rfl⟩, ?_⟩
  · rw [plus_ofInt_eq_ok_iff hb, plus_ofInt_eq_ok_iff hab, DateUnit.movesClock_of_months? hmonths]
    simp only [hboth, and_iff_right hclock, and_iff_right hclock'']
  · obtain ⟨days, hdays⟩ := Option.isSome_iff_exists.mp hdays
    change (moment.zone.wallClock (moment.instant.shift (a * unit.duration))).secondOfDay = _
    rw [hzone.wallClock_shift, DateUnit.duration_eq_of_days? hdays, ← Int.mul_assoc,
      Timestamp.secondOfDay_shift]
    rfl
  · have hback : (moment.instant.shift (a * unit.duration)).shift (-a * unit.duration) =
        moment.instant := by
      rw [Timestamp.shift_shift, ← Int.add_mul, Int.add_right_neg, Int.zero_mul,
        Timestamp.shift_zero]
    rw [plus_ofInt_eq_ok_iff (by rwa [abs_neg]), DateUnit.movesClock_of_months? hmonths,
      and_iff_right hclock'']
    constructor
    · rintro ⟨instant, hinstant, hsame⟩
      obtain rfl : moment.instant = instant := congrArg Moment.instant hsame
      exact ((hsecond _ _).mp hinstant).2
    · intro hrange
      exact ⟨moment.instant, (hsecond _ _).mpr ⟨hback, hrange⟩, rfl⟩

/-- The last evening of a year at half past three hours ahead of universal time, stepped by two days
and from there by five days back, and back to where it was. -/
theorem plus_group_action_at_year_end :
    let moment : Moment := ⟨⟨1735673400, 0⟩, .fixed 12600, .dateTime⟩
    let stepped : Moment := ⟨⟨1735846200, 0⟩, .fixed 12600, .dateTime⟩
    let final : Moment := ⟨⟨1735414200, 0⟩, .fixed 12600, .dateTime⟩
    moment.plus (Number.ofInt 2) .days = .ok stepped ∧
      stepped.plus (Number.ofInt (-5)) .days = .ok final ∧
      moment.plus (Number.ofInt (2 + -5)) .days = .ok final ∧
      stepped.wallClock.secondOfDay = moment.wallClock.secondOfDay ∧
      stepped.plus (Number.ofInt (-2)) .days = .ok moment := by
  intro moment stepped final
  have hstep : moment.plus (Number.ofInt 2) .days = .ok stepped :=
    (plus_ofInt_eq_ok_iff (by decide)).mpr ⟨by decide +kernel, _, by decide +kernel, rfl⟩
  have hfinal : stepped.plus (Number.ofInt (-5)) .days = .ok final :=
    (plus_ofInt_eq_ok_iff (by decide)).mpr ⟨by decide +kernel, _, by decide +kernel, rfl⟩
  obtain ⟨hboth, -, -, htime, hback⟩ := plus_group_action (.inr ⟨12600, rfl⟩) rfl rfl
    (a := 2) (b := -5) (by decide) (by decide) (by decide) hstep
  exact ⟨hstep, hfinal, (hboth final).mp hfinal, (htime rfl).1,
    hback.mpr ⟨by decide, fun _ => by decide +kernel⟩⟩

end Moment

end SheetFormula
