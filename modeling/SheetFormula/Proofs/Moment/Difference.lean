import SheetFormula.Moment.Arithmetic
import SheetFormula.Proofs.Calendar.Timestamp
import Mathlib.Order.Bounds.Basic

/-!
# The units between moments

The difference of two moments counts the steps of a unit that fit between them. It is stated here
by the steps themselves, without the order in which they are tried: the difference is the greatest
number of units that can be stepped from the start without passing the end. Months and days are
stepped on the wall clock, and clock units on the time line.

## Main definitions

* `SheetFormula.Moment.stepUnits?` — where whole units lead from an instant.
* `SheetFormula.Moment.endpoint` — what steps of a unit are compared with.
* `SheetFormula.Moment.Fits` — whole units that do not lead beyond the end.

## Main results

* `SheetFormula.Moment.isGreatest_greatestCount` — counting down finds the greatest number of steps.
* `SheetFormula.Moment.isGreatest_unitsBetween` — the units between two instants are as many as fit.
* `SheetFormula.Moment.diff_counts_units` — the difference of moments counts the units that fit.
-/

set_option relaxedAutoImplicit false
set_option autoImplicit false

namespace SheetFormula.Moment

open SheetFormula.Calendar (Timestamp nanosPerSecond)

/-! ## Steps -/

/-- Where a number of whole units leads from an instant: on the wall clock for units of months and
days, on the time line for clock units. There is nothing outside the range of dates. -/
def stepUnits? (zone : Zone) (start : Timestamp) (count : ℕ) : DateUnit → Option Timestamp
  | .years => (zone.wallClock start).addMonths? (count * 12)
  | .quarters => (zone.wallClock start).addMonths? (count * 3)
  | .months => (zone.wallClock start).addMonths? count
  | .weeks => (zone.wallClock start).plusDays? (count * 7)
  | .days => (zone.wallClock start).plusDays? count
  | .hours => start.plusMillis? (count * 3600000)
  | .minutes => start.plusMillis? (count * 60000)
  | .seconds => start.plusMillis? (count * 1000)

/-- The units of the clock, which have a fixed length. -/
def IsClockUnit (unit : DateUnit) : Prop :=
  unit = .hours ∨ unit = .minutes ∨ unit = .seconds

/-- The point that steps of a unit must not pass: the end, as the wall clock shows it for units of
months and days. -/
def endpoint (zone : Zone) (finish : Timestamp) : DateUnit → Timestamp
  | .hours | .minutes | .seconds => finish
  | _ => zone.wallClock finish

/-- A number of units fits between two instants: it is zero, or stepping it leads to a point in the
range of dates that is not beyond the end. -/
def Fits (zone : Zone) (unit : DateUnit) (start finish : Timestamp) (count : ℕ) : Prop :=
  count = 0 ∨ ∃ stepped, stepUnits? zone start count unit = some stepped ∧
    (endpoint zone finish unit).before stepped = false

/-! ## Counting down -/

/-- A step does not pass an end if it leads to a point that is not beyond it. -/
lemma passes_eq_false {step : Option Timestamp} {finish : Timestamp} :
    passes step finish = false ↔ ∃ stepped, step = some stepped ∧ finish.before stepped = false := by
  cases step <;> simp [passes]

/-- Counting down ends at a number that does not pass, or at zero. -/
lemma greatestCount_eq_zero_or (passes : ℕ → Bool) (limit : ℕ) :
    greatestCount passes limit = 0 ∨ passes (greatestCount passes limit) = false := by
  induction limit with
  | zero => exact .inl rfl
  | succ limit ih =>
    rw [greatestCount]
    split_ifs with hpasses
    · exact ih
    · exact .inr (by simpa using hpasses)

/-- Counting down skips no number that does not pass. -/
lemma le_greatestCount {passes : ℕ → Bool} {count limit : ℕ} (hle : count ≤ limit)
    (hpasses : passes count = false) : count ≤ greatestCount passes limit := by
  induction limit with
  | zero => exact hle
  | succ limit ih =>
    rw [greatestCount]
    split_ifs with hlast
    · obtain rfl | hlt := Nat.eq_or_lt_of_le hle
      · rw [hlast] at hpasses
        cases hpasses
      · exact ih (Nat.le_of_lt_succ hlt)
    · exact hle

/-- **Counting down finds the greatest number of steps**, and a quotient of it the greatest number
of longer steps, if nothing beyond the limit fits and shorter steps lead less far.

**Proof sketch.** Steps of several units that fit are steps of single units that fit, so there are
no more of them than counting down finds. As many as the quotient fit, because they lead less far
than the single units that were found. -/
theorem isGreatest_greatestCount {step : ℕ → Option Timestamp} {finish : Timestamp}
    {limit factor : ℕ} (hfactor : 0 < factor)
    (hbeyond : ∀ count stepped, limit < count → step count = some stepped → finish.before stepped)
    (hshorter : ∀ count count' stepped, 0 < count → count ≤ count' → step count' = some stepped →
      ∃ stepped', step count = some stepped' ∧ stepped.before stepped' = false) :
    IsGreatest {count | count = 0 ∨
        ∃ stepped, step (count * factor) = some stepped ∧ finish.before stepped = false}
      (greatestCount (fun count => passes (step count) finish) limit / factor) := by
  constructor
  · rcases Nat.eq_zero_or_pos
      (greatestCount (fun count => passes (step count) finish) limit / factor) with hzero | hpos
    · exact .inl hzero
    · have hle := Nat.div_mul_le_self
        (greatestCount (fun count => passes (step count) finish) limit) factor
      have hcount := Nat.mul_pos hpos hfactor
      have hfound := (greatestCount_eq_zero_or _ limit).resolve_left
        (show greatestCount (fun count => passes (step count) finish) limit ≠ 0 by omega)
      obtain ⟨stepped, hstep, hend⟩ := passes_eq_false.mp hfound
      obtain ⟨stepped', hstep', horder⟩ := hshorter _ _ _ hcount hle hstep
      exact .inr ⟨stepped', hstep', Timestamp.before_eq_false_trans horder hend⟩
  · rintro count (rfl | ⟨stepped, hstep, hend⟩)
    · exact Nat.zero_le _
    · rw [Nat.le_div_iff_mul_le hfactor]
      refine le_greatestCount ?_ (passes_eq_false.mpr ⟨stepped, hstep, hend⟩)
      by_contra hfar
      rw [hbeyond _ _ (Nat.lt_of_not_le hfar) hstep] at hend
      cases hend

/-! ## Months and days -/

/-- The months between two wall-clock times, divided by the months of a unit, are the greatest
number of steps of that unit. -/
lemma isGreatest_monthsBetween {start finish : Timestamp} (hrange : start.inRange) {factor : ℕ}
    (hfactor : 0 < factor) :
    IsGreatest {count : ℕ | count = 0 ∨ ∃ stepped,
        start.addMonths? (count * factor : ℕ) = some stepped ∧ finish.before stepped = false}
      (monthsBetween start finish / factor) := by
  have hmonths : monthsBetween start finish =
      greatestCount (fun count => passes (start.addMonths? count) finish)
        (finish.date.monthIndex - start.date.monthIndex).toNat := by
    have hindex : 12 * (finish.date.year - start.date.year) +
        (finish.date.month - start.date.month : ℤ) =
          finish.date.monthIndex - start.date.monthIndex := by
      unfold Calendar.Date.monthIndex
      omega
    have hstep : ∀ count : ℕ, start.stepMonths? count = start.addMonths? count :=
      fun count => Timestamp.stepMonths?_eq hrange count
    simp only [monthsBetween, hstep, hindex]
  rw [hmonths]
  refine isGreatest_greatestCount hfactor ?_ ?_
  · intro count stepped hfar hstep
    exact Timestamp.before_of_addMonths? (by omega) hstep
  · intro count count' stepped _ hle hstep
    exact Timestamp.addMonths?_mono hrange (Int.natCast_nonneg count) (Int.ofNat_le.mpr hle) hstep

/-- The days between two wall-clock times, divided by the days of a unit, are the greatest number
of steps of that unit. -/
lemma isGreatest_daysBetween {start finish : Timestamp} (hrange : start.inRange) {factor : ℕ}
    (hfactor : 0 < factor) :
    IsGreatest {count : ℕ | count = 0 ∨ ∃ stepped,
        start.plusDays? (count * factor : ℕ) = some stepped ∧ finish.before stepped = false}
      (daysBetween start finish / factor) := by
  refine isGreatest_greatestCount hfactor ?_ ?_
  · intro count stepped hfar hstep
    exact Timestamp.before_of_plusDays? (by omega) (by omega) hstep
  · intro count count' stepped hpos hle hstep
    exact Timestamp.plusDays?_mono hrange (Int.natCast_pos.mpr hpos) (Int.ofNat_le.mpr hle) hstep

/-! ## Clock units -/

/-- A step of whole seconds does not pass the end if the nanoseconds up to it are enough. -/
lemma exists_plusMillis?_iff {start finish : Timestamp} (hstart : start.inRange)
    (hfinish : finish.inRange) (hleap : start.isLeap = false) (hleap' : finish.isLeap = false)
    (seconds : ℕ) :
    (∃ stepped, start.plusMillis? (seconds * 1000) = some stepped ∧
      finish.before stepped = false) ↔ seconds * nanosPerSecond ≤ start.nanosUntil finish := by
  have hnanos := Timestamp.nanos_lt_of_not_isLeap hleap
  have hnanos' := Timestamp.nanos_lt_of_not_isLeap hleap'
  have hplus := Timestamp.plusMillis_of_not_isLeap hleap seconds
  unfold Timestamp.nanosUntil nanosPerSecond at *
  constructor
  · rintro ⟨stepped, hstep, hend⟩
    obtain ⟨rfl, -⟩ := Timestamp.checked_eq_some.mp hstep
    rw [hplus, Timestamp.before_eq_false_iff] at hend
    dsimp only at hend
    omega
  · intro hle
    refine ⟨_, Timestamp.checked_eq_some.mpr ⟨rfl, ?_⟩, ?_⟩
    · rw [hplus]
      refine Timestamp.inRange_between hstart hfinish ?_ ?_ <;> dsimp only <;> omega
    · rw [hplus, Timestamp.before_eq_false_iff]
      dsimp only
      omega

/-- The milliseconds between two instants, divided by those of a unit of whole seconds, are the
greatest number of steps of that unit. -/
lemma isGreatest_millisUntil {start finish : Timestamp} (hstart : start.inRange)
    (hfinish : finish.inRange) (horder : finish.before start = false)
    (hleap : start.isLeap = false) (hleap' : finish.isLeap = false) {seconds : ℕ}
    (hseconds : 0 < seconds) :
    ∃ count : ℕ, (start.millisUntil finish).tdiv (seconds * 1000) = count ∧
      IsGreatest {count : ℕ | count = 0 ∨ ∃ stepped,
        start.plusMillis? ((count * seconds : ℕ) * 1000) = some stepped ∧
          finish.before stepped = false} count := by
  have hnonneg : 0 ≤ start.nanosUntil finish := by
    have hnanos := Timestamp.nanos_lt_of_not_isLeap hleap
    have hnanos' := Timestamp.nanos_lt_of_not_isLeap hleap'
    rw [Timestamp.before_eq_false_iff] at horder
    unfold Timestamp.nanosUntil nanosPerSecond at *
    omega
  obtain ⟨total, htotal⟩ := Int.eq_ofNat_of_zero_le hnonneg
  have hvalue : (start.millisUntil finish).tdiv (seconds * 1000) =
      (total / 1000000 / (seconds * 1000) : ℕ) := by
    rw [Timestamp.millisUntil_of_not_isLeap hleap hleap', htotal]
    norm_cast
  refine ⟨_, hvalue, ?_⟩
  rw [Nat.div_div_eq_div_mul]
  simp only [exists_plusMillis?_iff hstart hfinish hleap hleap', htotal]
  have hlength : 1000000 * (seconds * 1000) = seconds * nanosPerSecond := by
    unfold nanosPerSecond
    omega
  rw [hlength]
  constructor
  · refine .inr ?_
    have hle := Nat.div_mul_le_self total (seconds * nanosPerSecond)
    rw [← Nat.mul_assoc] at hle
    exact_mod_cast hle
  · rintro count (rfl | hle)
    · exact Nat.zero_le _
    · rw [Nat.le_div_iff_mul_le (Nat.mul_pos hseconds (by decide)), ← Nat.mul_assoc]
      exact_mod_cast hle

/-! ## Differences -/

/-- **The units between two instants are as many as fit**, for instants in the range of dates that
the wall clock shows in that range as well. Clock units need instants outside leap seconds.

**Proof sketch.** For units of months and of days, counting down from the months or days between
the dates finds the greatest number. For clock units it is the quotient of the durations. -/
theorem isGreatest_unitsBetween {zone : Zone} {unit : DateUnit} {start finish : Timestamp}
    (horder : finish.before start = false) (hstart : start.inRange) (hfinish : finish.inRange)
    (hwall : (zone.wallClock start).inRange)
    (hleap : IsClockUnit unit → start.isLeap = false ∧ finish.isLeap = false) :
    ∃ count : ℕ, unitsBetween zone unit start finish = count ∧
      IsGreatest {count | Fits zone unit start finish count} count := by
  cases unit with
  | years =>
    refine ⟨monthsBetween (zone.wallClock start) (zone.wallClock finish) / 12, rfl, ?_⟩
    simpa [Fits, stepUnits?, endpoint] using isGreatest_monthsBetween hwall (show 0 < 12 by decide)
  | quarters =>
    refine ⟨monthsBetween (zone.wallClock start) (zone.wallClock finish) / 3, rfl, ?_⟩
    simpa [Fits, stepUnits?, endpoint] using isGreatest_monthsBetween hwall (show 0 < 3 by decide)
  | months =>
    refine ⟨monthsBetween (zone.wallClock start) (zone.wallClock finish) / 1, rfl, ?_⟩
    simpa [Fits, stepUnits?, endpoint] using isGreatest_monthsBetween hwall (show 0 < 1 by decide)
  | weeks =>
    refine ⟨daysBetween (zone.wallClock start) (zone.wallClock finish) / 7, rfl, ?_⟩
    simpa [Fits, stepUnits?, endpoint] using isGreatest_daysBetween hwall (show 0 < 7 by decide)
  | days =>
    refine ⟨daysBetween (zone.wallClock start) (zone.wallClock finish) / 1, rfl, ?_⟩
    simpa [Fits, stepUnits?, endpoint] using isGreatest_daysBetween hwall (show 0 < 1 by decide)
  | hours =>
    obtain ⟨hleap, hleap'⟩ := hleap (.inl rfl)
    obtain ⟨count, hcount, hgreatest⟩ :=
      isGreatest_millisUntil hstart hfinish horder hleap hleap' (show 0 < 3600 by decide)
    exact ⟨count, hcount, by simpa [Fits, stepUnits?, endpoint, Int.mul_assoc] using hgreatest⟩
  | minutes =>
    obtain ⟨hleap, hleap'⟩ := hleap (.inr (.inl rfl))
    obtain ⟨count, hcount, hgreatest⟩ :=
      isGreatest_millisUntil hstart hfinish horder hleap hleap' (show 0 < 60 by decide)
    exact ⟨count, hcount, by simpa [Fits, stepUnits?, endpoint, Int.mul_assoc] using hgreatest⟩
  | seconds =>
    obtain ⟨hleap, hleap'⟩ := hleap (.inr (.inr rfl))
    obtain ⟨count, hcount, hgreatest⟩ :=
      isGreatest_millisUntil hstart hfinish horder hleap hleap' (show 0 < 1 by decide)
    exact ⟨count, hcount, by simpa [Fits, stepUnits?, endpoint, Int.mul_assoc] using hgreatest⟩

/-- An instant has no units to itself. -/
lemma unitsBetween_self (zone : Zone) (unit : DateUnit) (instant : Timestamp) :
    unitsBetween zone unit instant instant = 0 := by
  have hmonths : monthsBetween (zone.wallClock instant) (zone.wallClock instant) = 0 := by
    simp [monthsBetween, greatestCount]
  have hdays : daysBetween (zone.wallClock instant) (zone.wallClock instant) = 0 := by
    simp [daysBetween, greatestCount]
  have hmillis : instant.millisUntil instant = 0 := by
    simp [Timestamp.millisUntil]
  cases unit <;> simp [unitsBetween, DateUnit.months?, DateUnit.days?, hmonths, hdays, hmillis]

/-- The difference of two moments in the other direction is the opposite one. -/
lemma diff_swap (zone : Zone) (kind kind' : MomentKind) (start finish : Timestamp) (unit : DateUnit) :
    diff ⟨finish, zone, kind⟩ ⟨start, zone, kind'⟩ unit =
      -diff ⟨start, zone, kind'⟩ ⟨finish, zone, kind⟩ unit := by
  unfold diff
  dsimp only
  cases hback : finish.before start <;> cases hforth : start.before finish
  · obtain rfl := Timestamp.eq_of_before_eq_false hback hforth
    simp [unitsBetween_self]
  · simp
  · simp
  · -- no point is before another one that is before it
    rw [Timestamp.before_iff] at hback hforth
    omega

/-- Quotients that are cut off towards zero can be taken one after the other. -/
lemma tdiv_tdiv (a : ℤ) (b c : ℕ) : (a.tdiv b).tdiv c = a.tdiv (b * c : ℕ) := by
  obtain ⟨n, rfl | rfl⟩ := a.eq_nat_or_neg
  · rw [← Int.ofNat_tdiv, ← Int.ofNat_tdiv, ← Int.ofNat_tdiv, Nat.div_div_eq_div_mul]
  · rw [Int.neg_tdiv, Int.neg_tdiv, Int.neg_tdiv, ← Int.ofNat_tdiv, ← Int.ofNat_tdiv,
      ← Int.ofNat_tdiv, Nat.div_div_eq_div_mul]

/-- Longer units between two instants are as many as the quotient of the shorter ones. -/
lemma unitsBetween_quotients (zone : Zone) (start finish : Timestamp) :
    unitsBetween zone .years start finish = (unitsBetween zone .months start finish).tdiv 12 ∧
    unitsBetween zone .quarters start finish = (unitsBetween zone .months start finish).tdiv 3 ∧
    unitsBetween zone .weeks start finish = (unitsBetween zone .days start finish).tdiv 7 ∧
    unitsBetween zone .hours start finish = (unitsBetween zone .minutes start finish).tdiv 60 ∧
    unitsBetween zone .hours start finish = (unitsBetween zone .seconds start finish).tdiv 3600 := by
  simp only [unitsBetween, DateUnit.months?, DateUnit.days?, DateUnit.millis, Int.ediv_one,
    Int.natCast_tdiv_eq_ediv, true_and]
  exact ⟨(tdiv_tdiv (start.millisUntil finish) 60000 60).symm,
    (tdiv_tdiv (start.millisUntil finish) 1000 3600).symm⟩

/-- Longer units between two moments are as many as the quotient of the shorter ones, in both
directions. -/
lemma diff_quotients (start finish : Moment) :
    start.diff finish .years = (start.diff finish .months).tdiv 12 ∧
    start.diff finish .quarters = (start.diff finish .months).tdiv 3 ∧
    start.diff finish .weeks = (start.diff finish .days).tdiv 7 ∧
    start.diff finish .hours = (start.diff finish .minutes).tdiv 60 ∧
    start.diff finish .hours = (start.diff finish .seconds).tdiv 3600 := by
  obtain ⟨hyears, hquarters, hweeks, hminutes, hseconds⟩ :=
    unitsBetween_quotients start.zone start.instant finish.instant
  obtain ⟨hyears', hquarters', hweeks', hminutes', hseconds'⟩ :=
    unitsBetween_quotients start.zone finish.instant start.instant
  unfold diff
  split_ifs
  · simp only [Int.neg_tdiv, ← hyears', ← hquarters', ← hweeks', ← hminutes', ← hseconds', and_self]
  · exact ⟨hyears, hquarters, hweeks, hminutes, hseconds⟩

/-- **The difference of moments counts the units that fit.** From a start to an end in the same zone
that is not before it, the difference is the greatest number of units that can be stepped without
passing the end, and the difference in the other direction is the opposite number. Between any two
moments, the differences in longer units are quotients of those in shorter ones. -/
theorem diff_counts_units :
    (∀ (zone : Zone) (unit : DateUnit) (start finish : Timestamp) (kind kind' : MomentKind),
      finish.before start = false → start.inRange → finish.inRange →
      (zone.wallClock start).inRange →
      (IsClockUnit unit → start.isLeap = false ∧ finish.isLeap = false) →
      ∃ count : ℕ, diff ⟨start, zone, kind⟩ ⟨finish, zone, kind'⟩ unit = count ∧
        IsGreatest {count | Fits zone unit start finish count} count ∧
        diff ⟨finish, zone, kind'⟩ ⟨start, zone, kind⟩ unit = -count) ∧
    ∀ start finish : Moment,
      start.diff finish .years = (start.diff finish .months).tdiv 12 ∧
      start.diff finish .quarters = (start.diff finish .months).tdiv 3 ∧
      start.diff finish .weeks = (start.diff finish .days).tdiv 7 ∧
      start.diff finish .hours = (start.diff finish .minutes).tdiv 60 ∧
      start.diff finish .hours = (start.diff finish .seconds).tdiv 3600 := by
  refine ⟨?_, diff_quotients⟩
  intro zone unit start finish kind kind' horder hstart hfinish hwall hleap
  obtain ⟨count, hcount, hgreatest⟩ :=
    isGreatest_unitsBetween horder hstart hfinish hwall hleap
  have hdiff : diff ⟨start, zone, kind⟩ ⟨finish, zone, kind'⟩ unit = count := by
    rw [← hcount]
    exact if_neg (by simp [horder])
  refine ⟨count, hdiff, hgreatest, ?_⟩
  rw [diff_swap, hdiff]

/-- From the end of January to the end of a leap February it is one month: stepping it goes to the
29th, the last day. -/
theorem diff_to_leap_day :
    diff ⟨⟨1706659200, 0⟩, .utc, .dateOnly⟩ ⟨⟨1709164800, 0⟩, .utc, .dateOnly⟩ .months = 1 ∧
      IsGreatest {count | Fits .utc .months ⟨1706659200, 0⟩ ⟨1709164800, 0⟩ count} 1 := by
  obtain ⟨count, hcount, hgreatest, -⟩ :=
    diff_counts_units.1 .utc .months ⟨1706659200, 0⟩ ⟨1709164800, 0⟩ .dateOnly .dateOnly
      (by decide) (by decide) (by decide) (by decide) (by rintro (h | h | h) <;> cases h)
  have hone : diff ⟨⟨1706659200, 0⟩, .utc, .dateOnly⟩ ⟨⟨1709164800, 0⟩, .utc, .dateOnly⟩ .months =
      1 := by decide
  obtain rfl : count = 1 := by omega
  exact ⟨hone, hgreatest⟩

end SheetFormula.Moment
