import SheetFormula.Proofs.Moment.Range

/-!
# Seconds of moments

The nanoseconds of a point are those of a second and, if it lies in a leap second, those of one
more. There are never more than that: texts give a fraction of a second only, and a step either
keeps the nanoseconds or counts those anew that make up a second.

## Main definitions

* `SheetFormula.Calendar.Timestamp.IsWithinSecond` — the points in a second or in the leap second
  behind it.

## Main results

* `SheetFormula.Calendar.Timestamp.isWithinSecond_plus` — durations lead to such points.
* `SheetFormula.Moment.isWithinSecond_of_ofText?` — the moments of texts are at such points.
* `SheetFormula.Moment.isWithinSecond_of_plus` — steps lead from such points to such points.
-/

set_option relaxedAutoImplicit false
set_option autoImplicit false

namespace SheetFormula

open SheetFormula.Calendar (Date Timestamp nanosPerSecond)

/-! ## Points in time -/

namespace Calendar.Timestamp

/-- A point lies in a second or in the leap second behind it. -/
def IsWithinSecond (t : Timestamp) : Prop :=
  t.nanos < 2 * nanosPerSecond

/-- Nanoseconds that make up seconds are counted as seconds. -/
lemma isWithinSecond_normal (seconds nanos : ℤ) : (normal seconds nanos).IsWithinSecond := by
  unfold IsWithinSecond normal nanosPerSecond
  dsimp only
  omega

/-- **A duration leads to a point in a second or in the leap second behind it.** -/
theorem isWithinSecond_plus (t : Timestamp) (seconds nanos : ℤ) :
    (t.plus seconds nanos).IsWithinSecond := by
  unfold plus
  split_ifs with hleap hlater hearlier
  · exact isWithinSecond_normal _ _
  · exact isWithinSecond_normal _ _
  · unfold IsWithinSecond nanosPerSecond at *
    dsimp only
    omega
  · exact isWithinSecond_normal _ _

/-- A shift by seconds keeps the nanoseconds. -/
lemma IsWithinSecond.shift {t : Timestamp} (h : t.IsWithinSecond) (seconds : ℤ) :
    (t.shift seconds).IsWithinSecond :=
  h

/-- What is checked is the point itself. -/
lemma IsWithinSecond.of_checked {t checked : Timestamp} (h : t.IsWithinSecond)
    (hchecked : t.checked = some checked) : checked.IsWithinSecond := by
  obtain ⟨rfl, -⟩ := checked_eq_some.mp hchecked
  exact h

/-- A time of day with a fraction of a second. -/
lemma isWithinSecond_of_ofFields? {date : Date} {hour minute second nanos : ℕ} {t : Timestamp}
    (hnanos : nanos < nanosPerSecond) (h : ofFields? date hour minute second nanos = some t) :
    t.IsWithinSecond := by
  unfold ofFields? at h
  unfold IsWithinSecond
  split_ifs at h
  · cases h
    unfold ofDay
    dsimp only
    omega
  · cases h
    unfold ofDay
    dsimp only
    omega

/-- Steps of months keep the time of day. -/
lemma IsWithinSecond.of_stepMonths? {t stepped : Timestamp} (h : t.IsWithinSecond) {months : ℤ}
    (hstep : t.stepMonths? months = some stepped) : stepped.IsWithinSecond := by
  have hadd := addMonths?_of_stepMonths? hstep
  unfold addMonths? inMonth? at hadd
  dsimp only at hadd
  split_ifs at hadd
  cases hadd
  exact h

end Calendar.Timestamp

/-! ## Zones -/

/-- An instant that is found for a time lies in a second as the time does, or as the time an hour
later. -/
lemma Zone.isWithinSecond_of_instantAt? {zone : Zone} {wall instant : Timestamp}
    (hwall : wall.IsWithinSecond) (h : zone.instantAt? wall = some instant) :
    instant.IsWithinSecond := by
  have hshown : ∀ {table : OffsetTable} {wall : Timestamp}, wall.IsWithinSecond →
      shownAt? table wall = some instant → instant.IsWithinSecond := by
    intro table wall hwall hshown
    obtain ⟨first, hfirst, hchecked⟩ := Option.bind_eq_some_iff.mp hshown
    obtain ⟨offset, -, rfl⟩ := Option.map_eq_some_iff.mp hfirst
    exact (hwall.shift _).of_checked hchecked
  cases zone with
  | utc =>
    cases h
    exact hwall
  | fixed offset => exact (hwall.shift _).of_checked h
  | named name table =>
    rcases shownAt?_of_instantAt? h with hsame | ⟨later, hlater, hfound⟩
    · exact hshown hwall hsame
    · exact hshown ((Timestamp.isWithinSecond_plus _ _ _).of_checked hlater) hfound

namespace Moment

open SheetFormula.Number (digitsValue)

/-! ## Texts -/

/-- A fraction has at most nine digits. -/
lemma length_of_takeFraction? {text fraction rest : List Char}
    (h : takeFraction? text = some (fraction, rest)) : fraction.length ≤ 9 := by
  unfold takeFraction? at h
  split at h
  next =>
    cases h
    exact Nat.zero_le 9
  next =>
    dsimp only at h
    split_ifs at h with _ hlength
    · cases h
      exact hlength.2
    · cases h
      exact Nat.zero_le 9

/-- The fraction in a text in ISO notation has at most nine digits. -/
lemma length_fraction_le {text : List Char} {fields : IsoFields}
    (h : isoFields? text = some fields) : fields.fraction.length ≤ 9 := by
  obtain ⟨year, month, day, -, -, afterDay, -, -, -, -, ⟨-, rfl⟩ | ⟨time, -, htime⟩⟩ :=
    steps_of_isoFields? h
  · exact Nat.zero_le 9
  · obtain ⟨hour, minute, second, fraction, offset, -, -, afterSecond, -, -, -, hfraction, -, rfl⟩ :=
      exists_of_timeFields? htime
    split_ifs at hfraction
    · cases hfraction
      exact Nat.zero_le 9
    · exact length_of_takeFraction? hfraction

/-- A fraction of a second is less than a second. -/
lemma fractionNanos?_lt {fraction : List Char} {nanos : ℕ} (hlength : fraction.length ≤ 9)
    (h : fractionNanos? fraction = some nanos) : nanos < nanosPerSecond := by
  unfold fractionNanos? at h
  split_ifs at h with hdigits
  cases h
  have hlt := Number.digitsValue_lt (List.all_eq_true.mp hdigits)
  calc digitsValue fraction * 10 ^ (9 - fraction.length)
      < 10 ^ fraction.length * 10 ^ (9 - fraction.length) :=
        Nat.mul_lt_mul_of_pos_right hlt (by positivity)
    _ = nanosPerSecond := by
        rw [← Nat.pow_add, Nat.add_sub_cancel' hlength]
        rfl

/-- The wall-clock time that a text in ISO notation names lies in a second. -/
lemma isWithinSecond_of_wall? {text : List Char} {fields : IsoFields} {wall : Timestamp}
    (hfields : isoFields? text = some fields) (hwall : fields.wall? = some wall) :
    wall.IsWithinSecond := by
  obtain ⟨year, -, hwall⟩ := Option.bind_eq_some_iff.mp hwall
  obtain ⟨month, -, hwall⟩ := Option.bind_eq_some_iff.mp hwall
  obtain ⟨nanos, hnanos, hwall⟩ := Option.bind_eq_some_iff.mp hwall
  dsimp only at hwall
  split_ifs at hwall
  exact Timestamp.isWithinSecond_of_ofFields?
    (fractionNanos?_lt (length_fraction_le hfields) hnanos) hwall

/-- **The moments of texts lie in a second or in the leap second behind it.** -/
theorem isWithinSecond_of_ofText? {zone : Zone} {text : String} {moment : Moment}
    (h : ofText? zone text = some moment) : moment.instant.IsWithinSecond := by
  obtain ⟨instant, hread, rfl⟩ := Option.map_eq_some_iff.mp h
  rcases Option.or_eq_some_iff.mp hread with hiso | ⟨-, hlocale⟩
  · obtain ⟨fields, hfields, hiso⟩ := Option.bind_eq_some_iff.mp hiso
    obtain ⟨wall, hwall, hinstant⟩ := Option.bind_eq_some_iff.mp hiso
    have hsecond := isWithinSecond_of_wall? hfields hwall
    unfold IsoFields.instant? at hinstant
    split at hinstant
    · exact Zone.isWithinSecond_of_instantAt? hsecond hinstant
    · cases hinstant
      exact hsecond
    · obtain ⟨offset, -, hinstant⟩ := Option.bind_eq_some_iff.mp hinstant
      exact Zone.isWithinSecond_of_instantAt? hsecond hinstant
  · unfold readLocale? at hlocale
    split_ifs at hlocale
    split at hlocale
    next wall hlayout =>
      obtain ⟨layout, -, hwall⟩ := List.exists_of_findSome?_eq_some hlayout
      obtain ⟨values, -, hwall⟩ := Option.bind_eq_some_iff.mp hwall
      have hsecond := Timestamp.isWithinSecond_of_ofFields? (by decide) hwall
      exact Zone.isWithinSecond_of_instantAt? hsecond hlocale
    next => cases hlocale

/-- The moments of values lie in a second or in the leap second behind it, if instants among the
values do. -/
lemma isWithinSecond_of_ofValue? {zone : Zone} {value : Value} {moment : Moment}
    (hnative : ∀ instant, value = .date instant → instant.IsWithinSecond)
    (h : ofValue? zone value = some moment) : moment.instant.IsWithinSecond := by
  unfold ofValue? at h
  split_ifs at h
  split at h
  next instant htruthy =>
    cases h
    exact hnative instant rfl
  next number htruthy =>
    obtain ⟨millis, -, h⟩ := Option.bind_eq_some_iff.mp h
    obtain ⟨instant, hinstant, rfl⟩ := Option.map_eq_some_iff.mp h
    obtain ⟨rfl, -⟩ := Timestamp.checked_eq_some.mp hinstant
    unfold Timestamp.IsWithinSecond Timestamp.ofMillis nanosPerSecond
    dsimp only
    omega
  next text htruthy =>
    obtain ⟨instant, -, hmoment⟩ := Option.map_eq_some_iff.mp h
    exact isWithinSecond_of_ofText? h
  next => cases h

/-! ## Steps -/

/-- A whole step leads to a point in a second or in the leap second behind it. -/
lemma isWithinSecond_of_plusWhole? {moment : Moment} (hmoment : moment.instant.IsWithinSecond)
    {count : ℤ} {unit : DateUnit} {instant : Timestamp}
    (h : moment.plusWhole? count unit = some instant) : instant.IsWithinSecond := by
  unfold plusWhole? at h
  split at h
  · obtain ⟨wall, hwall, h⟩ := Option.bind_eq_some_iff.mp h
    exact Zone.isWithinSecond_of_instantAt? ((hmoment.shift _).of_stepMonths? hwall) h
  · obtain ⟨wall, hwall, h⟩ := Option.bind_eq_some_iff.mp h
    exact Zone.isWithinSecond_of_instantAt?
      ((Timestamp.isWithinSecond_plus _ _ _).of_checked hwall) h
  · exact (Timestamp.isWithinSecond_plus _ _ _).of_checked h

/-- **A step leads to a point in a second or in the leap second behind it.** -/
theorem isWithinSecond_of_plus {moment moment' : Moment}
    (hmoment : moment.instant.IsWithinSecond) {amount : Float} {unit : DateUnit}
    (h : moment.plus amount unit = .ok moment') : moment'.instant.IsWithinSecond := by
  obtain ⟨count, instant, hwhole, rfl | ⟨-, millis, instant', hmillis, rfl⟩⟩ := exists_of_plus h
  · exact isWithinSecond_of_plusWhole? hmoment hwhole
  · exact (Timestamp.isWithinSecond_plus _ _ _).of_checked hmillis

end Moment

end SheetFormula
