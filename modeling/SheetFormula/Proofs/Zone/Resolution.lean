import SheetFormula.Proofs.Zone.Offsets
import SheetFormula.Zone.Table

/-!
# Wall-clock times that are shown

A wall-clock time that a clock shows at some instant is found again as the first instant at which it
is shown. That is the same instant unless the clock has been put back over it, so that it shows the
time once more. Universal time and fixed offsets show every time only once.

## Main definitions

* `SheetFormula.Zone.IsFirst` — the first of the instants at which a clock shows the same.
* `SheetFormula.Zone.HasCivilChanges` — changes in years of four digits only.
* `SheetFormula.Zone.changes` — the changes of the clock of a zone.

## Main results

* `SheetFormula.OffsetTable.exists_wallOffset?_of_shown` — a second that is shown is found, in a
  span that is no later.
* `SheetFormula.Zone.hasCivilChanges_of_ofTextIn?` — the zones that texts name change in such years
  if the tables of the database do.
* `SheetFormula.Zone.exists_isFirst_of_shown` — what is looked up for a time that is shown.
* `SheetFormula.Zone.exists_instantAt?_wallClock` — the first instant of what a clock shows is
  found.
* `SheetFormula.Zone.instantAt?_of_shown` — the same for all tables with changes in order.
-/

set_option relaxedAutoImplicit false
set_option autoImplicit false

namespace SheetFormula

open SheetFormula.Calendar (Timestamp firstDay secondsPerDay)

namespace OffsetTable

/-- The changes of a table lie in years of four digits. -/
def HasCivilChanges (table : OffsetTable) : Prop :=
  ∀ change ∈ table.changes, 0 ≤ (Timestamp.mk change.second 0).date.year ∧
    (Timestamp.mk change.second 0).date.year ≤ 9999

instance (table : OffsetTable) : Decidable table.HasCivilChanges :=
  inferInstanceAs (Decidable (∀ _ ∈ _, _ ∧ _))

/-- Points within two days of a change are in the range of dates. -/
lemma HasCivilChanges.inRange_near {table : OffsetTable} (h : table.HasCivilChanges)
    {change : OffsetChange} (hchange : change ∈ table.changes) {t : Timestamp}
    (hnear : (t.seconds - change.second).natAbs < 2 * 86400) : t.inRange := by
  have hyear : (Timestamp.mk change.second t.nanos).HasFourDigitYear :=
    Timestamp.hasFourDigitYear_of_date (h change hchange)
  have hshift : (Timestamp.mk change.second t.nanos).shift (t.seconds - change.second) = t := by
    rw [Timestamp.shift, add_sub_cancel]
  rw [← hshift]
  exact hyear.inRange_shift hnear

/-- A second that is shown is found: in the span of time of its instant, or in one that ends with a
change before that instant.

**Proof sketch.** Induction on the changes. Before the first change, the span at hand is that of the
instant; an instant behind it can be looked for from there. -/
lemma exists_wallOffsetFrom?_of_shown {since : Option ℤ} {offset : ℤ} {changes : List OffsetChange}
    {second wall : ℤ} (hsince : ∀ begin ∈ since, begin ≤ second)
    (hshown : second + offsetFrom offset changes second = wall) :
    ∃ found, wallOffsetFrom? since offset changes wall = some found ∧
      (wall - found = second ∨
        ∃ change ∈ changes, wall - found < change.second ∧ change.second ≤ second) := by
  induction changes generalizing since offset with
  | nil =>
    rw [offsetFrom] at hshown
    obtain rfl : second = wall - offset := by omega
    have hspan : since.all (· ≤ wall - offset) = true := by
      simpa [Option.all_eq_true] using hsince
    exact ⟨offset, by rw [wallOffsetFrom?, if_pos hspan], .inl rfl⟩
  | cons change rest ih =>
    rw [offsetFrom] at hshown
    rw [wallOffsetFrom?]
    split_ifs at hshown with hbefore
    · obtain rfl : second = wall - offset := by omega
      have hspan : since.all (· ≤ wall - offset) = true := by
        simpa [Option.all_eq_true] using hsince
      exact ⟨offset, if_pos ⟨hspan, hbefore⟩, .inl rfl⟩
    · have hbehind : change.second ≤ second := not_lt.mp hbefore
      split_ifs with hspan
      · exact ⟨offset, rfl, .inr ⟨change, List.mem_cons_self, hspan.2, hbehind⟩⟩
      · have hbegin : ∀ begin ∈ some change.second, begin ≤ second := by simpa using hbehind
        obtain ⟨found, hfound, hwhere⟩ := ih hbegin hshown
        refine ⟨found, hfound, hwhere.imp_right ?_⟩
        rintro ⟨next, hnext, hwhere⟩
        exact ⟨next, List.mem_cons_of_mem _ hnext, hwhere⟩

/-- **A second that is shown is found**, at its instant or before a change that lies before it. -/
theorem exists_wallOffset?_of_shown {table : OffsetTable} {second wall : ℤ}
    (hshown : second + table.offsetAt second = wall) :
    ∃ found, table.wallOffset? wall = some found ∧
      (wall - found = second ∨
        ∃ change ∈ table.changes, wall - found < change.second ∧ change.second ≤ second) :=
  exists_wallOffsetFrom?_of_shown (by simp) hshown

/-- The second that is found is the first one that is shown. -/
lemma le_of_wallOffset? {table : OffsetTable} {second wall found : ℤ}
    (h : table.wallOffset? wall = some found) (hshown : second + table.offsetAt second = wall) :
    wall - found ≤ second := by
  obtain ⟨found', hfound', hwhere⟩ := exists_wallOffset?_of_shown hshown
  obtain rfl : found = found' := Option.some.inj (h.symm.trans hfound')
  rcases hwhere with hsame | ⟨change, -, hbefore, hbehind⟩ <;> omega

/-- What is not found is never shown. -/
lemma wallOffset?_eq_none_iff {table : OffsetTable} (htable : table.IsProper) {wall : ℤ} :
    table.wallOffset? wall = none ↔ ∀ second, second + table.offsetAt second ≠ wall := by
  constructor
  · rintro h second hshown
    obtain ⟨found, hfound, -⟩ := exists_wallOffset?_of_shown hshown
    rw [h] at hfound
    cases hfound
  · intro h
    cases hfound : table.wallOffset? wall with
    | none => rfl
    | some found =>
      have hholds := offsetAt_of_wallOffset? htable.inOrder hfound
      exact absurd (by omega) (h (wall - found))

end OffsetTable

namespace Zone

/-! ## Changes in civil years -/

/-- The changes of a zone, if it has any, lie in years of four digits. -/
def HasCivilChanges : Zone → Prop
  | .named _ table => table.HasCivilChanges
  | _ => True

/-- **The zones that texts name change in years of four digits** if the tables of the database
do. -/
theorem hasCivilChanges_of_ofTextIn? {zones : ZoneDatabase}
    (hzones : zones.Forall OffsetTable.HasCivilChanges) {text : String} {zone : Zone}
    (h : ofTextIn? zones text = some zone) : zone.HasCivilChanges := by
  rcases eq_of_ofTextIn? h with rfl | ⟨offset, rfl, -, -⟩ | ⟨name, table, htable, rfl⟩
  · trivial
  · trivial
  · exact hzones name table htable

/-! ## First instants -/

variable {zone : Zone} {instant wall : Timestamp}

/-- An instant is the first one at which the clock shows what it shows then. -/
def IsFirst (zone : Zone) (instant : Timestamp) : Prop :=
  ∀ other, zone.wallClock other = zone.wallClock instant → other.before instant = false

/-- There is one first instant for what a clock shows. -/
lemma IsFirst.eq {other : Timestamp} (h : zone.IsFirst instant) (hother : zone.IsFirst other)
    (hsame : zone.wallClock other = zone.wallClock instant) : other = instant :=
  Timestamp.eq_of_before_eq_false (h other hsame) (hother instant hsame.symm)

/-- The shown second of a table, from the wall clock. -/
lemma shown_of_wallClock {name : String} {table : OffsetTable}
    (h : wallClock (.named name table) instant = wall) :
    instant.seconds + table.offsetAt instant.seconds = wall.seconds ∧ instant.nanos = wall.nanos := by
  subst h
  exact ⟨rfl, rfl⟩

/-- Universal time and fixed offsets show every time only once. -/
lemma isFirst_of_offsetAt_eq (hoffset : ∀ other, zone.offsetAt other = zone.offsetAt instant) :
    zone.IsFirst instant := by
  intro other hsame
  have hshift : other.shift (zone.offsetAt instant) = instant.shift (zone.offsetAt instant) := by
    rwa [wallClock, wallClock, hoffset other] at hsame
  rw [Timestamp.shift, Timestamp.shift, Timestamp.mk.injEq] at hshift
  rw [Timestamp.before_eq_false_iff]
  omega

/-- Where a table finds a time, that time is shown, and for the first time. -/
lemma isFirst_of_wallOffset? (name : String) {table : OffsetTable}
    (horder : OffsetTable.InOrder table.changes) {found : ℤ}
    (h : table.wallOffset? wall.seconds = some found) :
    wallClock (.named name table) (wall.shift (-found)) = wall ∧
      IsFirst (.named name table) (wall.shift (-found)) := by
  have hholds : table.offsetAt (wall.seconds + -found) = found :=
    OffsetTable.offsetAt_of_wallOffset? horder h
  have hwall : wallClock (.named name table) (wall.shift (-found)) = wall := by
    simp only [wallClock, offsetAt, Timestamp.shift, hholds, Int.neg_add_cancel_right]
  refine ⟨hwall, fun other hsame => ?_⟩
  obtain ⟨hshown, hnanos⟩ := shown_of_wallClock (hsame.trans hwall)
  have hle := OffsetTable.le_of_wallOffset? h hshown
  rw [Timestamp.before_eq_false_iff, Timestamp.shift]
  dsimp only
  omega

/-- An instant that a table finds is kept if it lies in the range of dates. -/
lemma shownAt?_of_wallOffset? {table : OffsetTable} {found : ℤ}
    (h : table.wallOffset? wall.seconds = some found) (hrange : (wall.shift (-found)).inRange) :
    shownAt? table wall = some (wall.shift (-found)) := by
  rw [shownAt?, firstInstant?, h, Option.map_some, Option.bind_some,
    Timestamp.checked_eq_some.mpr ⟨rfl, hrange⟩]

/-! ## What is found for a time that is shown -/

/-- The changes of the clock of a zone. -/
def changes : Zone → List OffsetChange
  | .named _ table => table.changes
  | _ => []

/-- A proper zone has its changes in the order of time. -/
lemma IsProper.inOrder_changes (h : zone.IsProper) : OffsetTable.InOrder zone.changes := by
  cases zone with
  | named name table => exact OffsetTable.IsProper.inOrder h
  | _ => exact .nil

/-- Instants at which a clock shows the same are less than two days apart. -/
lemma natAbs_sub_lt_of_wallClock_eq (hproper : zone.IsProper) {first : Timestamp}
    (hsame : zone.wallClock first = zone.wallClock instant) :
    (first.seconds - instant.seconds).natAbs < 2 * 86400 := by
  have hseconds : first.seconds + zone.offsetAt first = instant.seconds + zone.offsetAt instant :=
    congrArg Timestamp.seconds hsame
  have hfirst := natAbs_offsetAt_lt hproper first
  have hinstant := natAbs_offsetAt_lt hproper instant
  omega

/-- **What a clock shows at an instant is looked up as the first instant at which it is shown**, and
found if that lies in the range of dates. It is the instant itself, or a change lies between them.

**Proof sketch.** Universal time and fixed offsets lead straight back. A table finds the span of
time of the instant or an earlier one, which ends with a change before the instant. -/
theorem exists_isFirst_of_shown (horder : OffsetTable.InOrder zone.changes) (instant : Timestamp) :
    ∃ first, zone.wallClock first = zone.wallClock instant ∧ zone.IsFirst first ∧
      (first.inRange → zone.instantAt? (zone.wallClock instant) = some first) ∧
      (first = instant ∨ ∃ change ∈ zone.changes,
        first.seconds < change.second ∧ change.second ≤ instant.seconds) := by
  cases zone with
  | utc =>
    refine ⟨instant, rfl, isFirst_of_offsetAt_eq fun _ => rfl, fun _ => ?_, .inl rfl⟩
    simp [instantAt?, wallClock, offsetAt, Timestamp.shift]
  | fixed offset =>
    refine ⟨instant, rfl, isFirst_of_offsetAt_eq fun _ => rfl, fun hfirst => ?_, .inl rfl⟩
    rw [← Timestamp.checked_eq_some.mpr ⟨rfl, hfirst⟩]
    simp [instantAt?, wallClock, offsetAt, Timestamp.shift]
  | named name table =>
    have hshown : instant.seconds + table.offsetAt instant.seconds =
        (wallClock (.named name table) instant).seconds := rfl
    obtain ⟨found, hfound, hwhere⟩ := OffsetTable.exists_wallOffset?_of_shown hshown
    obtain ⟨hwall, hfirst⟩ := isFirst_of_wallOffset? name horder hfound
    refine ⟨_, hwall, hfirst, fun hrange => ?_, ?_⟩
    · rw [instantAt?, shownAt?_of_wallOffset? hfound hrange, Option.some_or]
    · exact hwhere.imp_left fun hsame => congrArg (Timestamp.mk · instant.nanos) hsame

/-- **What a clock shows at an instant is found**, as the first instant at which it is shown.

**Proof sketch.** If the first instant is not the one at hand, a change lies between the two, and
since that is in a year of four digits, the first instant is in the range of dates. -/
theorem exists_instantAt?_wallClock (hproper : zone.IsProper) (hcivil : zone.HasCivilChanges)
    (hinstant : instant.inRange) :
    ∃ first, zone.instantAt? (zone.wallClock instant) = some first ∧
      zone.wallClock first = zone.wallClock instant ∧ zone.IsFirst first := by
  obtain ⟨first, hsame, hfirst, hfound, hwhere⟩ :=
    exists_isFirst_of_shown hproper.inOrder_changes instant
  have hnear := natAbs_sub_lt_of_wallClock_eq hproper hsame
  have hrange : first.inRange := by
    rcases hwhere with rfl | ⟨change, hchange, hbefore, hbehind⟩
    · exact hinstant
    · cases zone with
      | named name table =>
        exact OffsetTable.HasCivilChanges.inRange_near hcivil hchange (by omega)
      | _ => cases hchange
  exact ⟨first, hfound hrange, hsame, hfirst⟩

/-- **The instant of a wall-clock time that is shown.** Let a clock, of which the changes are in the
order of time, show a time at an instant in the range of dates. The time has a first instant at
which it is shown, no matter how many there are. That is the instant which is found for the time, if
it lies in the range of dates; and it does so if the offsets are less than a day and no change is
within two days of the beginning of the range, as with universal time and with all fixed offsets,
and with every zone that a text names if the tables of the database have such offsets and change in
years of four digits only.

**Proof sketch.** The search stops at the first instant. If that is not the one at hand, a change
lies between the two, which are less than two days apart. -/
theorem instantAt?_of_shown (horder : OffsetTable.InOrder zone.changes) (hinstant : instant.inRange)
    (hshown : zone.wallClock instant = wall) :
    ∃ first, zone.wallClock first = wall ∧ zone.IsFirst first ∧
      (first.inRange → zone.instantAt? wall = some first) ∧
      (zone.IsProper →
        (∀ change ∈ zone.changes, (firstDay + 2) * secondsPerDay ≤ change.second) →
          zone.instantAt? wall = some first) ∧
      (∀ zones text, ZoneDatabase.Forall zones OffsetTable.IsProper →
        ZoneDatabase.Forall zones OffsetTable.HasCivilChanges →
          ofTextIn? zones text = some zone → zone.instantAt? wall = some first) := by
  subst hshown
  obtain ⟨first, hsame, hfirst, hfound, hwhere⟩ := exists_isFirst_of_shown horder instant
  refine ⟨first, hsame, hfirst, hfound, fun hproper hsettled => ?_,
    fun zones text hoffsets hchanges htext => ?_⟩
  · have hnear := natAbs_sub_lt_of_wallClock_eq hproper hsame
    have hrange : first.inRange := by
      rcases hwhere with rfl | ⟨change, hchange, hbefore, hbehind⟩
      · exact hinstant
      · have hlate := hsettled change hchange
        have hbegin : (Timestamp.mk (firstDay * secondsPerDay) 0).inRange := by decide
        refine Timestamp.inRange_between hbegin hinstant ?_ (by omega)
        unfold secondsPerDay at hlate ⊢
        dsimp only
        omega
    exact hfound hrange
  · obtain ⟨named, hnamed, hsame', hfirst'⟩ := exists_instantAt?_wallClock
      (isProper_of_ofTextIn? hoffsets htext) (hasCivilChanges_of_ofTextIn? hchanges htext) hinstant
    rwa [hfirst.eq hfirst' (hsame'.trans hsame.symm)] at hnamed

/-- Half past two in the night in which Berlin puts its clock back from three to two, seen for the
second time: the first half past two is found, an hour before. -/
theorem instantAt?_of_second_showing :
    let zone := Zone.named "Europe/Berlin" centralEurope
    let wall : Timestamp := ⟨1761445800, 0⟩
    (OffsetTable.InOrder zone.changes ∧ zone.wallClock ⟨1761442200, 0⟩ = wall) ∧
      zone.wallClock ⟨1761438600, 0⟩ = wall ∧ zone.IsFirst ⟨1761438600, 0⟩ ∧
      zone.instantAt? wall = some ⟨1761438600, 0⟩ := by
  intro zone wall
  have hproper : zone.IsProper := by decide +kernel
  have hshown : zone.wallClock ⟨1761442200, 0⟩ = wall := by decide +kernel
  have hsettled : ∀ change ∈ zone.changes, (firstDay + 2) * secondsPerDay ≤ change.second := by
    decide +kernel
  have hvalue : zone.instantAt? wall = some ⟨1761438600, 0⟩ := by decide +kernel
  obtain ⟨first, hwall, hfirst, -, hfound, -⟩ :=
    instantAt?_of_shown hproper.inOrder_changes (by decide) hshown
  obtain rfl : first = ⟨1761438600, 0⟩ :=
    Option.some.inj ((hfound hproper hsettled).symm.trans hvalue)
  exact ⟨⟨hproper.inOrder_changes, hshown⟩, hwall, hfirst, hvalue⟩

end Zone

end SheetFormula
