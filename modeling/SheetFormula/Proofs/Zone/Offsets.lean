import SheetFormula.Proofs.Calendar.Timestamp
import SheetFormula.Zone.Reader
import Mathlib.Data.List.Chain

/-!
# Offsets of zones

The wall clock of a zone is ahead of universal time by less than a day, or behind it. An instant
that is found for a wall-clock time is one at which that time is shown, or, for a time that is never
shown, the time an hour later.

## Main definitions

* `SheetFormula.OffsetTable.IsProper`, `SheetFormula.Zone.IsProper` — offsets of less than a day.
* `SheetFormula.OffsetTable.Spaced` — changes that are an hour apart or more.
* `SheetFormula.OffsetTable.IsOrdinary`, `SheetFormula.Zone.IsOrdinary` — such changes, and offsets
  that are less than a day when they are rounded to minutes.
* `SheetFormula.ZoneDatabase.Forall` — what holds of all tables of a database.

## Main results

* `SheetFormula.Zone.eq_of_ofTextIn?` — the zones that texts name.
* `SheetFormula.Zone.isProper_of_ofTextIn?` — these zones have such offsets if the tables of the
  database do.
* `SheetFormula.Zone.natAbs_offsetAt_lt` — the wall clock is less than a day away.
* `SheetFormula.Zone.wallClock_of_instantAt?` — what the wall clock shows at an instant that has
  been found for it.
* `SheetFormula.Zone.inRange_of_instantAt?` — what is found for a time in the range of dates.
-/

set_option relaxedAutoImplicit false
set_option autoImplicit false

namespace SheetFormula

open SheetFormula.Calendar (Timestamp)

/-! ## Offsets of less than a day -/

/-- Changes in the order of time. -/
def OffsetTable.InOrder (changes : List OffsetChange) : Prop :=
  changes.IsChain fun change next => change.second ≤ next.second

/-- Changes that are at least an hour apart, such that the clock never shows less after one than
after the one before it. -/
def OffsetTable.Spaced (changes : List OffsetChange) : Prop :=
  changes.IsChain fun change next => change.second + 3600 ≤ next.second ∧
    change.second + change.offset ≤ next.second + next.offset

/-- The offsets of a table are less than a day, and it has its changes in the order of time. -/
structure OffsetTable.IsProper (table : OffsetTable) : Prop where
  initial : table.initial.natAbs < 86400
  changes : ∀ change ∈ table.changes, change.offset.natAbs < 86400
  inOrder : InOrder table.changes

instance (changes : List OffsetChange) : Decidable (OffsetTable.InOrder changes) :=
  inferInstanceAs (Decidable (List.IsChain _ changes))

instance (changes : List OffsetChange) : Decidable (OffsetTable.Spaced changes) :=
  inferInstanceAs (Decidable (List.IsChain _ changes))

instance (table : OffsetTable) : Decidable table.IsProper :=
  decidable_of_iff (table.initial.natAbs < 86400 ∧
      (∀ change ∈ table.changes, change.offset.natAbs < 86400) ∧
      OffsetTable.InOrder table.changes)
    ⟨fun h => ⟨h.1, h.2.1, h.2.2⟩, fun h => ⟨h.initial, h.changes, h.inOrder⟩⟩

/-- The offsets of a zone are less than a day, and a table has its changes in the order of time. -/
def Zone.IsProper : Zone → Prop
  | .utc => True
  | .fixed offset => offset.natAbs < 86400
  | .named _ table => table.IsProper

/-- The offsets of a table are less than a day when they are rounded to minutes, and it has its
changes in the order of time. -/
structure OffsetTable.IsOrdinary (table : OffsetTable) : Prop where
  initial : table.initial.natAbs < 86370
  changes : ∀ change ∈ table.changes, change.offset.natAbs < 86370
  inOrder : InOrder table.changes

instance (table : OffsetTable) : Decidable table.IsOrdinary :=
  decidable_of_iff (table.initial.natAbs < 86370 ∧
      (∀ change ∈ table.changes, change.offset.natAbs < 86370) ∧
      OffsetTable.InOrder table.changes)
    ⟨fun h => ⟨h.1, h.2.1, h.2.2⟩, fun h => ⟨h.initial, h.changes, h.inOrder⟩⟩

/-- The offsets of a zone are less than a day when they are rounded to minutes, and a table has its
changes in the order of time. -/
def Zone.IsOrdinary : Zone → Prop
  | .utc => True
  | .fixed offset => offset.natAbs < 86370
  | .named _ table => table.IsOrdinary

/-- What holds of the tables of all zones of a database. -/
def ZoneDatabase.Forall (zones : ZoneDatabase) (holds : OffsetTable → Prop) : Prop :=
  ∀ name table, zones name = some table → holds table

instance (zone : Zone) : Decidable zone.IsProper :=
  match zone with
  | .utc => isTrue trivial
  | .fixed offset => inferInstanceAs (Decidable (offset.natAbs < 86400))
  | .named _ table => inferInstanceAs (Decidable table.IsProper)

namespace OffsetTable

/-- What holds of all offsets of a table holds of the one at a second. -/
lemma offsetFrom_of_forall (holds : ℤ → Prop) {offset : ℤ} {changes : List OffsetChange}
    (hoffset : holds offset) (hchanges : ∀ change ∈ changes, holds change.offset) (second : ℤ) :
    holds (offsetFrom offset changes second) := by
  induction changes generalizing offset with
  | nil => exact hoffset
  | cons change rest ih =>
    rw [List.forall_mem_cons] at hchanges
    rw [offsetFrom]
    split_ifs with hbefore
    · exact hoffset
    · exact ih hchanges.1 hchanges.2

/-- Ordinary tables are proper. -/
lemma IsOrdinary.isProper {table : OffsetTable} (h : table.IsOrdinary) : table.IsProper where
  initial := h.initial.trans (by decide)
  changes change hchange := (h.changes change hchange).trans (by decide)
  inOrder := h.inOrder

/-- The offset of a proper table at a second is less than a day. -/
lemma IsProper.natAbs_offsetAt_lt {table : OffsetTable} (h : table.IsProper) (second : ℤ) :
    (table.offsetAt second).natAbs < 86400 :=
  offsetFrom_of_forall (Int.natAbs · < 86400) h.initial h.changes second

/-- Behind a change the clock never shows less than at the change. -/
lemma Spaced.le_shown {change : OffsetChange} {rest : List OffsetChange}
    (h : Spaced (change :: rest)) {second : ℤ} (hsecond : change.second ≤ second) :
    change.second + change.offset ≤ second + offsetFrom change.offset rest second := by
  induction rest generalizing change with
  | nil =>
    simp only [offsetFrom]
    omega
  | cons next rest ih =>
    obtain ⟨hnext, hrest⟩ := List.isChain_cons.mp h
    rw [offsetFrom]
    split_ifs with hbefore
    · omega
    · exact (hnext next rfl).2.trans (ih hrest (by omega))

/-- What the clock shows in the hour behind a change is found there. -/
lemma Spaced.wallOffsetFrom?_hour {change : OffsetChange} {rest : List OffsetChange}
    (h : Spaced (change :: rest)) {wall : ℤ} (hbegin : change.second + change.offset ≤ wall)
    (hend : wall < change.second + change.offset + 3600) :
    wallOffsetFrom? (some change.second) change.offset rest wall = some change.offset := by
  have hspan : (some change.second).all (· ≤ wall - change.offset) = true := by
    simp only [Option.all_some, decide_eq_true_eq]
    omega
  cases rest with
  | nil => rw [wallOffsetFrom?, if_pos hspan]
  | cons next rest =>
    have hnext := (List.IsChain.rel_head? h rfl).1
    rw [wallOffsetFrom?, if_pos ⟨hspan, by omega⟩]

/-- The offset of the span of time in which a second is shown holds at the instant of that second.

**Proof sketch.** Induction on the changes. A second that is not shown before a change is looked for
behind it, and the instant that is found there is not before the change. -/
lemma offsetFrom_of_wallOffsetFrom? {since : Option ℤ} {offset found : ℤ}
    {changes : List OffsetChange} {wall : ℤ} (horder : InOrder changes)
    (hsince : ∀ second ∈ since, ∀ change ∈ changes.head?, second ≤ change.second)
    (h : wallOffsetFrom? since offset changes wall = some found) :
    offsetFrom offset changes (wall - found) = found ∧ ∀ second ∈ since, second ≤ wall - found := by
  induction changes generalizing since offset with
  | nil =>
    rw [wallOffsetFrom?] at h
    split_ifs at h with hspan
    obtain rfl : offset = found := by simpa using h
    exact ⟨rfl, by simpa [Option.all_eq_true] using hspan⟩
  | cons change rest ih =>
    obtain ⟨hnext, hrest⟩ := List.isChain_cons.mp horder
    rw [wallOffsetFrom?] at h
    split_ifs at h with hspan
    · obtain rfl : offset = found := by simpa using h
      refine ⟨by rw [offsetFrom, if_pos hspan.2], ?_⟩
      simpa [Option.all_eq_true] using hspan.1
    · obtain ⟨hoffset, hlater⟩ := ih hrest (by simpa using hnext) h
      have hbehind : change.second ≤ wall - found := hlater change.second rfl
      refine ⟨by rw [offsetFrom, if_neg (not_lt_of_ge hbehind), hoffset], ?_⟩
      intro second hsecond
      exact (hsince second hsecond change rfl).trans hbehind

/-- The offset of the first span of time in which a second is shown holds at the instant of that
second. -/
lemma offsetAt_of_wallOffset? {table : OffsetTable} (horder : InOrder table.changes)
    {wall found : ℤ} (h : table.wallOffset? wall = some found) :
    table.offsetAt (wall - found) = found :=
  (offsetFrom_of_wallOffsetFrom? horder (by simp) h).1

end OffsetTable

namespace Zone

/-! ## The zones that texts name -/

variable {zones : ZoneDatabase}

/-- A text names universal time, a fixed number of hours and minutes, or a zone of the database. -/
lemma eq_of_ofTextIn? {text : String} {zone : Zone} (h : ofTextIn? zones text = some zone) :
    zone = .utc ∨
      (∃ offset : ℤ, zone = .fixed offset ∧ 60 ∣ offset ∧ offset.natAbs < 86340) ∨
      ∃ name table, zones name = some table ∧ zone = .named name table := by
  unfold ofTextIn? at h
  dsimp only at h
  split_ifs at h with hutc
  · exact .inl (Option.some.inj h).symm
  · split at h
    next negative hours minutes hread =>
      unfold ofOffset? at h
      dsimp only at h
      split_ifs at h with hlarge hzero hsign
      · exact .inl (Option.some.inj h).symm
      all_goals exact .inr (.inl ⟨_, (Option.some.inj h).symm, by omega, by omega⟩)
    next =>
      obtain ⟨table, htable, rfl⟩ := Option.map_eq_some_iff.mp h
      exact .inr (.inr ⟨_, table, htable, rfl⟩)

/-- **The zones that texts name are proper** if the tables of the database are. -/
theorem isProper_of_ofTextIn? (hzones : zones.Forall OffsetTable.IsProper) {text : String}
    {zone : Zone} (h : ofTextIn? zones text = some zone) : zone.IsProper := by
  rcases eq_of_ofTextIn? h with rfl | ⟨offset, rfl, -, hday⟩ | ⟨name, table, htable, rfl⟩
  · trivial
  · exact hday.trans (by decide)
  · exact hzones name table htable

/-- **The zones that texts name are ordinary** if the tables of the database are. -/
theorem isOrdinary_of_ofTextIn? (hzones : zones.Forall OffsetTable.IsOrdinary) {text : String}
    {zone : Zone} (h : ofTextIn? zones text = some zone) : zone.IsOrdinary := by
  rcases eq_of_ofTextIn? h with rfl | ⟨offset, rfl, -, hday⟩ | ⟨name, table, htable, rfl⟩
  · trivial
  · exact hday.trans (by decide)
  · exact hzones name table htable

/-! ## From instants to the wall clock and back -/

variable {zone : Zone} {instant wall : Timestamp}

/-- Ordinary zones are proper. -/
lemma IsOrdinary.isProper (h : zone.IsOrdinary) : zone.IsProper := by
  cases zone with
  | utc => trivial
  | fixed offset => exact Nat.lt_trans h (by decide)
  | named name table => exact OffsetTable.IsOrdinary.isProper h

/-- The offsets of an ordinary zone are less than a day when they are rounded to minutes. -/
lemma IsOrdinary.natAbs_offsetAt_lt (h : zone.IsOrdinary) (instant : Timestamp) :
    (zone.offsetAt instant).natAbs < 86370 := by
  cases zone with
  | utc => exact (by decide : (0 : ℤ).natAbs < 86370)
  | fixed offset => exact h
  | named name table =>
    exact OffsetTable.offsetFrom_of_forall (Int.natAbs · < 86370) h.initial h.changes instant.seconds

/-- **The wall clock is less than a day away from universal time.** -/
theorem natAbs_offsetAt_lt (hzone : zone.IsProper) (instant : Timestamp) :
    (zone.offsetAt instant).natAbs < 86400 := by
  cases zone with
  | utc => exact (by decide : (0 : ℤ).natAbs < 86400)
  | fixed offset => exact hzone
  | named name table => exact OffsetTable.IsProper.natAbs_offsetAt_lt hzone _

/-- The offset of the first span of time in which a time is shown is less than a day. -/
lemma natAbs_wallOffset?_lt {table : OffsetTable} (htable : table.IsProper) {wall offset : ℤ}
    (h : table.wallOffset? wall = some offset) : offset.natAbs < 86400 := by
  rw [← OffsetTable.offsetAt_of_wallOffset? htable.inOrder h]
  exact htable.natAbs_offsetAt_lt _

/-- At the first instant of a wall-clock time, that time is shown. -/
lemma wallClock_of_firstInstant? {name : String} {table : OffsetTable} (htable : table.IsProper)
    (h : firstInstant? table wall = some instant) :
    wallClock (.named name table) instant = wall := by
  obtain ⟨offset, hoffset, rfl⟩ := Option.map_eq_some_iff.mp h
  have hfound : table.offsetAt (wall.seconds + -offset) = offset :=
    OffsetTable.offsetAt_of_wallOffset? htable.inOrder hoffset
  simp only [wallClock, offsetAt, Timestamp.shift, hfound, Int.neg_add_cancel_right]

/-- At the first instant of a wall-clock time in the range of dates, that time is shown. -/
lemma wallClock_of_shownAt? {name : String} {table : OffsetTable} (htable : table.IsProper)
    (h : shownAt? table wall = some instant) :
    wallClock (.named name table) instant = wall ∧ instant.inRange := by
  obtain ⟨first, hfirst, h⟩ := Option.bind_eq_some_iff.mp h
  obtain ⟨rfl, hrange⟩ := Timestamp.checked_eq_some.mp h
  exact ⟨wallClock_of_firstInstant? htable hfirst, hrange⟩

/-- An instant that is found is the first one of a time or of the time an hour later. -/
lemma shownAt?_of_instantAt? {name : String} {table : OffsetTable}
    (h : instantAt? (.named name table) wall = some instant) :
    shownAt? table wall = some instant ∨
      ∃ later, wall.plusMillis? hourMillis = some later ∧ shownAt? table later = some instant := by
  rcases Option.or_eq_some_iff.mp h with hshown | ⟨-, hlater⟩
  · exact .inl hshown
  · exact .inr (Option.bind_eq_some_iff.mp hlater)

/-- **An instant that is found for a wall-clock time** is one at which it is shown, or the time an
hour later, if it is never shown. -/
theorem wallClock_of_instantAt? (hzone : zone.IsProper) (h : zone.instantAt? wall = some instant) :
    zone.wallClock instant = wall ∨ wall.plusMillis? hourMillis = some (zone.wallClock instant) := by
  cases zone with
  | utc =>
    obtain rfl : wall = instant := by simpa [instantAt?] using h
    exact .inl (by simp [wallClock, offsetAt, Timestamp.shift])
  | fixed offset =>
    obtain ⟨rfl, -⟩ := Timestamp.checked_eq_some.mp h
    exact .inl (by simp [wallClock, offsetAt, Timestamp.shift])
  | named name table =>
    rcases shownAt?_of_instantAt? h with hshown | ⟨later, hlater, hshown⟩
    · exact .inl (wallClock_of_shownAt? hzone hshown).1
    · exact .inr (by rw [(wallClock_of_shownAt? hzone hshown).1, hlater])

/-- **An instant that is found for a time in the range of dates** is in the range, and so is its
wall clock. -/
theorem inRange_of_instantAt? (hwall : wall.inRange) (h : zone.instantAt? wall = some instant) :
    instant.inRange ∧ (zone.IsProper → (zone.wallClock instant).inRange) := by
  constructor
  · cases zone with
    | utc =>
      obtain rfl : wall = instant := by simpa [instantAt?] using h
      exact hwall
    | fixed offset => exact Timestamp.inRange_of_checked h
    | named name table =>
      rcases shownAt?_of_instantAt? h with hshown | ⟨later, -, hshown⟩ <;>
      · obtain ⟨first, -, hchecked⟩ := Option.bind_eq_some_iff.mp hshown
        exact Timestamp.inRange_of_checked hchecked
  · intro hzone
    rcases wallClock_of_instantAt? hzone h with hsame | hlater
    · rw [hsame]
      exact hwall
    · exact Timestamp.inRange_of_checked hlater

end Zone

end SheetFormula
