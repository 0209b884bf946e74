import SheetFormula.Proofs.Zone.Resolution

/-!
# Wall-clock times that are skipped

When a clock is put forward, it jumps over some wall-clock times, which are never shown. Such a time
is read an hour later. If the clock jumps by an hour, that is the time as the clock would show it
had it not been put forward, moved by the jump; if it jumps by less, the time that is read lies
further behind the jump; and if it jumps by more, the hour may not lead out of what is skipped, and
then there is no instant at all. All other times are found.

## Main definitions

* `SheetFormula.OffsetTable.JumpsOver` — a clock jumps over a wall-clock time.
* `SheetFormula.Zone.Shows` — a clock shows a wall-clock time.

## Main results

* `SheetFormula.OffsetTable.wallOffset?_hour_later` — what is found an hour after a second that is
  skipped.
* `SheetFormula.Zone.instantAt?_of_jumpsOver` — the instant of a wall-clock time that is skipped.
* `SheetFormula.Zone.exists_instantAt?_iff` — a time is found if it or the time an hour later is
  shown.
* `SheetFormula.Zone.half_hour_jump` — a time that is not moved by the jump.
-/

set_option relaxedAutoImplicit false
set_option autoImplicit false

namespace SheetFormula

open SheetFormula.Calendar (Timestamp nanosPerSecond)

namespace OffsetTable

/-- The offset changes at an instant, and the clock jumps over a second that it would have shown
soon after. The offset before all changes is given. -/
structure JumpsOverFrom (offset : ℤ) (changes : List OffsetChange)
    (wall second before after : ℤ) : Prop where
  offsetBefore : offsetFrom offset changes (second - 1) = before
  offsetAfter : offsetFrom offset changes second = after
  start : second + before ≤ wall
  finish : wall < second + after

/-- What is shown before a change and those behind it begin is not found behind it. -/
lemma Spaced.wallOffsetFrom?_eq_none {change : OffsetChange} {rest : List OffsetChange}
    (h : Spaced (change :: rest)) {wall : ℤ} (hwall : wall < change.second + change.offset) :
    wallOffsetFrom? (some change.second) change.offset rest wall = none := by
  have hspan : ¬ (some change.second).all (· ≤ wall - change.offset) = true := by
    simp only [Option.all_some, decide_eq_true_eq]
    omega
  induction rest generalizing change with
  | nil => rw [wallOffsetFrom?, if_neg hspan]
  | cons next rest ih =>
    obtain ⟨hnext, hrest⟩ := List.isChain_cons.mp h
    have hlater := (hnext next rfl).2
    rw [wallOffsetFrom?, if_neg fun h => hspan h.1]
    refine ih hrest (by omega) ?_
    simp only [Option.all_some, decide_eq_true_eq]
    omega

/-- The offset right at a change is the new one. -/
lemma Spaced.offsetFrom_self {change : OffsetChange} {rest : List OffsetChange}
    (h : Spaced (change :: rest)) :
    offsetFrom change.offset rest change.second = change.offset := by
  cases rest with
  | nil => rfl
  | cons next rest =>
    have hnext := (List.IsChain.rel_head? h rfl).1
    rw [offsetFrom, if_pos (by omega)]

/-- A jump over a second that is not shown behind a change is at that change or before it. -/
lemma JumpsOverFrom.eq_of_skipped {offset : ℤ} {change : OffsetChange} {rest : List OffsetChange}
    {wall second before after : ℤ} (hspaced : Spaced (change :: rest))
    (hjump : JumpsOverFrom offset (change :: rest) wall second before after)
    (hskipped : wall < change.second + change.offset) :
    second = change.second ∧ before = offset ∧ after = change.offset := by
  obtain ⟨hbefore, hafter, hstart, hfinish⟩ := hjump
  rw [offsetFrom] at hbefore hafter
  rcases lt_trichotomy second change.second with hearly | rfl | hlate
  · rw [if_pos (by omega)] at hbefore hafter
    omega
  · rw [if_pos (by omega)] at hbefore
    rw [if_neg (lt_irrefl _), hspaced.offsetFrom_self] at hafter
    exact ⟨rfl, hbefore.symm, hafter.symm⟩
  · have hshown := hspaced.le_shown (show change.second ≤ second - 1 by omega)
    rw [if_neg (by omega)] at hbefore
    omega

/-- A jump over a second behind the start of a span lies behind the change that begins it. -/
lemma JumpsOverFrom.tail {offset : ℤ} {change : OffsetChange} {rest : List OffsetChange}
    {wall second before after : ℤ} (hspaced : Spaced (change :: rest))
    (hjump : JumpsOverFrom offset (change :: rest) wall second before after)
    (hbehind : change.second + change.offset ≤ wall) :
    JumpsOverFrom change.offset rest wall second before after := by
  obtain ⟨hbefore, hafter, hstart, hfinish⟩ := hjump
  rw [offsetFrom] at hbefore hafter
  have hlate : change.second < second := by
    rcases lt_trichotomy second change.second with hearly | rfl | hlate
    · rw [if_pos (by omega)] at hbefore hafter
      omega
    · rw [if_neg (lt_irrefl _), hspaced.offsetFrom_self] at hafter
      omega
    · exact hlate
  rw [if_neg (by omega)] at hbefore hafter
  exact ⟨hbefore, hafter, hstart, hfinish⟩

/-- An hour after a second that is skipped, the offset behind the jump is found, if the jump is over
by then, and otherwise nothing.

**Proof sketch.** Induction on the changes. As the second is not shown in the span at hand, it lies
behind its end; so it is skipped by the next change or shown no earlier than behind it. -/
lemma wallOffsetFrom?_hour_later {since : Option ℤ} {offset : ℤ} {changes : List OffsetChange}
    {wall second before after : ℤ} (hspaced : Spaced changes)
    (hsince : since.all (· ≤ wall - offset) = true)
    (hhidden : wallOffsetFrom? since offset changes wall = none)
    (hjump : JumpsOverFrom offset changes wall second before after) :
    wallOffsetFrom? since offset changes (wall + 3600) =
      if second + after ≤ wall + 3600 then some after else none := by
  induction changes generalizing since offset with
  | nil =>
    rw [wallOffsetFrom?, if_pos hsince] at hhidden
    cases hhidden
  | cons change rest ih =>
    have hpast : ¬ wall - offset < change.second := by
      intro hspan
      rw [wallOffsetFrom?, if_pos ⟨hsince, hspan⟩] at hhidden
      cases hhidden
    rw [wallOffsetFrom?, if_neg fun h => hpast h.2] at hhidden
    rw [wallOffsetFrom?, if_neg fun h => hpast (by omega)]
    rcases lt_or_ge wall (change.second + change.offset) with hskipped | hbehind
    · obtain ⟨rfl, rfl, rfl⟩ := hjump.eq_of_skipped hspaced hskipped
      split_ifs with hover
      · exact hspaced.wallOffsetFrom?_hour hover (by omega)
      · exact hspaced.wallOffsetFrom?_eq_none (by omega)
    · refine ih (List.isChain_cons.mp hspaced).2 ?_ hhidden (hjump.tail hspaced hbehind)
      simp only [Option.all_some, decide_eq_true_eq]
      omega

/-- Where the offset is not the same as a second before, there is a change. -/
lemma exists_change_of_ne {offset : ℤ} {changes : List OffsetChange} {second : ℤ}
    (h : offsetFrom offset changes (second - 1) ≠ offsetFrom offset changes second) :
    ∃ change ∈ changes, change.second = second := by
  induction changes generalizing offset with
  | nil => exact absurd rfl h
  | cons change rest ih =>
    rw [offsetFrom, offsetFrom] at h
    split_ifs at h with hearly hbefore hlate
    · exact absurd rfl h
    · exact ⟨change, List.mem_cons_self, by omega⟩
    · omega
    · obtain ⟨next, hnext, hsecond⟩ := ih h
      exact ⟨next, List.mem_cons_of_mem _ hnext, hsecond⟩

variable {table : OffsetTable} {wall second before after : ℤ}

/-- The offset of a table changes at an instant, and the clock jumps over a second that it would
have shown soon after. -/
def JumpsOver (table : OffsetTable) (wall second before after : ℤ) : Prop :=
  JumpsOverFrom table.initial table.changes wall second before after

/-- A clock jumps where there is a change. -/
lemma JumpsOver.exists_change (h : table.JumpsOver wall second before after) :
    ∃ change ∈ table.changes, change.second = second := by
  obtain ⟨hbefore, hafter, hstart, hfinish⟩ := h
  have hne : offsetFrom table.initial table.changes (second - 1) ≠
      offsetFrom table.initial table.changes second := by
    rw [hbefore, hafter]
    omega
  exact exists_change_of_ne hne

/-- **What is found an hour after a second that is skipped.** -/
theorem wallOffset?_hour_later (hspaced : Spaced table.changes)
    (hhidden : table.wallOffset? wall = none) (hjump : table.JumpsOver wall second before after) :
    table.wallOffset? (wall + 3600) = if second + after ≤ wall + 3600 then some after else none :=
  wallOffsetFrom?_hour_later hspaced rfl hhidden hjump

end OffsetTable

namespace Zone

/-- The time an hour later, which leads out of a leap second. -/
lemma plusMillis_hourMillis {wall : Timestamp} (hnanos : wall.nanos < 2 * nanosPerSecond) :
    wall.plusMillis hourMillis = ⟨wall.seconds + 3600, wall.nanos % nanosPerSecond⟩ := by
  have hhour : wall.plusMillis hourMillis = wall.plus 3600 0 := rfl
  rw [hhour]
  unfold Timestamp.plus Timestamp.isLeap Timestamp.normal
  unfold nanosPerSecond at hnanos ⊢
  split_ifs with hleap hforward hback
  · simp only [decide_eq_true_eq] at hleap
    rw [Timestamp.mk.injEq]
    omega
  · omega
  · omega
  · simp only [decide_eq_true_eq] at hleap
    rw [Timestamp.mk.injEq]
    omega

/-- A clock never shows a time exactly where its table finds no second for it. -/
lemma hidden_iff {name : String} {table : OffsetTable} (htable : table.IsProper)
    {wall : Timestamp} :
    (∀ instant, wallClock (.named name table) instant ≠ wall) ↔
      table.wallOffset? wall.seconds = none := by
  rw [OffsetTable.wallOffset?_eq_none_iff htable]
  constructor
  · intro h second hshown
    refine h ⟨second, wall.nanos⟩ ?_
    obtain ⟨seconds, nanos⟩ := wall
    exact congrArg (Timestamp.mk · nanos) hshown
  · rintro h instant rfl
    exact h instant.seconds rfl

/-- Where a table finds no second, there is no instant. -/
lemma shownAt?_eq_none {table : OffsetTable} {wall : Timestamp}
    (h : table.wallOffset? wall.seconds = none) : shownAt? table wall = none := by
  rw [shownAt?, firstInstant?, h, Option.map_none, Option.bind_none]

/-- A time that is not found is read as the one an hour later. -/
lemma instantAt?_of_hidden {name : String} {table : OffsetTable} {wall : Timestamp}
    (h : table.wallOffset? wall.seconds = none) :
    instantAt? (.named name table) wall =
      (wall.plusMillis? hourMillis).bind (shownAt? table) := by
  rw [instantAt?, shownAt?_eq_none h, Option.none_or]

/-- **The instant of a wall-clock time that is skipped.** Let a clock jump over a time that it never
shows. That time is read as the one an hour later, with the offset behind the jump; if that is still
skipped, there is no instant. So it is read with the offset before the jump, and moved by as much as
the clock jumps, exactly if the clock jumps by an hour and the time is no leap second.

**Proof sketch.** The time itself is not found. An hour later the offset behind the jump is found if
the jump is over by then, by induction on the changes. The instant is within two days of a change,
and so in the range of dates. -/
theorem instantAt?_of_jumpsOver {name : String} {table : OffsetTable} (hproper : table.IsProper)
    (hspaced : OffsetTable.Spaced table.changes) (hcivil : table.HasCivilChanges)
    {wall : Timestamp} (hnanos : wall.nanos < 2 * nanosPerSecond)
    (hhidden : ∀ instant, wallClock (.named name table) instant ≠ wall)
    {second before after : ℤ} (hjump : table.JumpsOver wall.seconds second before after) :
    let zone := Zone.named name table
    let later := wall.plusMillis hourMillis
    (zone.instantAt? wall =
      if second + after ≤ later.seconds then some (later.shift (-after)) else none) ∧
    (∀ instant, zone.instantAt? wall = some instant → zone.wallClock instant = later) ∧
    (zone.instantAt? wall = some (wall.shift (-before)) ↔
      after - before = 3600 ∧ wall.isLeap = false) := by
  intro zone later
  obtain ⟨change, hchange, hsecond⟩ := hjump.exists_change
  obtain ⟨hbefore, hafter, hstart, hfinish⟩ := id hjump
  have hbefore' : before.natAbs < 86400 := hbefore ▸ hproper.natAbs_offsetAt_lt (second - 1)
  have hafter' : after.natAbs < 86400 := hafter ▸ hproper.natAbs_offsetAt_lt second
  have hlater : later = ⟨wall.seconds + 3600, wall.nanos % nanosPerSecond⟩ :=
    plusMillis_hourMillis hnanos
  have hseconds : later.seconds = wall.seconds + 3600 := congrArg Timestamp.seconds hlater
  have hhidden' := (hidden_iff hproper).mp hhidden
  have hrange : later.checked = some later :=
    Timestamp.checked_eq_some.mpr ⟨rfl, hcivil.inRange_near hchange (by omega)⟩
  have hrange' : (later.shift (-after)).inRange := by
    refine hcivil.inRange_near hchange ?_
    change (later.seconds + -after - change.second).natAbs < 2 * 86400
    omega
  have hshown : shownAt? table later =
      if second + after ≤ later.seconds then some (later.shift (-after)) else none := by
    have hfound := OffsetTable.wallOffset?_hour_later hspaced hhidden' hjump
    rw [← hseconds] at hfound
    split_ifs at hfound ⊢ with hover
    · exact shownAt?_of_wallOffset? hfound hrange'
    · exact shownAt?_eq_none hfound
  have hvalue : zone.instantAt? wall =
      if second + after ≤ later.seconds then some (later.shift (-after)) else none := by
    rw [instantAt?_of_hidden hhidden', Timestamp.plusMillis?, hrange, Option.bind_some, hshown]
  refine ⟨hvalue, fun instant hinstant => ?_, ?_⟩
  · rw [hvalue, ← hshown] at hinstant
    exact (wallClock_of_shownAt? hproper hinstant).1
  · rw [hvalue, hseconds, hlater]
    unfold Timestamp.shift Timestamp.isLeap
    constructor
    · intro h
      split_ifs at h with hover
      simp only [Option.some.injEq, Timestamp.mk.injEq] at h
      unfold nanosPerSecond at h ⊢
      simp only [decide_eq_false_iff_not]
      omega
    · rintro ⟨hhour, hleap⟩
      unfold nanosPerSecond at hleap ⊢
      simp only [decide_eq_false_iff_not] at hleap
      rw [if_pos (by omega), Option.some.injEq, Timestamp.mk.injEq]
      dsimp only
      omega

/-- The clock of a zone shows a wall-clock time at some instant. -/
def Shows (zone : Zone) (wall : Timestamp) : Prop :=
  ∃ instant, zone.wallClock instant = wall

/-- Universal time and fixed offsets show every time. -/
lemma shows_of_offset {zone : Zone} {offset : ℤ} (h : ∀ instant, zone.offsetAt instant = offset)
    (wall : Timestamp) : zone.Shows wall := by
  refine ⟨wall.shift (-offset), ?_⟩
  rw [wallClock, h, Timestamp.shift_shift, neg_add_cancel, Timestamp.shift_zero]

/-- A clock shows a time exactly where its table finds a second for it. -/
lemma shows_named_iff {name : String} {table : OffsetTable} (htable : table.IsProper)
    {wall : Timestamp} :
    Shows (.named name table) wall ↔ table.wallOffset? wall.seconds ≠ none := by
  rw [ne_eq, ← hidden_iff htable]
  exact not_forall_not.symm

/-- **A wall-clock time is found exactly if the clock shows it or the time an hour later.** This is
said of the years of four digits, outside leap seconds. -/
theorem exists_instantAt?_iff {zone : Zone} (hproper : zone.IsProper) {wall : Timestamp}
    (hleap : wall.isLeap = false) (hyear : wall.HasFourDigitYear) :
    (∃ instant, zone.instantAt? wall = some instant) ↔
      zone.Shows wall ∨ zone.Shows (wall.shift 3600) := by
  cases zone with
  | utc => exact ⟨fun _ => .inl (shows_of_offset (fun _ => rfl) wall), fun _ => ⟨wall, rfl⟩⟩
  | fixed offset =>
    have hoffset : offset.natAbs < 86400 := hproper
    exact ⟨fun _ => .inl (shows_of_offset (fun _ => rfl) wall), fun _ =>
      ⟨_, Timestamp.checked_eq_some.mpr ⟨rfl, hyear.inRange_shift (by omega)⟩⟩⟩
  | named name table =>
    rw [shows_named_iff hproper, shows_named_iff hproper]
    cases hfound : table.wallOffset? wall.seconds with
    | some offset =>
      have hoffset := natAbs_wallOffset?_lt hproper hfound
      have hrange := hyear.inRange_shift (show (-offset).natAbs < 2 * 86400 by omega)
      refine ⟨fun _ => .inl (by simp), fun _ => ?_⟩
      rw [instantAt?, shownAt?_of_wallOffset? hfound hrange]
      exact ⟨_, Option.some_or⟩
    | none =>
      have hlater : wall.plusMillis? hourMillis = some (wall.shift 3600) := by
        have hplus : wall.plusMillis hourMillis = wall.shift 3600 :=
          Timestamp.plusMillis_of_not_isLeap hleap 3600
        rw [Timestamp.plusMillis?, hplus]
        exact Timestamp.checked_eq_some.mpr ⟨rfl, hyear.inRange_shift (by decide)⟩
      rw [instantAt?_of_hidden hfound, hlater, Option.bind_some]
      cases hfound' : table.wallOffset? (wall.shift 3600).seconds with
      | none => simp [shownAt?_eq_none hfound']
      | some offset =>
        have hoffset := natAbs_wallOffset?_lt hproper hfound'
        have hrange : ((wall.shift 3600).shift (-offset)).inRange := by
          rw [Timestamp.shift_shift]
          exact hyear.inRange_shift (by omega)
        exact ⟨fun _ => .inr (by simp), fun _ => ⟨_, shownAt?_of_wallOffset? hfound' hrange⟩⟩

/-- Half past two in the night in which Berlin puts its clock forward from two to three: the clock
jumps by an hour, and the time is moved by that. -/
theorem instantAt?_in_berlin :
    let zone := Zone.named "Europe/Berlin" centralEurope
    let wall : Timestamp := ⟨1743301800, 0⟩
    ofText? "Europe/Berlin" = some zone ∧ (∀ instant, zone.wallClock instant ≠ wall) ∧
      centralEurope.JumpsOver wall.seconds 1743296400 3600 7200 ∧
      zone.instantAt? wall = some (wall.shift (-3600)) ∧
      zone.wallClock (wall.shift (-3600)) = wall.plusMillis hourMillis := by
  intro zone wall
  have hzone : ofText? "Europe/Berlin" = some zone := by decide +kernel
  have hproper : centralEurope.IsProper := by decide +kernel
  have hhidden : ∀ instant, zone.wallClock instant ≠ wall :=
    (hidden_iff hproper).mpr (by decide +kernel)
  have hjump : centralEurope.JumpsOver wall.seconds 1743296400 3600 7200 :=
    ⟨by decide +kernel, by decide +kernel, by decide, by decide⟩
  obtain ⟨-, hshown, hmoved⟩ := instantAt?_of_jumpsOver hproper (by decide +kernel)
    (by decide +kernel) (by decide) hhidden hjump
  have hinstant := hmoved.mpr ⟨by decide, by decide⟩
  exact ⟨hzone, hhidden, hjump, hinstant, hshown _ hinstant⟩

/-- **A time that is not moved by the jump**: a quarter past two in the night in which Lord Howe
Island puts its clock forward by half an hour. With the offset before the jump it would be read as a
quarter to four in the afternoon of universal time, and shown as a quarter to three; it is read half
an hour later than that. -/
theorem half_hour_jump :
    let table := southern lordHoweRule (ahead 10 30) (ahead 11 0)
    let zone := Zone.named "Australia/Lord_Howe" table
    let wall : Timestamp := ⟨1759630500, 0⟩
    ofText? "Australia/Lord_Howe" = some zone ∧ (∀ instant, zone.wallClock instant ≠ wall) ∧
      table.JumpsOver wall.seconds 1759591800 37800 39600 ∧
      zone.instantAt? wall = some ⟨1759594500, 0⟩ ∧
      zone.instantAt? wall ≠ some (wall.shift (-37800)) ∧
      zone.wallClock ⟨1759594500, 0⟩ ≠ wall.shift (39600 - 37800) := by
  intro table zone wall
  have hzone : ofText? "Australia/Lord_Howe" = some zone := by decide +kernel
  have hhidden : ∀ instant, zone.wallClock instant ≠ wall :=
    (hidden_iff (by decide +kernel)).mpr (by decide +kernel)
  have hjump : table.JumpsOver wall.seconds 1759591800 37800 39600 :=
    ⟨by decide +kernel, by decide +kernel, by decide, by decide⟩
  have hinstant : zone.instantAt? wall = some ⟨1759594500, 0⟩ := by decide +kernel
  refine ⟨hzone, hhidden, hjump, hinstant, ?_, by decide +kernel⟩
  rw [hinstant]
  decide

end Zone

end SheetFormula
