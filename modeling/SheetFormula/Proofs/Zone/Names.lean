import SheetFormula.Proofs.Moment.RoundTrip
import SheetFormula.Proofs.Zone.ForeignDigits

/-!
# Names of zones

A zone is read from many spellings and named by one of them: `UTC`, an offset with sign, hours and
minutes, or the name under which a database has it. Whatever was read, the name is read as the same
zone, since none of these three kinds of names is taken for one of the others.

## Main results

* `SheetFormula.Zone.readOffset?_offsetText` — an offset that is written is read again.
* `SheetFormula.Zone.ofTextIn?_name` — a zone that was read is read from its name.
-/

set_option relaxedAutoImplicit false
set_option autoImplicit false

namespace SheetFormula.Zone

open SheetFormula.Text (isBlank isDecimalDigit trim)
open SheetFormula.Moment (IsField writesOffset_offsetText)

variable {zones : ZoneDatabase} {text : String} {zone : Zone}

/-! ## Offsets -/

/-- A text that begins with a sign is none of the names of universal time, and has none of them at
its head. -/
lemma notMem_utcNames_of_sign {sign : Char} (hsign : sign = '+' ∨ sign = '-') (rest : List Char) :
    lowered (sign :: rest) ∉ utcNames ∧ afterUtc (sign :: rest) = sign :: rest := by
  have hhead : ∀ name ∈ utcNames, name.head? ≠ some sign := by
    rcases hsign with rfl | rfl <;> decide
  have hlower : sign.toLower = sign := by
    rcases hsign with rfl | rfl <;> rfl
  constructor
  · intro hname
    exact hhead _ hname (congrArg some hlower)
  · have hutc : "utc".toList ∈ utcNames ∧ "gmt".toList ∈ utcNames := by decide
    refine if_neg ?_
    rintro (hname | hname)
    · exact hhead _ hutc.1 (hname ▸ congrArg some hlower)
    · exact hhead _ hutc.2 (hname ▸ congrArg some hlower)

section Offset

variable {offset : ℤ} (hminutes : 60 ∣ offset) (hday : offset.natAbs < 86400)

include hminutes hday

/-- A written offset has no white space at its ends, and it is no name of universal time. -/
lemma trim_offsetText :
    trim (offsetText offset).toList = (offsetText offset).toList ∧
      lowered (offsetText offset).toList ∉ utcNames := by
  have hwrites := writesOffset_offsetText hminutes hday
  obtain ⟨sign, rest, hsign, htext⟩ := hwrites.exists_eq_cons
  refine ⟨Text.trim_of_forall fun c => hwrites.isBlank, ?_⟩
  rw [htext]
  exact (notMem_utcNames_of_sign hsign rest).1

/-- **An offset that is written is read again.** -/
theorem readOffset?_offsetText :
    readOffset? (offsetText offset).toList =
      some (decide (offset < 0), offset.natAbs / 3600, offset.natAbs / 60 % 60) := by
  have hwrites := writesOffset_offsetText hminutes hday
  have hafter : (afterUtc (offsetText offset).toList).dropWhile isBlank =
      (offsetText offset).toList := by
    obtain ⟨sign, rest, hsign, htext⟩ := hwrites.exists_eq_cons
    have hblank : isBlank sign = false := by
      rcases hsign with rfl | rfl <;> decide
    rw [htext, (notMem_utcNames_of_sign hsign rest).2,
      List.dropWhile_cons_of_neg (by simp [hblank])]
  obtain ⟨hours, minutes, hhours, hminutes', htext⟩ := hwrites
  have hdigits : offsetDigits? (hours ++ ':' :: minutes) = some (hours, minutes) := by
    obtain ⟨a, b, rfl⟩ := List.length_eq_two.mp hhours.length_eq
    obtain ⟨c, d, rfl⟩ := List.length_eq_two.mp hminutes'.length_eq
    have hall : [a, b, c, d].all isDecimalDigit := by
      simp [hhours.isDecimalDigit, hminutes'.isDecimalDigit]
    exact if_pos ⟨rfl, hall⟩
  have hvalue {value : ℕ} {digits : List Char} (h : IsField 2 value digits) :
      value = smallValue digits := by
    rw [smallValue, if_pos (List.all_eq_true.mpr h.isDigit), h.value_eq]
  have hhour : offset.natAbs / 3600 = offset.natAbs / 60 / 60 := by omega
  rw [hhour]
  refine readOffset?_eq_some.mpr ⟨_, _, hours, minutes, hafter.trans htext, ?_, hdigits, ?_,
    hvalue hhours, hvalue hminutes'⟩
  · split_ifs
    · exact .inr rfl
    · exact .inl rfl
  · split_ifs with hnegative <;> simp_all

end Offset

/-- The offset of a zone that is read from hours and minutes has these hours and minutes. -/
lemma ofOffset?_eq_some {negative : Bool} {hours minutes : ℕ} {zone : Zone}
    (h : ofOffset? negative hours minutes = some zone) :
    zone = .utc ∨ ∃ offset : ℤ, zone = .fixed offset ∧ 60 ∣ offset ∧ offset.natAbs < 86400 ∧
      negative = decide (offset < 0) ∧ hours = offset.natAbs / 3600 ∧
      minutes = offset.natAbs / 60 % 60 := by
  unfold ofOffset? at h
  dsimp only at h
  split_ifs at h with hlarge hzero hnegative
  · exact .inl (Option.some.inj h).symm
  · refine .inr ⟨_, (Option.some.inj h).symm, by omega, by omega, ?_, by omega, by omega⟩
    rw [hnegative, eq_comm, decide_eq_true_eq]
    omega
  · refine .inr ⟨_, (Option.some.inj h).symm, by omega, by omega, ?_, by omega, by omega⟩
    rw [Bool.eq_false_iff.mpr hnegative, eq_comm, decide_eq_false_iff_not]
    omega

/-! ## Names -/

/-- The name of universal time is read as universal time. -/
lemma ofTextIn?_utc : ofTextIn? zones "UTC" = some .utc := by
  have hutc : lowered (trim "UTC".toList) ∈ utcNames := by decide
  simp only [ofTextIn?, if_pos hutc]

/-- **A zone that was read is read from its name.**

**Proof sketch.** A zone is universal time, a fixed offset or a zone of the database. The name of
universal time is one of the spellings of it. The name of an offset begins with a sign, so it is
read as an offset, with the same hours and minutes. And a zone of the database has the name under
which it was found, which was taken neither for universal time nor for an offset. -/
theorem ofTextIn?_name (h : ofTextIn? zones text = some zone) :
    ofTextIn? zones zone.name = some zone := by
  have hread := h
  unfold ofTextIn? at hread
  dsimp only at hread
  split_ifs at hread with hutc
  · obtain rfl := Option.some.inj hread
    exact ofTextIn?_utc
  · split at hread
    next negative hours minutes hoffset =>
      obtain rfl | ⟨offset, rfl, hminutes, hday, rfl, rfl, rfl⟩ := ofOffset?_eq_some hread
      · exact ofTextIn?_utc
      · obtain ⟨htrim, hname⟩ := trim_offsetText hminutes hday
        simp only [ofTextIn?, name, htrim, if_neg hname, readOffset?_offsetText hminutes hday]
        exact hread
    next hoffset =>
      -- the name is the trimmed text itself, so it goes the same way again
      obtain ⟨table, htable, rfl⟩ := Option.map_eq_some_iff.mp hread
      simp only [ofTextIn?, name, String.toList_ofList, Text.trim_trim, if_neg hutc, hoffset, htable]
      rfl

end SheetFormula.Zone
