import SheetFormula.Proofs.Text.Shape
import SheetFormula.Zone.Reader

/-!
# Foreign digits in offsets

Let the names of zones be ASCII. The digits of an offset may be of any script, but hours or minutes
with a digit that is none of ASCII count as zero: a zone is read from a text in which nothing has
been read of such a run.

## Main definitions

* `SheetFormula.ZoneDatabase.HasAsciiNames` — zones with such names.

## Main results

* `SheetFormula.Zone.smallValue_of_mem` — hours or minutes with a foreign digit are zero.
* `SheetFormula.Zone.mem_of_offsetDigits?` — all digits of an offset are those of hours or minutes.
* `SheetFormula.Zone.ofTextIn?_of_foreign` — what is read of a text with a foreign digit.
-/

set_option relaxedAutoImplicit false
set_option autoImplicit false

namespace SheetFormula

/-- The names of the zones of a database are ASCII. -/
def ZoneDatabase.HasAsciiNames (zones : ZoneDatabase) : Prop :=
  ∀ name table, zones name = some table → Text.isAscii name.toList

namespace Zone

open SheetFormula.Text (isAscii isBlank isDecimalDigit trim IsForeignDigit)

variable {c : Char} (hc : IsForeignDigit c)

/-! ## Names -/

include hc

/-- A foreign digit has no lower case. -/
lemma toLower_of_foreign : c.toLower = c := by
  have hupper : ¬ c.toNat ≤ 'Z'.toNat := by
    have hcode := hc.le_toNat
    have hlast : 'Z'.toNat = 90 := rfl
    omega
  exact dif_neg fun hbetween => hupper hbetween.2

/-- A text with a foreign digit has it in lower case as well. -/
lemma mem_lowered {text : List Char} (hmem : c ∈ text) : c ∈ lowered text :=
  List.mem_map.mpr ⟨c, hmem, toLower_of_foreign hc⟩

/-- The names of universal time have no foreign digit. -/
lemma lowered_notMem_utcNames {text : List Char} (hmem : c ∈ text) : lowered text ∉ utcNames := by
  intro hname
  have hascii : ∀ name ∈ utcNames, isAscii name := by decide
  exact hc.notMem_of_isAscii (hascii _ hname) (mem_lowered hc hmem)

/-- The names of zones have no foreign digit. -/
lemma eq_none_of_foreign {zones : ZoneDatabase} (hzones : zones.HasAsciiNames) {name : String}
    (hmem : c ∈ name.toList) : zones name = none := by
  cases htable : zones name with
  | none => rfl
  | some table => exact absurd hmem (hc.notMem_of_isAscii (hzones name table htable))

/-- A foreign digit stands behind a name of universal time. -/
lemma mem_afterUtc {text : List Char} (hmem : c ∈ text) : c ∈ afterUtc text := by
  unfold afterUtc
  dsimp only
  split_ifs with hname
  · have hascii : isAscii (lowered (text.take 3)) := by
      rcases hname with hname | hname <;> rw [hname] <;> decide
    rw [← List.take_append_drop 3 text, List.mem_append] at hmem
    exact hmem.resolve_left fun htaken => hc.notMem_of_isAscii hascii (mem_lowered hc htaken)
  · exact hmem

/-! ## Offsets -/

/-- **Hours or minutes with a foreign digit are zero.** -/
theorem smallValue_of_mem {digits : List Char} (hmem : c ∈ digits) : smallValue digits = 0 :=
  if_neg fun hall => hc.notMem (List.all_eq_true.mp hall) hmem

/-- **All digits of an offset are those of its hours or minutes.** -/
theorem mem_of_offsetDigits? {text hours minutes : List Char}
    (h : offsetDigits? text = some (hours, minutes)) (hmem : c ∈ text) :
    c ∈ hours ∨ c ∈ minutes := by
  have hcolon : c ≠ ':' := hc.ne (by decide)
  unfold offsetDigits? at h
  split at h
  case h_6 => cases h
  all_goals
    split_ifs at h
  all_goals
    obtain ⟨rfl, rfl⟩ := Prod.mk.inj (Option.some.inj h)
    grind

omit hc in
/-- An offset is a sign with hours and minutes behind it. -/
lemma readOffset?_eq_some {text : List Char} {negative : Bool} {hour minute : Nat} :
    readOffset? text = some (negative, hour, minute) ↔
      ∃ sign rest hours minutes, (afterUtc text).dropWhile isBlank = sign :: rest ∧
        (sign = '+' ∨ sign = '-') ∧ offsetDigits? rest = some (hours, minutes) ∧
        negative = decide (sign = '-') ∧ hour = smallValue hours ∧ minute = smallValue minutes := by
  unfold readOffset?
  constructor
  · intro h
    split at h
    next sign rest htext =>
      split_ifs at h with hsign
      obtain ⟨⟨hours, minutes⟩, hdigits, heq⟩ := Option.map_eq_some_iff.mp h
      obtain ⟨rfl, rfl, rfl⟩ : _ ∧ _ ∧ _ := by simpa using heq
      exact ⟨sign, rest, hours, minutes, htext, hsign, hdigits, rfl, rfl, rfl⟩
    next => cases h
  · rintro ⟨sign, rest, hours, minutes, htext, hsign, hdigits, rfl, rfl, rfl⟩
    simp only [htext, if_pos hsign, hdigits, Option.map_some]

/-- Only an offset is read of a text with a foreign digit. -/
lemma ofTextIn?_eq_some_iff {zones : ZoneDatabase} (hzones : zones.HasAsciiNames) {text : String}
    (hmem : c ∈ text.toList) {zone : Zone} :
    ofTextIn? zones text = some zone ↔ ∃ negative hour minute,
      readOffset? (trim text.toList) = some (negative, hour, minute) ∧
        ofOffset? negative hour minute = some zone := by
  have htrim : c ∈ trim text.toList := (Text.mem_trim hc.isBlank).mpr hmem
  have hunknown : zones (String.ofList (trim text.toList)) = none :=
    eq_none_of_foreign hc hzones (by rwa [String.toList_ofList])
  simp only [ofTextIn?, if_neg (lowered_notMem_utcNames hc htrim), hunknown]
  cases readOffset? (trim text.toList) with
  | none => simp
  | some offset =>
    obtain ⟨negative, hour, minute⟩ := offset
    refine ⟨fun hzone => ⟨negative, hour, minute, rfl, hzone⟩, ?_⟩
    rintro ⟨_, _, _, hsame, hzone⟩
    obtain ⟨rfl, rfl, rfl⟩ : _ ∧ _ ∧ _ := by simpa using hsame
    exact hzone

/-- **What is read of a text with a foreign digit.** If a zone is read at all, and names are ASCII,
the text is an offset, the digit stands in its hours or in its minutes, and these count as zero. -/
theorem ofTextIn?_of_foreign {zones : ZoneDatabase} (hzones : zones.HasAsciiNames) {text : String}
    (hmem : c ∈ text.toList) {zone : Zone} :
    ofTextIn? zones text = some zone ↔
      ∃ sign rest hours minutes,
        (afterUtc (trim text.toList)).dropWhile isBlank = sign :: rest ∧
        (sign = '+' ∨ sign = '-') ∧ offsetDigits? rest = some (hours, minutes) ∧
        (c ∈ hours ∧ smallValue hours = 0 ∨ c ∈ minutes ∧ smallValue minutes = 0) ∧
        ofOffset? (decide (sign = '-')) (smallValue hours) (smallValue minutes) = some zone := by
  simp only [ofTextIn?_eq_some_iff hc hzones hmem, readOffset?_eq_some]
  constructor
  · rintro ⟨_, _, _, ⟨sign, rest, hours, minutes, htext, hsign, hdigits, rfl, rfl, rfl⟩, hzone⟩
    have hrest : c ∈ rest := by
      have hbehind : c ∈ sign :: rest := by
        rw [← htext]
        exact (Text.mem_trimStart hc.isBlank).mpr
          (mem_afterUtc hc ((Text.mem_trim hc.isBlank).mpr hmem))
      refine (List.mem_cons.mp hbehind).resolve_left ?_
      rcases hsign with rfl | rfl
      · exact hc.ne (by decide)
      · exact hc.ne (by decide)
    refine ⟨sign, rest, hours, minutes, htext, hsign, hdigits, ?_, hzone⟩
    exact (mem_of_offsetDigits? hc hdigits hrest).imp
      (fun hhours => ⟨hhours, smallValue_of_mem hc hhours⟩)
      (fun hminutes => ⟨hminutes, smallValue_of_mem hc hminutes⟩)
  · rintro ⟨sign, rest, hours, minutes, htext, hsign, hdigits, -, hzone⟩
    exact ⟨_, _, _, ⟨sign, rest, hours, minutes, htext, hsign, hdigits, rfl, rfl, rfl⟩, hzone⟩

end Zone

end SheetFormula
