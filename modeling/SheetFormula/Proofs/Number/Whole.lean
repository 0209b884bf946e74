import Mathlib
import SheetFormula.Number.Binary

/-!
# Whole numbers as doubles

A double is a word of 64 bits: a sign, a field of 11 bits for the exponent, and a fraction of 52
bits behind a leading one. A whole number of up to 53 bits fits into mantissa and exponent, so the
double nearest to it is the number itself, and such doubles are in the order of the numbers.

## Main definitions

* `SheetFormula.Number.fieldWord`, `SheetFormula.Number.ofFields` — a word, and a double, from its
  fields.
* `SheetFormula.Number.scaled` — the mantissa of a whole number.

## Main results

* `SheetFormula.Number.decode_ofFields`, `SheetFormula.Number.unpack_ofFields` — the value of a
  double from its fields.
* `SheetFormula.Number.whole?_ofInt` — whole numbers of up to 53 bits are doubles.
* `SheetFormula.Number.ofInt_lt_ofInt_iff` — and in the same order.
-/

set_option relaxedAutoImplicit false
set_option autoImplicit false

namespace SheetFormula.Number

open Float.Model (Format UnpackedFloat)

/-! ## Doubles from their fields -/

/-- The bits of a double from its sign, exponent field and fraction. -/
def fieldBits (negative : Bool) (biased fraction : ℕ) : ℕ :=
  signBit negative + (biased * 2 ^ 52 + fraction)

/-- The word of a double from its sign, exponent field and fraction. -/
def fieldWord (negative : Bool) (biased fraction : ℕ) : UInt64 :=
  .ofNat (fieldBits negative biased fraction)

/-- The double with some sign, exponent field and fraction. -/
def ofFields (negative : Bool) (biased fraction : ℕ) : Float :=
  .ofBits (fieldWord negative biased fraction)

/-- The sign of a double. -/
def signOf (negative : Bool) : UnpackedFloat.Sign :=
  if negative then .negative else .positive

/-- An exponent field below the greatest one is not all ones, and above the least one not zero. -/
lemma exponentField_ne {biased : ℕ} (hbiased : biased < 2047) :
    BitVec.ofNat 11 biased ≠ -1#11 ∧ (1 ≤ biased → BitVec.ofNat 11 biased ≠ 0#11) := by
  have hvalue : (BitVec.ofNat 11 biased).toNat = biased := by
    rw [BitVec.toNat_ofNat]
    omega
  refine ⟨fun h => ?_, fun hnormal h => ?_⟩
  · have hones : biased = 2047 := hvalue.symm.trans (congrArg BitVec.toNat h)
    omega
  · have hzero : biased = 0 := hvalue.symm.trans (congrArg BitVec.toNat h)
    omega

section Fields

variable (negative : Bool) {biased fraction : ℕ} (hbiased : biased < 2047)
  (hfraction : fraction < 2 ^ 52)

include hbiased hfraction

/-- The fields of the bits of a double, one behind the other. -/
lemma fieldBits_fields :
    fieldBits negative biased fraction / 2 ^ 63 = negative.toNat ∧
      fieldBits negative biased fraction / 2 ^ 52 % 2 ^ 11 = biased ∧
      fieldBits negative biased fraction % 2 ^ 52 = fraction := by
  unfold fieldBits signBit
  cases negative
  all_goals
    simp only [Bool.toNat_true, Bool.toNat_false, Bool.false_eq_true, if_true, if_false, Nat.pow_eq]
    omega

/-- The fields of a double take up 64 bits. -/
lemma toNat_fieldWord :
    (fieldWord negative biased fraction).toNat = fieldBits negative biased fraction := by
  have hsign := (fieldBits_fields negative hbiased hfraction).1
  have hone := negative.toNat_le
  rw [fieldWord, UInt64.toNat_ofNat']
  exact Nat.mod_eq_of_lt (by omega)

/-- The sign, the exponent field and the fraction of the word of a double. -/
lemma unpack_fields :
    UnpackedFloat.Sign.ofBitVec (@UnpackedFloat.unpackSign .binary64
        (fieldWord negative biased fraction).toBitVec) = signOf negative ∧
      @UnpackedFloat.unpackExponent .binary64
        (fieldWord negative biased fraction).toBitVec = BitVec.ofNat 11 biased ∧
      @UnpackedFloat.unpackMantissa .binary64
        (fieldWord negative biased fraction).toBitVec = BitVec.ofNat 52 fraction := by
  have hextract {start length value : ℕ}
      (h : fieldBits negative biased fraction / 2 ^ start % 2 ^ length = value) :
      BitVec.extractLsb' start length (fieldWord negative biased fraction).toBitVec =
        BitVec.ofNat length value := by
    refine BitVec.eq_of_toNat_eq ?_
    rw [BitVec.extractLsb'_toNat, UInt64.toNat_toBitVec, toNat_fieldWord negative hbiased hfraction,
      Nat.shiftRight_eq_div_pow, BitVec.toNat_ofNat, ← h, Nat.mod_mod]
  obtain ⟨hsign, hexponent, hmantissa⟩ := fieldBits_fields negative hbiased hfraction
  rw [UnpackedFloat.unpackSign_def, UnpackedFloat.unpackExponent_def,
    UnpackedFloat.unpackMantissa_def]
  have hsign' := hextract (congrArg (· % 2 ^ 1) hsign)
  refine ⟨(congrArg UnpackedFloat.Sign.ofBitVec hsign').trans ?_, hextract hexponent,
    hextract (by rwa [pow_zero, Nat.div_one])⟩
  cases negative <;> rfl

/-- The value of a double from its fields. -/
lemma unpack_fieldWord (hnormal : 1 ≤ biased) :
    UnpackedFloat.unpack .binary64 (fieldWord negative biased fraction).toBitVec =
      .finite (signOf negative) (2 ^ 52 + fraction) (biased - 1075) (by omega) := by
  obtain ⟨hsign, hexponent, hmantissa⟩ := unpack_fields negative hbiased hfraction
  have hvalue : (BitVec.ofNat 11 biased).toNat = biased := by
    rw [BitVec.toNat_ofNat]
    omega
  obtain ⟨hones, hzero⟩ := exponentField_ne hbiased
  unfold UnpackedFloat.unpack
  simp only [hsign, hexponent, hmantissa]
  rw [if_neg hones, if_neg (hzero hnormal)]
  congr 1
  · rw [BitVec.toNat_append]
    simp only [BitVec.toNat_ofNat, Nat.mod_eq_of_lt hfraction]
    exact (Nat.two_pow_add_eq_or_of_lt hfraction 1).symm
  · rw [hvalue]
    simp [Format.exponentBias]

/-- A double whose exponent field is not the greatest one keeps its bits. -/
lemma toBits_ofFields :
    (ofFields negative biased fraction).toBits = fieldWord negative biased fraction := by
  obtain ⟨-, hexponent, -⟩ := unpack_fields negative hbiased hfraction
  have hnumber : @UnpackedFloat.isNaNBits .binary64
      (fieldWord negative biased fraction).toBitVec = false := by
    rw [UnpackedFloat.isNaNBits, hexponent]
    exact decide_eq_false fun h => (exponentField_ne hbiased).1 h.1
  refine UInt64.toBitVec_inj.mp ?_
  exact (UnpackedFloat.pack_unpack _).trans (if_neg (by simp [hnumber]))

/-- The value of a double from its fields. -/
lemma unpack_ofFields (hnormal : 1 ≤ biased) :
    (ofFields negative biased fraction).toModel.unpack =
      .finite (signOf negative) (2 ^ 52 + fraction) (biased - 1075) (by omega) := by
  rw [← unpack_fieldWord negative hbiased hfraction hnormal, Float.Model.unpack]
  exact congrArg (fun word : UInt64 => UnpackedFloat.unpack .binary64 word.toBitVec)
    (toBits_ofFields negative hbiased hfraction)

/-- The magnitude of a double has its exponent field and its fraction. -/
lemma abs_ofFields (hnormal : 1 ≤ biased) :
    (ofFields negative biased fraction).abs = ofFields false biased fraction := by
  have hvalue := unpack_ofFields negative hbiased hfraction hnormal
  have habs := unpack_fieldWord false hbiased hfraction hnormal
  rw [Float.abs, Float.Model.abs, hvalue, UnpackedFloat.abs]
  exact congrArg (fun value => Float.ofModel (.pack value)) habs.symm

/-- The exact value of a double from its fields. -/
lemma decode_ofFields (hnormal : 1 ≤ biased) :
    decode (ofFields negative biased fraction) =
      some ⟨negative, fraction + 2 ^ 52, biased - 1075⟩ := by
  obtain ⟨hsign, hexponent, hmantissa⟩ := fieldBits_fields negative hbiased hfraction
  have hnegative : decide (2 ^ 63 ≤ fieldBits negative biased fraction) = negative := by
    cases negative
    all_goals
      simp only [Bool.toNat_true, Bool.toNat_false, decide_eq_true_eq, decide_eq_false_iff_not]
        at hsign ⊢
      omega
  unfold decode
  simp only [toBits_ofFields negative hbiased hfraction, toNat_fieldWord negative hbiased hfraction,
    Nat.pow_eq, hnegative, hexponent, hmantissa]
  rw [if_neg (by omega), if_neg (by omega)]

end Fields

/-! ## Doubles of whole numbers -/

/-- The mantissa of a whole number of up to 53 bits, shifted so that its leading bit is the 53rd. -/
def scaled (n : ℕ) : ℕ := n * 2 ^ (52 - n.log2)

/-- The leading bit of a whole number of up to 53 bits, and what is left of its mantissa. -/
lemma scaled_bounds {n : ℕ} (hpos : n ≠ 0) (hn : n < 2 ^ 53) :
    n.log2 ≤ 52 ∧ 2 ^ 52 ≤ scaled n ∧ scaled n < 2 ^ 53 := by
  have hlog : n.log2 ≤ 52 := Nat.lt_succ_iff.mp ((Nat.log2_lt hpos).mpr hn)
  obtain ⟨hlower, hupper⟩ := (Nat.log2_eq_iff hpos).mp rfl
  refine ⟨hlog, ?_, ?_⟩
  · calc 2 ^ 52 = 2 ^ n.log2 * 2 ^ (52 - n.log2) := by rw [← pow_add]; congr 1; omega
      _ ≤ scaled n := Nat.mul_le_mul_right _ hlower
  · calc scaled n < 2 ^ (n.log2 + 1) * 2 ^ (52 - n.log2) :=
          Nat.mul_lt_mul_of_pos_right hupper (by positivity)
      _ = 2 ^ 53 := by rw [← pow_add]; congr 1; omega

/-- Division by one is not rounded. -/
lemma roundDiv_one (n : ℕ) : roundDiv n 1 = n := by
  simp [roundDiv, Nat.mod_one]

/-- The double nearest to a whole number of up to 53 bits is the number itself. -/
lemma nearest_one {negative : Bool} {n : ℕ} (hpos : n ≠ 0) (hn : n < 2 ^ 53) :
    nearest negative n 1 = ofFields negative (n.log2 + 1023) (scaled n - 2 ^ 52) := by
  obtain ⟨hlog, hlower, hupper⟩ := scaled_bounds hpos hn
  have htrial : ¬ n * 2 ^ (53 - n.log2) < 2 ^ 53 := by
    have : n * 2 ^ (53 - n.log2) = 2 * scaled n := by
      rw [scaled, show 53 - n.log2 = 52 - n.log2 + 1 by omega, pow_succ]
      ring
    omega
  have hguess : (n.log2 : ℤ) - (Nat.log2 1 : ℕ) - 53 = n.log2 - 53 := by
    rw [show Nat.log2 1 = 0 from by decide]
    omega
  have hexponent : max leastExponent ((n.log2 : ℤ) - 53 + 1) = n.log2 - 52 := by
    rw [leastExponent]
    omega
  have hpacked : ((n.log2 : ℤ) - 52 - leastExponent).toNat * 2 ^ 52 + scaled n =
      (n.log2 + 1023) * 2 ^ 52 + (scaled n - 2 ^ 52) := by
    rw [leastExponent]
    omega
  unfold nearest
  simp only [if_neg hpos, hguess, shifted, Nat.pow_eq]
  simp only [show (-((n.log2 : ℤ) - 53)).toNat = 53 - n.log2 by omega,
    show ((n.log2 : ℤ) - 53).toNat = 0 by omega, pow_zero, mul_one, Nat.div_one, if_neg htrial,
    hexponent, show (-((n.log2 : ℤ) - 52)).toNat = 52 - n.log2 by omega,
    show ((n.log2 : ℤ) - 52).toNat = 0 by omega, roundDiv_one]
  rw [← scaled, hpacked, min_eq_left (by omega)]
  rfl

/-- The double of a whole number other than zero. -/
lemma ofInt_eq_ofFields {n : ℤ} (hpos : n ≠ 0) (hn : n.natAbs < 2 ^ 53) :
    ofInt n = ofFields (decide (n < 0)) (n.natAbs.log2 + 1023) (scaled n.natAbs - 2 ^ 52) :=
  nearest_one (Int.natAbs_ne_zero.mpr hpos) hn

/-- A whole number of up to 53 bits, taken apart as a double. -/
lemma decode_ofInt {n : ℤ} (hpos : n ≠ 0) (hn : n.natAbs < 2 ^ 53) :
    decode (ofInt n) = some ⟨decide (n < 0), scaled n.natAbs, n.natAbs.log2 - 52⟩ := by
  obtain ⟨hlog, hlower, hupper⟩ := scaled_bounds (Int.natAbs_ne_zero.mpr hpos) hn
  rw [ofInt_eq_ofFields hpos hn, decode_ofFields _ (by omega) (by omega) (by omega),
    Nat.sub_add_cancel hlower,
    show ((n.natAbs.log2 + 1023 : ℕ) : ℤ) - 1075 = n.natAbs.log2 - 52 by omega]

/-- **Whole numbers of up to 53 bits are doubles**, without rounding. -/
theorem whole?_ofInt {n : ℤ} (hn : n.natAbs < 2 ^ 53) : whole? (ofInt n) = some n := by
  by_cases hpos : n = 0
  · subst hpos
    decide +kernel
  obtain ⟨hlog, -, -⟩ := scaled_bounds (Int.natAbs_ne_zero.mpr hpos) hn
  have hratio (negative : Bool) :
      (⟨negative, scaled n.natAbs, n.natAbs.log2 - 52⟩ : Binary).ratio =
        (n.natAbs * 2 ^ (52 - n.natAbs.log2), 2 ^ (52 - n.natAbs.log2)) := by
    simp only [Binary.ratio, Nat.pow_eq, show ((n.natAbs.log2 : ℤ) - 52).toNat = 0 by omega,
      show (-((n.natAbs.log2 : ℤ) - 52)).toNat = 52 - n.natAbs.log2 by omega, pow_zero, mul_one,
      scaled]
  have hwhole (negative : Bool) :
      (⟨negative, scaled n.natAbs, n.natAbs.log2 - 52⟩ : Binary).isWhole := by
    simp [Binary.isWhole, hratio]
  rw [whole?, decode_ofInt hpos hn, Option.filter_some, if_pos (hwhole _), Option.map_some,
    Binary.truncated, hratio, Nat.mul_div_cancel _ (by positivity)]
  simp only [decide_eq_true_eq, Option.some_inj]
  split_ifs <;> omega

/-- The whole number that a double is, is the one before the point. -/
lemma truncated?_of_whole? {x : Float} {n : ℤ} (h : whole? x = some n) : truncated? x = some n := by
  obtain ⟨value, hvalue, rfl⟩ := Option.map_eq_some_iff.mp h
  rw [truncated?, (Option.filter_eq_some_iff.mp hvalue).1, Option.map_some]

/-- The magnitude of a whole number. -/
lemma abs_ofInt {n : ℤ} (hn : n.natAbs < 2 ^ 53) : (ofInt n).abs = ofInt n.natAbs := by
  by_cases hpos : n = 0
  · subst hpos
    decide +kernel
  obtain ⟨hlog, hlower, hupper⟩ := scaled_bounds (Int.natAbs_ne_zero.mpr hpos) hn
  have hpositive : decide ((n.natAbs : ℤ) < 0) = false := decide_eq_false (by omega)
  rw [ofInt_eq_ofFields hpos hn, abs_ofFields _ (by omega) (by omega) (by omega),
    ofInt_eq_ofFields (by omega) (by omega), Int.natAbs_natCast, hpositive]

/-- The value of the double of a positive whole number. -/
lemma unpack_ofInt {n : ℕ} (hpos : n ≠ 0) (hn : n < 2 ^ 53) (hscaled : 0 < scaled n) :
    (ofInt n).toModel.unpack = .finite .positive (scaled n) (n.log2 - 52) hscaled := by
  obtain ⟨hlog, hlower, hupper⟩ := scaled_bounds hpos hn
  have hpositive : decide ((n : ℤ) < 0) = false := decide_eq_false (by omega)
  rw [ofInt_eq_ofFields (by omega) (by omega), Int.natAbs_natCast, hpositive,
    unpack_ofFields _ (by omega) (by omega) (by omega), UnpackedFloat.finite.injEq]
  exact ⟨rfl, by omega, by omega⟩

/-- A greater number has a leading bit that is no lower. -/
lemma log2_le_log2 {m n : ℕ} (h : m ≤ n) : m.log2 ≤ n.log2 := by
  rw [Nat.log2_eq_log_two, Nat.log2_eq_log_two]
  exact Nat.log_mono_right h

/-- Whole numbers are compared by their leading bits, and then by what follows. -/
lemma lt_iff_log2_lt_or {m n : ℕ} :
    m < n ↔ m.log2 < n.log2 ∨ m.log2 = n.log2 ∧ scaled m < scaled n := by
  have hscaled (hlog : m.log2 = n.log2) : scaled m < scaled n ↔ m < n := by
    rw [scaled, scaled, hlog]
    exact Nat.mul_lt_mul_right (by positivity)
  constructor
  · intro h
    rcases (log2_le_log2 h.le).lt_or_eq with hlog | hlog
    · exact .inl hlog
    · exact .inr ⟨hlog, (hscaled hlog).mpr h⟩
  · rintro (hlog | ⟨hlog, h⟩)
    · exact lt_of_not_ge fun h => (log2_le_log2 h).not_gt hlog
    · exact (hscaled hlog).mp h

/-- **The doubles of whole numbers of up to 53 bits are in the order of the numbers.**

**Proof sketch.** The exponents of positive doubles are compared first, and they are the places of
the leading bits. Numbers with the same leading bit are multiplied by the same power of two. -/
theorem ofInt_lt_ofInt_iff {m n : ℕ} (hm : m < 2 ^ 53) (hn : n < 2 ^ 53) :
    ofInt m < ofInt n ↔ m < n := by
  have hlt (x y : Float) : x < y ↔ x.toModel.unpack.compare y.toModel.unpack = some .lt := by
    change decide (Float.Model.lt x.toModel y.toModel) = true ↔ _
    rw [decide_eq_true_eq]
    exact beq_iff_eq
  have hzero : (ofInt (0 : ℕ)).toModel.unpack = .zero .positive := by rfl
  have hscaled {k : ℕ} (hk : 0 < k) : 0 < scaled k := Nat.mul_pos hk (by positivity)
  rw [hlt]
  rcases Nat.eq_zero_or_pos m with rfl | hm0 <;> rcases Nat.eq_zero_or_pos n with rfl | hn0
  · rw [hzero]
    simp [UnpackedFloat.compare]
  · rw [hzero, unpack_ofInt hn0.ne' hn (hscaled hn0)]
    simp [UnpackedFloat.compare, hn0]
  · rw [hzero, unpack_ofInt hm0.ne' hm (hscaled hm0)]
    simp [UnpackedFloat.compare]
  · rw [unpack_ofInt hn0.ne' hn (hscaled hn0), unpack_ofInt hm0.ne' hm (hscaled hm0),
      lt_iff_log2_lt_or]
    simp [UnpackedFloat.compare, Ordering.then_eq_lt, compare_lt_iff_lt]

end SheetFormula.Number
