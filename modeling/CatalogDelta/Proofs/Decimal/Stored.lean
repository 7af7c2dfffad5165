import CatalogDelta.Proofs.Decimal.Mantissa
import Mathlib

/-!
# Floats in storage

A float is stored in three fields. What fits is read back as it was stored, and what is read back
fits; and the reading of a float as an exact number says the same as its fields do.
-/

namespace CatalogDelta.Decimal

open Float.Model Float.Model.UnpackedFloat

/-! ## Storing -/

theorem toNat_pos_of_ne_zero {bits : BitVec 52} (present : bits ≠ 0#52) :
    0 < bits.toNat :=
  Nat.pos_of_ne_zero fun none => present (BitVec.eq_of_toNat_eq none)

/-- The number that the three fields of a float make up. -/
def ofFields (sign : Sign) (stored : BitVec 11) (bits : BitVec 52) : UnpackedFloat :=
  if stored = -1#11 then if bits = 0#52 then .infinity sign else .notANumber
  else if stored = 0#11 then
    if present : bits = 0#52 then .zero sign
    else .finite sign bits.toNat (-1074) (toNat_pos_of_ne_zero present)
  else .finite sign (2 ^ 52 + bits.toNat) (stored.toNat - 1075) (by omega)

theorem toNat_one_append (bits : BitVec 52) : (1#1 ++ bits).toNat = 2 ^ 52 + bits.toNat := by
  rw [BitVec.toNat_append, ← Nat.shiftLeft_add_eq_or_of_lt bits.isLt]
  rfl

theorem unpack_eq_ofFields (word : BitVec 64) :
    UnpackedFloat.unpack Format.binary64 word =
      ofFields (.ofBitVec (@unpackSign Format.binary64 word))
        (@unpackExponent Format.binary64 word) (@unpackMantissa Format.binary64 word) := by
  have bias : Format.binary64.exponentBias = 1023 := by decide
  unfold UnpackedFloat.unpack ofFields
  rw [bias]
  dsimp only
  split
  · rfl
  · split
    · rename_i least
      split
      · rfl
      · congr 1
        rw [least]
        decide
    · congr 1
      exact toNat_one_append _

theorem unpack_packComponents (sign : Sign) (stored : BitVec 11) (bits : BitVec 52) :
    UnpackedFloat.unpack Format.binary64 (packComponents Format.binary64 sign stored bits) =
      ofFields sign stored bits := by
  have eq := unpack_eq_ofFields (packComponents Format.binary64 sign stored bits)
  rw [unpackSign_packComponents, Sign.ofBitVec_toBitVec] at eq
  rw [eq]
  congr 1
  · exact unpackExponent_packComponents
  · exact unpackMantissa_packComponents

theorem ofFields_normal {sign : Sign} {mantissa : Nat} {exponent : Int} {positive : 0 < mantissa}
    (normal : mantissa.log2 = 52) (least : -1074 ≤ exponent) (within : exponent ≤ 971) :
    ofFields sign (BitVec.ofNat 11 (exponent + 1075).toNat) (BitVec.ofNat 52 mantissa) =
      .finite sign mantissa exponent positive := by
  obtain ⟨low, high⟩ := (Nat.log2_eq_iff positive.ne').mp normal
  have stored : (BitVec.ofNat 11 (exponent + 1075).toNat).toNat = (exponent + 1075).toNat := by
    rw [BitVec.toNat_ofNat, Nat.mod_eq_of_lt (by omega)]
  have unmarked : BitVec.ofNat 11 (exponent + 1075).toNat ≠ -1#11 := by
    intro marked
    rw [marked] at stored
    have all : (-1#11).toNat = 2047 := rfl
    omega
  have notLeast : BitVec.ofNat 11 (exponent + 1075).toNat ≠ 0#11 := by
    intro least
    rw [least] at stored
    have none : (0#11).toNat = 0 := rfl
    omega
  unfold ofFields
  rw [if_neg unmarked, if_neg notLeast]
  congr 1
  · rw [BitVec.toNat_ofNat]
    omega
  · rw [stored]
    omega

theorem ofFields_subnormal {sign : Sign} {mantissa : Nat} (positive : 0 < mantissa)
    (small : mantissa < 2 ^ 52) :
    ofFields sign 0#11 (BitVec.ofNat 52 mantissa) = .finite sign mantissa (-1074) positive := by
  have bits : (BitVec.ofNat 52 mantissa).toNat = mantissa := by
    rw [BitVec.toNat_ofNat, Nat.mod_eq_of_lt small]
  have present : BitVec.ofNat 52 mantissa ≠ 0#52 := by
    intro none
    rw [none] at bits
    exact positive.ne bits
  unfold ofFields
  rw [if_neg (by decide), if_pos rfl, dif_neg present]
  congr 1

/-- A number that fits is read back as it was stored. -/
theorem unpack_pack_finite {sign : Sign} {mantissa : Nat} {exponent : Int}
    {positive : 0 < mantissa} (fits : Fits mantissa exponent) (within : exponent ≤ 971) :
    (Float.Model.pack (.finite sign mantissa exponent positive)).unpack =
      .finite sign mantissa exponent positive := by
  change UnpackedFloat.unpack Format.binary64
    (UnpackedFloat.pack Format.binary64 (.finite sign mantissa exponent positive)) = _
  have bias : Format.binary64.exponentBias = 1023 := by decide
  unfold Fits at fits
  unfold UnpackedFloat.pack
  rw [bias]
  dsimp only
  rw [if_neg (by omega)]
  by_cases normal : mantissa.log2 = 52
  · have stored : exponent + (1023 : Nat) + (52 : Nat) = exponent + 1075 := by omega
    rw [if_pos (by rw [normal]; rfl), unpack_packComponents, stored]
    exact ofFields_normal normal (by omega) within
  · have small : mantissa < 2 ^ 52 := (Nat.log2_lt positive.ne').mp (by omega)
    obtain rfl : exponent = -1074 := by omega
    have subnormal : ¬ mantissa.log2 + 1 = Format.binary64.mantissaBits := by
      change ¬ mantissa.log2 + 1 = 53
      omega
    rw [if_neg subnormal, unpack_packComponents]
    exact ofFields_subnormal positive small

theorem unpack_pack_zero (sign : Sign) : (Float.Model.pack (.zero sign)).unpack = .zero sign := by
  cases sign <;> rfl

theorem unpack_pack_infinity (sign : Sign) :
    (Float.Model.pack (.infinity sign)).unpack = .infinity sign := by
  cases sign <;> rfl

theorem fits_of_ofFields {sign own : Sign} {stored : BitVec 11} {bits : BitVec 52} {mantissa : Nat}
    {exponent : Int} {positive : 0 < mantissa}
    (made : ofFields sign stored bits = .finite own mantissa exponent positive) :
    Fits mantissa exponent ∧ exponent ≤ 971 := by
  unfold ofFields at made
  split at made
  · split at made <;> cases made
  · rename_i unmarked
    have top : stored.toNat ≠ 2047 := fun all => unmarked (BitVec.eq_of_toNat_eq all)
    split at made
    · split at made
      · cases made
      · rename_i present
        cases made
        have small := log2_toNat_lt bits (by decide)
        unfold Fits
        omega
    · rename_i notLeast
      have some : stored.toNat ≠ 0 := fun none => notLeast (BitVec.eq_of_toNat_eq none)
      cases made
      have full : (2 ^ 52 + bits.toNat).log2 = 52 := (Nat.log2_eq_iff (by omega)).mpr (by omega)
      unfold Fits
      omega

/-- Every finite float fits. -/
theorem fits_of_unpack {number : Float.Model} {sign : Sign} {mantissa : Nat} {exponent : Int}
    {positive : 0 < mantissa} (finite : number.unpack = .finite sign mantissa exponent positive) :
    Fits mantissa exponent ∧ exponent ≤ 971 :=
  fits_of_ofFields ((unpack_eq_ofFields _).symm.trans finite)

/-! ## Reading -/

def Sign.isNegative : Sign → Bool
  | .negative => true
  | .positive => false

/-- What a number stands for. -/
def Reading.ofNumber : UnpackedFloat → Reading
  | .notANumber => .notANumber
  | .infinity sign => .infinite (Sign.isNegative sign)
  | .zero sign => .finite (Sign.isNegative sign) ⟨0, -1074, false⟩
  | .finite sign mantissa exponent _ =>
    .finite (Sign.isNegative sign) ⟨mantissa, exponent, mantissa = 2 ^ 52 && exponent > -1074⟩

theorem Reading.ofNumber_ofFields (sign : Sign) (stored : BitVec 11) (bits : BitVec 52) :
    Reading.ofNumber (ofFields sign stored bits) =
      if stored.toNat = 2047 then
        if bits.toNat = 0 then .infinite (Sign.isNegative sign) else .notANumber
      else if stored.toNat = 0 then .finite (Sign.isNegative sign) ⟨bits.toNat, -1074, false⟩
      else
        .finite (Sign.isNegative sign)
          ⟨bits.toNat + 2 ^ 52, stored.toNat - 1075, bits.toNat = 0 && stored.toNat > 1⟩ := by
  have marked : stored = -1#11 ↔ stored.toNat = 2047 := BitVec.toNat_inj.symm
  have least : stored = 0#11 ↔ stored.toNat = 0 := BitVec.toNat_inj.symm
  have empty : bits = 0#52 ↔ bits.toNat = 0 := BitVec.toNat_inj.symm
  unfold ofFields
  simp only [marked, least, empty]
  split
  · split <;> rfl
  · split
    · split
      · rename_i none
        rw [none]
        rfl
      · have narrow : (bits.toNat = 2 ^ 52 && (-1074 : Int) > -1074) = false := by simp
        rw [Reading.ofNumber, narrow]
    · have narrow : (2 ^ 52 + bits.toNat = 2 ^ 52 && (stored.toNat : Int) - 1075 > -1074) =
          (bits.toNat = 0 && stored.toNat > 1) := by
        congr 1
        · exact decide_eq_decide.mpr (by omega)
        · exact decide_eq_decide.mpr (by omega)
      rw [Reading.ofNumber, narrow, Nat.add_comm]

theorem toNat_unpackExponent (word : BitVec 64) :
    (@unpackExponent Format.binary64 word).toNat = word.toNat / Nat.pow 2 52 % Nat.pow 2 11 := by
  change (BitVec.extractLsb 62 52 word).toNat = _
  rw [BitVec.extractLsb_toNat, Nat.shiftRight_eq_div_pow]

theorem toNat_unpackMantissa (word : BitVec 64) :
    (@unpackMantissa Format.binary64 word).toNat = word.toNat % Nat.pow 2 52 := by
  change (BitVec.extractLsb 51 0 word).toNat = _
  rw [BitVec.extractLsb_toNat, Nat.shiftRight_zero]

theorem isNegative_unpackSign (word : BitVec 64) :
    Sign.isNegative (.ofBitVec (@unpackSign Format.binary64 word)) =
      (word.toNat / Nat.pow 2 63 == 1) := by
  have field : (@unpackSign Format.binary64 word).toNat = word.toNat / Nat.pow 2 63 := by
    change (BitVec.extractLsb 63 63 word).toNat = _
    rw [BitVec.extractLsb_toNat, Nat.shiftRight_eq_div_pow]
    have few := word.isLt
    change word.toNat / 2 ^ 63 % 2 = word.toNat / 2 ^ 63
    omega
  rw [← field]
  generalize @unpackSign Format.binary64 word = sign
  revert sign
  decide

theorem Reading.ofFloat_eq (value : Float) :
    Reading.ofFloat value = Reading.ofNumber value.toModel.unpack := by
  change _ = Reading.ofNumber (UnpackedFloat.unpack Format.binary64 value.toModel.toBits.toBitVec)
  rw [unpack_eq_ofFields, Reading.ofNumber_ofFields, toNat_unpackExponent, toNat_unpackMantissa,
    isNegative_unpackSign]
  rfl

/-! ## Fractions -/

theorem Binary.fraction_of_neg {number : Binary} (low : number.exponent < 0) :
    number.fraction = (number.mantissa, 2 ^ number.exponent.natAbs) := by
  unfold Binary.fraction powerFraction
  rw [if_pos low]
  dsimp only
  rw [Nat.mul_one]
  rfl

theorem Binary.fraction_of_nonneg {number : Binary} (high : ¬ number.exponent < 0) :
    number.fraction = (number.mantissa * 2 ^ number.exponent.natAbs, 1) := by
  unfold Binary.fraction powerFraction
  rw [if_neg high]
  rfl

theorem Binary.fraction_pos (number : Binary) : 0 < number.fraction.2 := by
  by_cases low : number.exponent < 0
  · rw [Binary.fraction_of_neg low]
    exact Nat.two_pow_pos _
  · rw [Binary.fraction_of_nonneg low]
    exact one_pos

theorem Binary.fraction_eq (number : Binary) :
    (number.fraction.1 : ℚ) = size number.mantissa number.exponent * number.fraction.2 := by
  unfold size
  by_cases low : number.exponent < 0
  · have exponent : (2 : ℚ) ^ number.exponent = (2 ^ number.exponent.natAbs)⁻¹ := by
      rw [← zpow_natCast, ← zpow_neg]
      congr 1
      omega
    rw [Binary.fraction_of_neg low, exponent]
    push_cast
    exact (inv_mul_cancel_right₀ (pow_ne_zero _ two_ne_zero) _).symm
  · have exponent : (2 : ℚ) ^ number.exponent = 2 ^ number.exponent.natAbs := by
      rw [← zpow_natCast]
      congr 1
      omega
    rw [Binary.fraction_of_nonneg low, exponent]
    push_cast
    rw [mul_one]

theorem Binary.floor_le (number : Binary) :
    (number.floor : ℚ) ≤ size number.mantissa number.exponent := by
  have below := Nat.div_mul_le_self number.fraction.1 number.fraction.2
  have positive : (0 : ℚ) < number.fraction.2 := Nat.cast_pos.mpr number.fraction_pos
  apply le_of_mul_le_mul_right _ positive
  rw [← number.fraction_eq, ← Nat.cast_mul]
  exact Nat.cast_le.mpr below

/-- Nothing is cut off a whole number. -/
theorem Binary.floor_eq {number : Binary} {whole : Nat}
    (same : size number.mantissa number.exponent = whole) : number.floor = whole := by
  have product := number.fraction_eq
  rw [same, ← Nat.cast_mul, Nat.cast_inj] at product
  unfold Binary.floor
  rw [product]
  exact Nat.mul_div_cancel _ number.fraction_pos

end CatalogDelta.Decimal
