import CatalogDelta.Decimal.Numeral
import CatalogDelta.Proofs.Decimal.Short
import CatalogDelta.Proofs.Decimal.Stored
import Mathlib.Tactic.NormNum

/-!
# Exact floats

A float without a sign stands for a rational number. Where the exact result of an operation is such
a number, the float comes out as that number. So whole numbers below two to the fifty-third power
are read exactly, also with zeros after the point. Main statement: `isExact_nearestFloat`.
-/

namespace CatalogDelta.Decimal

open Float.Model Float.Model.UnpackedFloat

/-! ## Exact values -/

/-- The number is the float of a rational number that is not negative. -/
inductive Holds : ℚ → UnpackedFloat → Prop
  | zero : Holds 0 (.zero .positive)
  | finite {mantissa : Nat} {exponent : Int} {positive : 0 < mantissa}
    (fits : Fits mantissa exponent) (within : exponent ≤ 971) :
    Holds (size mantissa exponent) (.finite .positive mantissa exponent positive)

/-- The rational number is a float exactly. -/
def IsFloat (value : ℚ) : Prop := ∃ number, Holds value number

namespace Holds

variable {value other : ℚ} {number second : UnpackedFloat}

theorem nonneg (holds : Holds value number) : 0 ≤ value := by
  cases holds with
  | zero => exact le_rfl
  | @finite _ _ positive _ _ => exact (size_pos positive).le

theorem unique (holds : Holds value number) (holdsToo : Holds value second) : number = second := by
  cases holds with
  | zero =>
    generalize none : (0 : ℚ) = value at holdsToo
    cases holdsToo with
    | zero => rfl
    | @finite _ _ positive _ _ => exact absurd none (size_pos positive).ne
  | @finite mantissa exponent positive fits within =>
    generalize same : size mantissa exponent = value at holdsToo
    cases holdsToo with
    | zero => exact absurd same (size_pos positive).ne'
    | @finite own place ownPositive fitsToo withinToo =>
      obtain ⟨rfl, rfl⟩ := eq_of_fits ownPositive fits fitsToo same
      rfl

theorem unpack_pack (holds : Holds value number) : (Float.Model.pack number).unpack = number := by
  cases holds with
  | zero => exact unpack_pack_zero .positive
  | finite fits within => exact unpack_pack_finite fits within

theorem finite_of_eq {mantissa : Nat} {exponent : Int} {positive : 0 < mantissa}
    (fits : Fits mantissa exponent) (within : exponent ≤ 971)
    (same : size mantissa exponent = value) :
    Holds value (.finite .positive mantissa exponent positive) :=
  same ▸ .finite fits within

/-- A whole number is brought to the float that it is. -/
theorem normalize_eq {whole : Nat} (holds : Holds whole number) :
    UnpackedFloat.normalize Format.binary64 (whole : Int) 0 .positive = number := by
  unfold UnpackedFloat.normalize
  generalize same : (whole : ℚ) = value at holds
  cases holds with
  | zero =>
    obtain rfl : whole = 0 := Nat.cast_eq_zero.mp same
    rfl
  | @finite mantissa exponent positive fits within =>
    have present : 0 < whole := by
      have positive : 0 < size mantissa exponent := size_pos positive
      rw [← same] at positive
      exact Nat.cast_pos.mp positive
    have larger : compare (whole : Int) 0 = .gt := Int.compare_eq_gt.mpr (by omega)
    rw [larger]
    dsimp only
    rw [Int.toNat_natCast]
    exact round_eq .positive positive fits ((size_zero_exponent whole).trans same)

theorem mul_unit (holds : Holds value number) (positive : 0 < 2 ^ 52) :
    UnpackedFloat.mul Format.binary64 number (.finite .positive (2 ^ 52) (-52) positive) =
      number := by
  cases holds with
  | zero => rfl
  | @finite mantissa exponent positive fits within =>
    have one : size (2 ^ 52) (-52) = 1 := by
      unfold size
      norm_num
    apply mul_eq
    · exact fits
    · rw [one, mul_one]
    · omega

theorem exists_of_pos (holds : Holds value number) (positive : 0 < value) :
    ∃ mantissa exponent present, number = .finite .positive mantissa exponent present ∧
      size mantissa exponent = value ∧ Fits mantissa exponent ∧ exponent ≤ 971 := by
  cases holds with
  | zero => exact absurd positive (lt_irrefl 0)
  | finite fits within => exact ⟨_, _, _, rfl, rfl, fits, within⟩

theorem eq_zero (holds : Holds value number) (none : value = 0) : number = .zero .positive := by
  cases holds with
  | zero => rfl
  | @finite _ _ positive _ _ => exact absurd none (size_pos positive).ne'

/-- A quotient that is a float is found exactly. -/
theorem div_eq {divided divisor : UnpackedFloat} (whole : Holds (value * other) divided)
    (divides : Holds other divisor) (positive : 0 < other) (quotient : Holds value number) :
    UnpackedFloat.div Format.binary64 divided divisor = number := by
  obtain ⟨second, high, secondPositive, rfl, rfl, -, -⟩ := divides.exists_of_pos positive
  rcases quotient.nonneg.eq_or_lt with none | some
  · rw [quotient.eq_zero none.symm, whole.eq_zero (by rw [← none, zero_mul])]
    rfl
  · obtain ⟨mantissa, exponent, present, rfl, rfl, fits, -⟩ := quotient.exists_of_pos some
    obtain ⟨first, low, firstPositive, rfl, same, -, -⟩ :=
      whole.exists_of_pos (mul_pos some positive)
    exact Decimal.div_eq firstPositive secondPositive present fits same

end Holds

theorem isFloat_of_lt {whole : Nat} (few : whole < 2 ^ 53) : IsFloat whole := by
  rcases Nat.eq_zero_or_pos whole with rfl | positive
  · rw [Nat.cast_zero]
    exact ⟨_, .zero⟩
  · have short : whole.log2 < 53 := (Nat.log2_lt positive.ne').mpr few
    have top := log2_shiftLeft positive (52 - whole.log2)
    have present : 0 < whole <<< (52 - whole.log2) := Nat.shiftLeft_pos_iff.mpr positive
    have exponent : ((whole.log2 : Int) - 52) + (52 - whole.log2 : Nat) = 0 := by omega
    refine ⟨.finite .positive (whole <<< (52 - whole.log2)) (whole.log2 - 52) present, ?_⟩
    apply Holds.finite_of_eq
    · unfold Fits
      omega
    · omega
    · rw [size_shiftLeft, exponent, size_zero_exponent]

/-- The float is the rational number exactly. -/
def IsExact (value : ℚ) (x : Float) : Prop := Holds value x.toModel.unpack

theorem isExact_pack {value : ℚ} {number : UnpackedFloat} (holds : Holds value number) :
    IsExact value ⟨Float.Model.pack number⟩ := by
  unfold IsExact
  rw [holds.unpack_pack]
  exact holds

theorem isExact_toFloat {whole : Nat} (few : whole < 2 ^ 53) :
    IsExact whole whole.toUInt64.toFloat := by
  obtain ⟨number, holds⟩ := isFloat_of_lt few
  have kept : whole.toUInt64.toNat = whole := Nat.mod_eq_of_lt (by omega)
  have same : UnpackedFloat.ofUInt64 Format.binary64 whole.toUInt64 = number := by
    change UnpackedFloat.normalize Format.binary64 (whole.toUInt64.toNat : Int) 0 .positive = number
    rw [kept, holds.normalize_eq]
  change IsExact whole ⟨Float.Model.pack (UnpackedFloat.ofUInt64 Format.binary64 whole.toUInt64)⟩
  rw [same]
  exact isExact_pack holds

theorem isExact_iff {value : ℚ} {x : Float} :
    IsExact value x ↔ ∃ number, Reading.ofFloat x = .finite false number ∧
      size number.mantissa number.exponent = value := by
  rw [IsExact, Reading.ofFloat_eq]
  constructor
  · intro holds
    generalize x.toModel.unpack = number at holds
    cases holds with
    | zero => exact ⟨_, rfl, by simp [size]⟩
    | finite fits within => exact ⟨_, rfl, rfl⟩
  · rintro ⟨number, reads, rfl⟩
    cases unpacked : x.toModel.unpack with
    | notANumber => rw [unpacked] at reads; cases reads
    | infinity sign => rw [unpacked] at reads; cases reads
    | zero sign =>
      rw [unpacked] at reads
      cases sign with
      | negative => cases reads
      | positive =>
        cases reads
        simpa [size] using Holds.zero
    | finite sign mantissa exponent positive =>
      obtain ⟨fits, within⟩ := fits_of_unpack unpacked
      rw [unpacked] at reads
      cases sign with
      | negative => cases reads
      | positive =>
        cases reads
        exact .finite fits within

/-- What is cut off a float leaves a float. -/
theorem isFloat_floor {value : ℚ} {x : Float} {number : Binary} (exact : IsExact value x)
    (reads : Reading.ofFloat x = .finite false number) : IsFloat number.floor := by
  obtain ⟨few, -⟩ := Reading.ofBits_finite reads
  by_cases low : number.exponent < 0
  · apply isFloat_of_lt
    unfold Binary.floor
    rw [Binary.fraction_of_neg low]
    exact Nat.lt_of_le_of_lt (Nat.div_le_self _ _) few
  · obtain ⟨own, readsToo, same⟩ := isExact_iff.mp exact
    obtain rfl : own = number := (Reading.finite.inj (readsToo.symm.trans reads)).2
    have whole : (own.floor : ℚ) = value := by
      have product := own.fraction_eq
      unfold Binary.floor
      rw [same, Binary.fraction_of_nonneg low, Nat.cast_one, mul_one] at product
      rw [Binary.fraction_of_nonneg low, Nat.div_one, product]
    exact ⟨_, whole ▸ exact⟩

/-- The reading is that of a whole number. -/
def Reading.isNatural (whole : Nat) : Reading → Bool
  | .finite false number => number.fraction.1 == whole * number.fraction.2
  | _ => false

/-- The table of powers of ten is right. -/
theorem isExact_powerOfTen {power : Nat} (small : power < 23) :
    IsExact ((10 ^ power : Nat) : ℚ) (getElem Float.exactlyRepresentablePowersOfTen power small) := by
  have right : ∀ power : Fin 23,
      (Reading.ofFloat Float.exactlyRepresentablePowersOfTen[power]).isNatural (10 ^ power.val) =
        true := by
    decide +kernel
  have known := right ⟨power, small⟩
  unfold Reading.isNatural at known
  split at known
  · rename_i number reads
    refine isExact_iff.mpr ⟨number, reads, ?_⟩
    have nonzero : (number.fraction.2 : ℚ) ≠ 0 := Nat.cast_ne_zero.mpr number.fraction_pos.ne'
    apply mul_right_cancel₀ nonzero
    rw [← number.fraction_eq, beq_iff_eq.mp known, Nat.cast_mul]
  · cases known

theorem isExact_mul_one {value : ℚ} {x : Float} (exact : IsExact value x) :
    IsExact value (x * Float.exactlyRepresentablePowersOfTen[0]) := by
  have one : Float.exactlyRepresentablePowersOfTen[0].toModel.unpack =
      .finite .positive (2 ^ 52) (-52) (by decide) := rfl
  change IsExact value ⟨Float.Model.pack (UnpackedFloat.mul Format.binary64 x.toModel.unpack
    Float.exactlyRepresentablePowersOfTen[0].toModel.unpack)⟩
  rw [one, Holds.mul_unit exact]
  exact isExact_pack exact

theorem isExact_div {value divisor : ℚ} {x y : Float} (exact : IsExact (value * divisor) x)
    (divides : IsExact divisor y) (positive : 0 < divisor) (isFloat : IsFloat value) :
    IsExact value (x / y) := by
  obtain ⟨number, holds⟩ := isFloat
  change IsExact value ⟨Float.Model.pack (UnpackedFloat.div Format.binary64 x.toModel.unpack
    y.toModel.unpack)⟩
  rw [Holds.div_eq exact divides positive holds]
  exact isExact_pack holds

/-- A whole number of any size that is a float is found. -/
theorem ofScientific_eq {whole : Nat} {number : UnpackedFloat} (holds : Holds whole number) :
    UnpackedFloat.ofScientific Format.binary64 whole 0 = number := by
  unfold UnpackedFloat.ofScientific
  by_cases none : whole = 0
  · rw [dif_pos none, holds.eq_zero (Nat.cast_eq_zero.mpr none)]
  · obtain ⟨mantissa, exponent, positive, rfl, same, fits, -⟩ :=
      holds.exists_of_pos (Nat.cast_pos.mpr (Nat.pos_of_ne_zero none))
    have notTiny : ¬ (0 : Int) < -(2 ^ 11 + whole.log2) := by omega
    rw [dif_neg none, if_neg (by decide), if_neg notTiny, if_pos le_rfl]
    apply mul_eq _ _ _ fits
    · rw [size_shiftLeft, same]
      simp [size, Format.mantissaBits]
    · have sameTop := log2_add_eq_of_size_eq (Nat.pos_of_ne_zero none)
        (same.trans (size_zero_exponent whole).symm)
      change -((53 : Nat) : Int) + 0 ≤ exponent
      unfold Fits at fits
      omega

theorem isExact_ofNat {whole : Nat} (isFloat : IsFloat whole) :
    IsExact whole (Float.ofNat whole) := by
  change IsExact whole (Float.ofScientific whole false 0)
  unfold Float.ofScientific
  split
  · rename_i few
    exact isExact_mul_one (isExact_toFloat few.1)
  · obtain ⟨number, holds⟩ := isFloat
    change IsExact whole ⟨Float.Model.pack (UnpackedFloat.ofScientific Format.binary64 whole 0)⟩
    rw [ofScientific_eq holds]
    exact isExact_pack holds

/-- A whole number with zeros after the point is found by dividing it. -/
theorem ofScientific_zeros_eq {whole power : Nat} {number : UnpackedFloat}
    (holds : Holds whole number) (some : 0 < power) :
    UnpackedFloat.ofScientific Format.binary64 (whole * 10 ^ power) (-(power : Int)) = number := by
  have powerPositive : 0 < 10 ^ power := Nat.pow_pos (by decide)
  unfold UnpackedFloat.ofScientific
  rcases Nat.eq_zero_or_pos whole with rfl | positive
  · rw [dif_pos (Nat.zero_mul _), holds.eq_zero Nat.cast_zero]
  · have present : 0 < whole * 10 ^ power := Nat.mul_pos positive powerPositive
    have long : power ≤ (whole * 10 ^ power).log2 := by
      rw [Nat.le_log2 present.ne']
      calc 2 ^ power ≤ 10 ^ power := Nat.pow_le_pow_left (by decide) power
        _ ≤ whole * 10 ^ power := Nat.le_mul_of_pos_left _ positive
    have notHuge : ¬ -(power : Int) > 2 ^ 11 := by omega
    have notTiny : ¬ -(power : Int) < -(2 ^ 11 + (whole * 10 ^ power).log2) := by omega
    obtain ⟨mantissa, exponent, fraction, rfl, same, fits, -⟩ :=
      holds.exists_of_pos (Nat.cast_pos.mpr positive)
    rw [dif_neg present.ne', if_neg notHuge, if_neg notTiny, if_neg (by omega)]
    apply div_eq _ _ _ fits
    rw [same, size_zero_exponent, size_zero_exponent, Int.neg_neg, Int.toNat_natCast,
      Nat.cast_mul]

theorem isExact_zero : IsExact 0 0 := by
  have isFloat : IsFloat 0 := isFloat_of_lt (by decide)
  have exact := isExact_ofNat isFloat
  rw [Nat.cast_zero] at exact
  exact exact

/-- Zeros after the point do not keep a whole number from being read exactly. -/
theorem isExact_ofScientific {whole : Nat} (power : Nat) (few : whole < 2 ^ 53) :
    IsExact whole (Float.ofScientific (whole * 10 ^ power) true power) := by
  have isFloat := isFloat_of_lt few
  have positive : 0 < ((10 ^ power : Nat) : ℚ) := Nat.cast_pos.mpr (Nat.pow_pos (by decide))
  unfold Float.ofScientific
  split
  · rename_i small
    apply isExact_div _ (isExact_powerOfTen (Nat.lt_succ_iff.mpr small.2)) positive isFloat
    rw [← Nat.cast_mul]
    exact isExact_toFloat small.1
  · rename_i large
    obtain ⟨number, holds⟩ := isFloat
    have some : 0 < power := by
      apply Nat.pos_of_ne_zero
      rintro rfl
      exact large ⟨by rw [Nat.pow_zero, Nat.mul_one]; exact few, by decide⟩
    have sign : Int.negOfNat power = -(power : Int) := Int.negOfNat_eq
    change IsExact whole ⟨Float.Model.pack
      (UnpackedFloat.ofScientific Format.binary64 (whole * 10 ^ power) (Int.negOfNat power))⟩
    rw [sign, ofScientific_zeros_eq holds some]
    exact isExact_pack holds

theorem length_digitsOf_mul_pow {whole : Nat} (power : Nat) (positive : 0 < whole)
    (few : whole < 2 ^ 53) :
    power ≤ (digitsOf (whole * 10 ^ power)).length ∧
      (digitsOf (whole * 10 ^ power)).length ≤ 16 + power := by
  constructor
  · rcases Nat.eq_zero_or_pos power with rfl | some
    · exact Nat.zero_le _
    · by_contra short
      have below := (Nat.length_toDigits_le_iff (by decide) some).mp (Nat.le_of_not_le short)
      exact absurd below (Nat.not_lt.mpr (Nat.le_mul_of_pos_left _ positive))
  · refine (Nat.length_toDigits_le_iff (by decide) (by omega)).mpr ?_
    rw [Nat.pow_add]
    exact Nat.mul_lt_mul_of_pos_right (by omega) (Nat.pow_pos (by decide))

/-- **Whole numbers are read exactly**, whether or not zeros are written after the point. -/
theorem isExact_nearestFloat {whole : Nat} (power : Nat) (few : whole < 2 ^ 53) :
    IsExact whole (nearestFloat false (whole * 10 ^ power) (-(power : Int))) := by
  unfold nearestFloat
  simp only [Bool.false_eq_true, ↓reduceIte]
  rcases Nat.eq_zero_or_pos whole with rfl | positive
  · rw [if_pos (Nat.zero_mul _)]
    exact isExact_ofNat (isFloat_of_lt few)
  · have present : 0 < whole * 10 ^ power := Nat.mul_pos positive (Nat.pow_pos (by decide))
    obtain ⟨long, short⟩ := length_digitsOf_mul_pow power positive few
    rw [if_neg present.ne', if_neg (by omega), if_neg (by omega), Int.natAbs_neg, Int.natAbs_natCast]
    split
    · exact isExact_ofScientific power few
    · obtain rfl : power = 0 := by omega
      rw [Nat.pow_zero, Nat.mul_one]
      exact isExact_ofNat (isFloat_of_lt few)

end CatalogDelta.Decimal
