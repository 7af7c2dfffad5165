import CatalogDelta.Clock.Moment
import CatalogDelta.Decimal.Binary
import Mathlib.Algebra.GroupWithZero.Nat
import Mathlib.Data.Nat.Log
import Mathlib.Tactic.Common

/-!
# Finite floats

Numbers far below the largest float stay finite as they are rounded, divided and stored. So the
seconds of a moment are a finite float.
-/

namespace CatalogDelta.Decimal

open Float.Model Float.Model.UnpackedFloat

/-- The float is neither infinite nor no number at all. -/
def IsFinite (value : Float) : Prop :=
  ∃ negative size, Reading.ofFloat value = .finite negative size

/-- The number is zero or of a size below the power of two. -/
inductive Under (bound : Int) : UnpackedFloat → Prop
  | zero (sign : Sign) : Under bound (.zero sign)
  | finite {sign : Sign} {mantissa : Nat} {exponent : Int} {positive : 0 < mantissa}
    (below : mantissa.log2 + exponent < bound) :
    Under bound (.finite sign mantissa exponent positive)

theorem Under.mono {bound higher : Int} {number : UnpackedFloat} (under : Under bound number)
    (le : bound ≤ higher) : Under higher number := by
  cases under with
  | zero sign => exact .zero sign
  | finite below => exact .finite (Int.lt_of_lt_of_le below le)

theorem Under.neg {bound : Int} {number : UnpackedFloat} (under : Under bound number) :
    Under bound number.neg := by
  cases under with
  | zero sign => exact .zero _
  | finite below => exact .finite below

/-! ## Rounding -/

section Rounding

variable {mantissa : Nat} {exponent bound : Int}

theorem log2_mono {small large : Nat} (le : small ≤ large) : small.log2 ≤ large.log2 := by
  rw [Nat.log2_eq_log_two, Nat.log2_eq_log_two]
  exact Nat.log_mono_right le

theorem log2_shiftLeft (positive : 0 < mantissa) (shift : Nat) :
    (mantissa <<< shift).log2 = mantissa.log2 + shift := by
  rw [Nat.shiftLeft_eq, Nat.log2_eq_log_two, Nat.log2_eq_log_two]
  induction shift with
  | zero => rw [Nat.pow_zero, Nat.mul_one, Nat.add_zero]
  | succ shift ih =>
    have nonzero : mantissa * 2 ^ shift ≠ 0 :=
      (Nat.mul_pos positive (Nat.two_pow_pos shift)).ne'
    rw [Nat.pow_succ, ← Nat.mul_assoc, Nat.log_mul_base Nat.one_lt_two nonzero, ih]
    rfl

theorem log2_succ_le (mantissa : Nat) : (mantissa + 1).log2 ≤ mantissa.log2 + 1 := by
  by_cases empty : mantissa = 0
  · subst empty
    decide
  · have within : mantissa + 1 ≤ mantissa <<< 1 := by
      rw [Nat.shiftLeft_eq]
      omega
    have doubled := log2_shiftLeft (Nat.pos_of_ne_zero empty) 1
    have := log2_mono within
    omega

theorem log2_mul_le (first second : Nat) : (first * second).log2 ≤ first.log2 + second.log2 + 1 := by
  by_cases none : first * second = 0
  · rw [none]
    exact Nat.zero_le _
  · have few : first < 2 ^ (first.log2 + 1) := Nat.lt_log2_self
    have fewToo : second < 2 ^ (second.log2 + 1) := Nat.lt_log2_self
    have product : first * second < 2 ^ (first.log2 + second.log2 + 2) := by
      calc first * second < 2 ^ (first.log2 + 1) * 2 ^ (second.log2 + 1) :=
            Nat.mul_lt_mul'' few fewToo
        _ = 2 ^ (first.log2 + second.log2 + 2) := by rw [← Nat.pow_add]; congr 1; omega
    exact Nat.lt_succ_iff.mp ((Nat.log2_lt none).mpr product)

theorem mantissa_shiftRight (extended : ExtendedMantissa) (shift : Nat) :
    (extended >>> shift).mantissa = extended.mantissa / 2 ^ shift := by
  change (Nat.repeat ExtendedMantissa.shiftRightOne shift extended).mantissa = _
  induction shift with
  | zero => rw [Nat.repeat, Nat.pow_zero, Nat.div_one]
  | succ shift ih =>
    rw [Nat.repeat, Nat.pow_succ, ← Nat.div_div_eq_div_mul, ← ih]
    rfl

theorem mantissa_ofMantissaAndAccuracy (mantissa : Nat) (accuracy : Accuracy) :
    (ExtendedMantissa.ofMantissaAndAccuracy mantissa accuracy).mantissa = mantissa := by
  unfold ExtendedMantissa.ofMantissaAndAccuracy
  split <;> rfl

theorem roundedMantissa_le (extended : ExtendedMantissa) :
    extended.roundedMantissa ≤ extended.mantissa + 1 := by
  unfold ExtendedMantissa.roundedMantissa Accuracy.roundToNearestEven
  split <;> omega

/-- A shift that leaves something of the mantissa keeps the size. -/
theorem size_shiftToExponent {accuracy : Accuracy} {target : Int} {shifted : ExtendedMantissa × Int}
    (shifts : shiftToExponent mantissa exponent accuracy target = shifted)
    (left : shifted.1.mantissa ≠ 0) :
    shifted.1.mantissa.log2 + shifted.2 = mantissa.log2 + exponent := by
  subst shifts
  unfold shiftToExponent at left ⊢
  dsimp only at left ⊢
  rw [mantissa_shiftRight, mantissa_ofMantissaAndAccuracy] at left ⊢
  generalize (target - exponent).toNat = shift at left ⊢
  have fits : 2 ^ shift ≤ mantissa := by
    by_contra short
    exact left (Nat.div_eq_of_lt (Nat.lt_of_not_le short))
  have nonzero : mantissa ≠ 0 := (Nat.lt_of_lt_of_le (Nat.two_pow_pos shift) fits).ne'
  have within := (Nat.le_log2 nonzero).mpr fits
  rw [Nat.log2_eq_log_two] at within ⊢
  rw [Nat.log_div_base_pow, Nat.log2_eq_log_two]
  omega

/-- The exponent to which a number is shifted stays below what bounds the number. -/
theorem exponent_shiftToTargetExponent (accuracy : Accuracy)
    (below : mantissa.log2 + exponent < bound) (least : -1074 < bound) :
    (shiftToTargetExponent Format.binary64 mantissa exponent accuracy).2 < bound := by
  change exponent + ((max (mantissa.log2 + 1 + exponent - 53) (-1074) - exponent).toNat : Int) <
    bound
  omega

theorem under_roundWithAccuracy (sign : Sign) (accuracy : Accuracy)
    (below : mantissa.log2 + exponent < bound) (least : -1074 < bound) :
    Under (bound + 1) (roundWithAccuracy Format.binary64 sign mantissa exponent accuracy) := by
  unfold roundWithAccuracy
  have near := exponent_shiftToTargetExponent accuracy below least
  cases first : shiftToTargetExponent Format.binary64 mantissa exponent accuracy with
  | mk shifted place =>
    rw [first] at near
    dsimp only
    -- Rounding up is the one step that can make the number larger.
    have rounded : shifted.roundedMantissa.log2 + place < bound + 1 := by
      have most := Nat.le_trans (log2_mono (roundedMantissa_le shifted)) (log2_succ_le _)
      by_cases gone : shifted.mantissa = 0
      · have none : (0 : Nat).log2 = 0 := by decide
        rw [gone, none] at most
        omega
      · have kept := size_shiftToExponent first gone
        dsimp only at kept
        omega
    cases final : shiftToTargetExponent Format.binary64 shifted.roundedMantissa place .exact with
    | mk extended last =>
      dsimp only
      by_cases gone : extended.mantissa = 0
      · rw [dif_pos gone]
        exact .zero sign
      · rw [dif_neg gone]
        have kept := size_shiftToExponent final gone
        exact .finite (Int.lt_of_le_of_lt (Int.le_of_eq kept) rounded)

theorem under_round (sign : Sign) (positive : 0 < mantissa)
    (below : mantissa.log2 + exponent < bound) (least : -1074 < bound) :
    Under (bound + 1) (UnpackedFloat.round Format.binary64 sign mantissa exponent) := by
  apply under_roundWithAccuracy sign .exact _ least
  rw [log2_shiftLeft positive]
  omega

theorem under_ofUInt64 (whole : UInt64) :
    Under 65 (UnpackedFloat.ofUInt64 Format.binary64 whole) := by
  change Under 65 (UnpackedFloat.normalize Format.binary64 (whole.toNat : Int) 0 .positive)
  unfold UnpackedFloat.normalize
  split
  · rename_i negative
    rw [Int.compare_eq_lt] at negative
    omega
  · exact .zero _
  · rename_i positive
    rw [Int.compare_eq_gt] at positive
    have size : whole.toNat.log2 < 64 := (Nat.log2_lt (by omega)).mpr (UInt64.toNat_lt whole)
    have below : (whole.toNat.log2 : Int) + 0 < 64 := by omega
    rw [Int.toNat_natCast]
    exact under_round .positive (by omega) below (by decide)

theorem size_divCore {own : Nat} (positive : 0 < own) (mantissa : Nat) (place exponent : Int) :
    (divCore Format.binary64 own place mantissa exponent).1.log2 +
      (divCore Format.binary64 own place mantissa exponent).2.1 ≤ own.log2 + place - exponent := by
  unfold divCore
  dsimp only
  generalize within : min (place - exponent) _ = target
  have target_le : target ≤ place - exponent := by
    rw [← within]
    exact min_le_left _ _
  have most := log2_mono (Nat.div_le_self (own <<< (place - exponent - target).toNat) mantissa)
  rw [log2_shiftLeft positive] at most
  omega

/-- A quotient is about as large as the number that is divided, less the exponent of the other. -/
theorem under_div {number : UnpackedFloat} (under : Under bound number) {sign : Sign}
    (positive : 0 < mantissa) (least : -1074 < bound - exponent) :
    Under (bound - exponent + 1)
      (UnpackedFloat.div Format.binary64 number (.finite sign mantissa exponent positive)) := by
  cases under with
  | zero sign => exact .zero _
  | @finite ownSign own place ownPositive below =>
    have size := size_divCore ownPositive mantissa place exponent
    have smaller := Int.lt_of_le_of_lt size (show own.log2 + place - exponent < bound - exponent by
      omega)
    exact under_roundWithAccuracy _ _ smaller least

/-- A product is about as large as the two numbers together. -/
theorem under_mul {number : UnpackedFloat} (under : Under bound number) {sign : Sign}
    (positive : 0 < mantissa) (least : -1074 < bound + mantissa.log2 + exponent + 1) :
    Under (bound + mantissa.log2 + exponent + 2)
      (UnpackedFloat.mul Format.binary64 number (.finite sign mantissa exponent positive)) := by
  cases under with
  | zero sign => exact .zero _
  | @finite ownSign own place ownPositive below =>
    have size := log2_mul_le own mantissa
    have smaller : ((own * mantissa).log2 : Int) + (place + exponent) <
        bound + mantissa.log2 + exponent + 1 := by omega
    exact (under_roundWithAccuracy _ _ smaller least).mono (by omega)

end Rounding

/-! ## Storing -/

/-- The stored exponent of a number is small, and does not mark what is not finite. -/
theorem unpackExponent_pack {bound : Int} {number : UnpackedFloat} (under : Under bound number)
    (within : bound ≤ 971) :
    (unpackExponent (UnpackedFloat.pack Format.binary64 number)).toNat < max 1 (bound + 1075) := by
  have zero (sign : Sign) (mantissa : BitVec 52) :
      (unpackExponent (packComponents Format.binary64 sign 0#11 mantissa)).toNat <
        max 1 (bound + 1075) := by
    rw [unpackExponent_packComponents]
    change ((0 : Nat) : Int) < _
    omega
  cases under with
  | zero sign => exact zero sign _
  | @finite sign mantissa exponent positive below =>
    have bias : Format.binary64.exponentBias = 1023 := by decide
    unfold UnpackedFloat.pack
    rw [bias]
    dsimp only
    split
    · omega
    · split
      · rw [unpackExponent_packComponents, BitVec.toNat_ofNat]
        omega
      · exact zero sign _

theorem isFinite_of_unpackExponent {value : Float}
    (below : (@unpackExponent Format.binary64 value.toModel.toBits.toBitVec).toNat < 2047) :
    IsFinite value := by
  have field : (@unpackExponent Format.binary64 value.toModel.toBits.toBitVec).toNat =
      value.toBits.toNat / Nat.pow 2 52 % Nat.pow 2 11 := by
    change (BitVec.extractLsb 62 52 value.toModel.toBits.toBitVec).toNat = _
    rw [BitVec.extractLsb_toNat, Nat.shiftRight_eq_div_pow]
    rfl
  rw [field] at below
  unfold IsFinite Reading.ofFloat Reading.ofBits
  dsimp only
  rw [if_neg (Nat.ne_of_lt below)]
  split
  · exact ⟨_, _, rfl⟩
  · exact ⟨_, _, rfl⟩

theorem log2_toNat_lt {width : Nat} (bits : BitVec width) (wide : 0 < width) :
    bits.toNat.log2 < width := by
  by_cases empty : bits.toNat = 0
  · rw [empty]
    exact wide
  · exact (Nat.log2_lt empty).mpr bits.isLt

theorem under_unpack {bits : BitVec 64}
    (below : (@unpackExponent Format.binary64 bits).toNat < 2047) :
    Under ((@unpackExponent Format.binary64 bits).toNat - 1022)
      (UnpackedFloat.unpack Format.binary64 bits) := by
  have bias : Format.binary64.exponentBias = 1023 := by decide
  unfold UnpackedFloat.unpack
  rw [bias]
  dsimp only
  generalize @unpackExponent Format.binary64 bits = stored at below ⊢
  have unmarked : stored ≠ -1#11 := by
    rintro rfl
    exact absurd below (by decide)
  rw [if_neg unmarked]
  by_cases least : stored = 0#11
  · rw [if_pos least]
    by_cases empty : @unpackMantissa Format.binary64 bits = 0#52
    · rw [dif_pos empty]
      exact .zero _
    · rw [dif_neg empty]
      subst least
      have size : (@unpackMantissa Format.binary64 bits).toNat.log2 < 52 :=
        log2_toNat_lt _ (by decide)
      refine .finite ?_
      change _ + (((0 : Nat) : Int) - (1023 + 52) + 1) < ((0 : Nat) : Int) - 1022
      omega
  · rw [if_neg least]
    have size : (1#1 ++ @unpackMantissa Format.binary64 bits).toNat.log2 < 53 :=
      log2_toNat_lt _ (by decide)
    refine .finite ?_
    omega

theorem under_unpack_pack {bound : Int} {number : UnpackedFloat} (under : Under bound number)
    (least : -1074 ≤ bound) (within : bound ≤ 971) :
    Under (bound + 53) (Float.Model.pack number).unpack := by
  have stored := unpackExponent_pack under within
  apply (@under_unpack (UnpackedFloat.pack Format.binary64 number) (by omega)).mono
  omega

theorem isFinite_pack {bound : Int} {number : UnpackedFloat} (under : Under bound number)
    (within : bound ≤ 971) : IsFinite ⟨Float.Model.pack number⟩ := by
  have stored := unpackExponent_pack under within
  apply isFinite_of_unpackExponent
  change (unpackExponent (UnpackedFloat.pack Format.binary64 number)).toNat < 2047
  omega

theorem isFinite_neg {bound : Int} {number : UnpackedFloat} (under : Under bound number)
    (least : -1074 ≤ bound) (within : bound ≤ 900) : IsFinite (-⟨Float.Model.pack number⟩) := by
  change IsFinite ⟨Float.Model.pack (Float.Model.pack number).unpack.neg⟩
  exact isFinite_pack (under_unpack_pack under least (by omega)).neg (by omega)

/-- A whole number of a size that can occur is a small number of millionths. -/
theorem exists_ofScientific {whole : Nat} (small : whole.log2 < 64) :
    ∃ number, Under 200 number ∧ Float.ofScientific whole true 6 = ⟨Float.Model.pack number⟩ := by
  unfold Float.ofScientific
  split
  · refine ⟨UnpackedFloat.div Format.binary64 (Float.Model.ofUInt64 whole.toUInt64).unpack
      (.finite .positive 8589934592000000 (-33) (by decide)), ?_, ?_⟩
    · have kept := under_unpack_pack (under_ofUInt64 whole.toUInt64) (by decide) (by decide)
      exact (under_div kept (by decide) (by decide)).mono (by decide)
    · have million : (Float.ofBits 4696837146684686336).toModel.unpack =
          .finite .positive 8589934592000000 (-33) (by decide) := rfl
      rw [← million]
      rfl
  · refine ⟨UnpackedFloat.ofScientific Format.binary64 whole (-6), ?_, rfl⟩
    unfold UnpackedFloat.ofScientific
    by_cases empty : whole = 0
    · rw [dif_pos empty]
      exact .zero _
    · rw [dif_neg empty]
      have low : ¬ (-6 : Int) > 2 ^ 11 := by decide
      have high : ¬ (-6 : Int) < -(2 ^ 11 + whole.log2) := by omega
      rw [if_neg low, if_neg high, if_neg (by decide)]
      have below : (whole.log2 : Int) + 0 < 64 := by omega
      exact (under_div (.finite below) _ (by decide)).mono (by decide)

end CatalogDelta.Decimal

namespace CatalogDelta

theorem Calendar.daysInMonth_le (year : Int) (month : Nat) : daysInMonth year month ≤ 31 := by
  unfold daysInMonth
  split
  · split <;> decide
  · split <;> decide

theorem Calendar.dayNumber_within {year : Int} {month day : Nat} (first : 1 ≤ year)
    (last : year ≤ 9999) (inMonth : day ≤ 31) : (dayNumber year month day).natAbs < 4000000 := by
  unfold dayNumber
  dsimp only
  rw [Int.fdiv_eq_ediv_of_nonneg _ (by decide)]
  split <;> omega

/-- The years that there are span less than two to the sixtieth power microseconds. -/
theorem Moment.epochMicros_within {moment : Moment} (valid : moment.isValid = true) :
    moment.epochMicros.natAbs < 2 ^ 60 := by
  unfold isValid at valid
  simp only [Bool.and_eq_true, decide_eq_true_eq, and_assoc] at valid
  obtain ⟨first, last, -, -, -, inMonth, hour, minute, second, micro, offset⟩ := valid
  have day := Nat.le_trans inMonth (Calendar.daysInMonth_le _ _)
  have days : (Calendar.dayNumber moment.year moment.month moment.day).natAbs < 4000000 :=
    Calendar.dayNumber_within first last day
  have shift : (moment.offset.getD 0).natAbs < Span.microsPerDay.natAbs := by
    cases given : moment.offset with
    | none => decide
    | some shift =>
      rw [given] at offset
      exact of_decide_eq_true offset
  have span : Span.microsPerDay.natAbs = 86400000000 := by decide
  rw [span] at shift
  unfold epochMicros
  dsimp only
  omega

/-- The seconds of a moment are a float far below the largest one, or the opposite of one. -/
theorem Moment.exists_epochSeconds {moment : Moment} (valid : moment.isValid = true) :
    ∃ number, Decimal.Under 200 number ∧
      (moment.epochSeconds = ⟨Float.Model.pack number⟩ ∨
        moment.epochSeconds = -⟨Float.Model.pack number⟩) := by
  have small := Moment.epochMicros_within valid
  have size : moment.epochMicros.natAbs.log2 < 64 := by
    by_cases none : moment.epochMicros.natAbs = 0
    · rw [none]
      decide
    · exact (Nat.log2_lt none).mpr (by omega)
  obtain ⟨number, under, same⟩ := Decimal.exists_ofScientific size
  refine ⟨number, under, ?_⟩
  unfold epochSeconds
  dsimp only
  rw [same]
  split
  · exact .inr rfl
  · exact .inl rfl

theorem Moment.isFinite_epochSeconds {moment : Moment} (valid : moment.isValid = true) :
    Decimal.IsFinite moment.epochSeconds := by
  obtain ⟨number, under, same | same⟩ := Moment.exists_epochSeconds valid
  · exact same ▸ Decimal.isFinite_pack under (by decide)
  · exact same ▸ Decimal.isFinite_neg under (by decide) (by decide)

end CatalogDelta
