import CatalogDelta.Proofs.Decimal.Finite
import Mathlib.Algebra.Order.Field.Power
import Mathlib.Data.Rat.Cast.Order
import Mathlib.Tactic.Ring

/-!
# Mantissa and exponent

A mantissa and an exponent stand for a rational number. If that is a number a float can hold, then
rounding gives its own mantissa and exponent, and so does a product or a quotient that comes to it:
nothing is lost.
-/

namespace CatalogDelta.Decimal

open Float.Model Float.Model.UnpackedFloat

section Mantissa

variable {mantissa whole : Nat} {exponent place : Int}

/-- The mantissa fills the bits that there are for it, or else the exponent is the least. -/
def Fits (mantissa : Nat) (exponent : Int) : Prop :=
  max (mantissa.log2 + 1 + exponent - 53) (-1074) = exponent

/-- What a mantissa and an exponent stand for. -/
def size (mantissa : Nat) (exponent : Int) : ℚ := mantissa * 2 ^ exponent

theorem size_pos (positive : 0 < mantissa) : 0 < size mantissa exponent :=
  mul_pos (Nat.cast_pos.mpr positive) (zpow_pos two_pos exponent)

theorem size_zero_exponent (mantissa : Nat) : size mantissa 0 = mantissa := by
  rw [size, zpow_zero, mul_one]

theorem size_shiftLeft (mantissa shift : Nat) (exponent : Int) :
    size (mantissa <<< shift) exponent = size mantissa (exponent + shift) := by
  unfold size
  rw [Nat.shiftLeft_eq, Nat.cast_mul, Nat.cast_pow, Nat.cast_two, zpow_add₀ two_ne_zero,
    zpow_natCast]
  ring

theorem size_mul (first second : Nat) (low high : Int) :
    size (first * second) (low + high) = size first low * size second high := by
  unfold size
  rw [Nat.cast_mul, zpow_add₀ two_ne_zero]
  ring

theorem eq_of_size_eq (same : size mantissa exponent = size whole exponent) : mantissa = whole := by
  unfold size at same
  exact Nat.cast_injective (mul_right_cancel₀ (zpow_ne_zero exponent two_ne_zero) same)

/-- Of two that stand for the same, the one with the smaller exponent has the longer mantissa. -/
theorem exists_shiftLeft_of_size_eq (same : size mantissa exponent = size whole place)
    (le : exponent ≤ place) :
    ∃ shift : Nat, mantissa = whole <<< shift ∧ exponent = place - shift := by
  obtain ⟨shift, rfl⟩ := Int.le.dest le
  rw [← size_shiftLeft] at same
  exact ⟨shift, eq_of_size_eq same, by omega⟩

theorem log2_add_eq_of_size_eq (positive : 0 < whole)
    (same : size mantissa exponent = size whole place) :
    mantissa.log2 + exponent = whole.log2 + place := by
  rcases le_total exponent place with le | le
  · obtain ⟨shift, rfl, rfl⟩ := exists_shiftLeft_of_size_eq same le
    rw [log2_shiftLeft positive]
    omega
  · obtain ⟨shift, rfl, rfl⟩ := exists_shiftLeft_of_size_eq same.symm le
    have short : 0 < mantissa := by
      apply Nat.pos_of_ne_zero
      rintro rfl
      rw [Nat.zero_shiftLeft] at positive
      exact lt_irrefl 0 positive
    rw [log2_shiftLeft short]
    omega

theorem eq_of_fits (positive : 0 < whole) (fits : Fits mantissa exponent)
    (fitsToo : Fits whole place) (same : size mantissa exponent = size whole place) :
    mantissa = whole ∧ exponent = place := by
  have sameTop := log2_add_eq_of_size_eq positive same
  unfold Fits at fits fitsToo
  have exponents : exponent = place := by omega
  subst exponents
  exact ⟨eq_of_size_eq same, rfl⟩

/-- Bits that were shifted in fall out again and leave nothing behind. -/
theorem shiftLeft_shiftRight (mantissa : Nat) (shift rest : Nat) :
    (⟨mantissa <<< (shift + rest), false, false⟩ : ExtendedMantissa) >>> shift =
      ⟨mantissa <<< rest, false, false⟩ := by
  change Nat.repeat ExtendedMantissa.shiftRightOne shift _ = _
  induction shift generalizing rest with
  | zero => rw [Nat.repeat, Nat.zero_add]
  | succ shift ih =>
    have front : shift + 1 + rest = shift + (rest + 1) := by omega
    rw [Nat.repeat, front, ih, ExtendedMantissa.shiftRightOne, Nat.shiftLeft_succ]
    have even : 2 * mantissa <<< rest % 2 = 0 := Nat.mul_mod_right 2 _
    have half : 2 * mantissa <<< rest / 2 = mantissa <<< rest := Nat.mul_div_cancel_left _ two_pos
    simp only [even, half, bne_self_eq_false, Bool.or_self]

theorem shiftToTargetExponent_shiftLeft (positive : 0 < whole) (fits : Fits whole place)
    (shift : Nat) :
    shiftToTargetExponent Format.binary64 (whole <<< shift) (place - shift) .exact =
      (⟨whole, false, false⟩, place) := by
  have target : Format.binary64.targetExponent
      (totalExponent (whole <<< shift) (place - shift)) = place := by
    change max (((whole <<< shift).log2 : Int) + 1 + (place - shift) - 53) (-1074) = place
    rw [log2_shiftLeft positive]
    unfold Fits at fits
    omega
  have amount : (place - (place - shift)).toNat = shift := by omega
  unfold shiftToTargetExponent shiftToExponent
  rw [target]
  dsimp only
  rw [amount]
  have kept := shiftLeft_shiftRight whole shift 0
  rw [Nat.shiftLeft_zero, Nat.add_zero] at kept
  exact Prod.ext kept (by dsimp only; omega)

/-- Rounding a number that is a float already gives that float. -/
theorem roundWithAccuracy_eq (sign : Sign) (positive : 0 < whole) (fits : Fits whole place)
    (same : size mantissa exponent = size whole place) (le : exponent ≤ place) :
    roundWithAccuracy Format.binary64 sign mantissa exponent .exact =
      .finite sign whole place positive := by
  obtain ⟨shift, rfl, rfl⟩ := exists_shiftLeft_of_size_eq same le
  have again := shiftToTargetExponent_shiftLeft positive fits 0
  rw [Nat.shiftLeft_zero, Int.ofNat_zero, Int.sub_zero] at again
  unfold roundWithAccuracy
  rw [shiftToTargetExponent_shiftLeft positive fits shift]
  dsimp only
  have rounded : (⟨whole, false, false⟩ : ExtendedMantissa).roundedMantissa = whole := rfl
  rw [rounded, again]
  exact dif_neg positive.ne'

theorem round_eq (sign : Sign) (positive : 0 < whole) (fits : Fits whole place)
    (same : size mantissa exponent = size whole place) :
    UnpackedFloat.round Format.binary64 sign mantissa exponent =
      .finite sign whole place positive := by
  have target : Format.binary64.targetExponent (totalExponent mantissa exponent) = place := by
    have sameTop := log2_add_eq_of_size_eq positive same
    change max ((mantissa.log2 : Int) + 1 + exponent - 53) (-1074) = place
    unfold Fits at fits
    omega
  unfold UnpackedFloat.round decreaseExponent
  rw [target]
  dsimp only
  apply roundWithAccuracy_eq sign positive fits
  · rw [size_shiftLeft, sub_add_cancel, same]
  · omega

theorem mul_eq {first second : Nat} {low high : Int} (firstPositive : 0 < first)
    (secondPositive : 0 < second) (positive : 0 < whole) (fits : Fits whole place)
    (same : size first low * size second high = size whole place) (le : low + high ≤ place) :
    UnpackedFloat.mul Format.binary64 (.finite .positive first low firstPositive)
        (.finite .positive second high secondPositive) =
      .finite .positive whole place positive :=
  roundWithAccuracy_eq .positive positive fits ((size_mul first second low high).trans same) le

/-- A quotient that is a float is found exactly. -/
theorem div_eq {first second : Nat} {low high : Int} (firstPositive : 0 < first)
    (secondPositive : 0 < second) (positive : 0 < whole) (fits : Fits whole place)
    (same : size first low = size whole place * size second high) :
    UnpackedFloat.div Format.binary64 (.finite .positive first low firstPositive)
        (.finite .positive second high secondPositive) =
      .finite .positive whole place positive := by
  rw [← size_mul] at same
  have sameTop := log2_add_eq_of_size_eq (Nat.mul_pos positive secondPositive) same
  have top := log2_mul_le whole second
  unfold UnpackedFloat.div divCore
  dsimp only
  generalize within : min (low - high) (Format.binary64.targetExponent
    (totalExponent first low - totalExponent second high)) = target
  have small : target ≤ low - high := within ▸ min_le_left _ _
  have near : target ≤ place := by
    have near : target ≤ max ((first.log2 : Int) + 1 + low - (second.log2 + 1 + high) - 53) (-1074) :=
      within ▸ min_le_right _ _
    unfold Fits at fits
    omega
  -- The number divided is the product of the quotient and the divisor, bit for bit.
  have product : size (first <<< (low - high - target).toNat) (target + high) =
      size (whole * second) (place + high) := by
    rw [size_shiftLeft, ← same]
    congr 1
    omega
  obtain ⟨shift, divided, exponents⟩ := exists_shiftLeft_of_size_eq product (by omega)
  have factors : first <<< (low - high - target).toNat = (whole <<< shift) * second := by
    rw [divided, Nat.shiftLeft_eq, Nat.shiftLeft_eq]
    ring
  have nothingLeft : accuracyOfFraction (whole <<< shift * second % second) second = .exact := by
    rw [Nat.mul_mod_left]
    exact if_pos rfl
  rw [factors, nothingLeft, Nat.mul_div_cancel _ secondPositive]
  apply roundWithAccuracy_eq _ positive fits _ near
  rw [size_shiftLeft]
  congr 1
  omega

end Mantissa

end CatalogDelta.Decimal
