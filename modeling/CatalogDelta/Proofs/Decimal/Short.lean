import CatalogDelta.Decimal.Binary
import CatalogDelta.Proofs.Decimal.Integer
import Mathlib.Algebra.GroupWithZero.Nat

/-!
# Whole numbers that are read are short

What a numeral with an admitted number of digits writes has no more digits itself, and neither has
the whole part of a float. Main statements: `isShort_of_parseInteger`, `isShort_of_truncate?`.
-/

namespace CatalogDelta.Decimal

/-- A whole number has no more digits than are read. -/
def IsShort (n : Int) : Prop := (digitsOf n.natAbs).length ≤ digitLimit

theorem isShort_iff {n : Int} : IsShort n ↔ n.natAbs < 10 ^ digitLimit :=
  Nat.length_toDigits_le_iff (by decide) (by decide)

theorem digitValue?_lt (c : Char) : (Text.digitValue? c).getD 0 < 10 := by
  unfold Text.digitValue?
  by_cases plain : c.toNat < 0x80
  · rw [if_pos plain]
    by_cases digit : '0' ≤ c ∧ c ≤ '9'
    · have most : c.toNat ≤ 57 := digit.2
      rw [if_pos digit, Option.getD_some]
      omega
    · rw [if_neg digit, Option.getD_none]
      decide
  · rw [if_neg plain]
    cases found : Text.zeroDigits.find? fun start => start ≤ c.toNat && c.toNat < start + 10 with
    | none =>
      rw [Option.map_none, Option.getD_none]
      decide
    | some start =>
      have within := List.find?_some found
      rw [Bool.and_eq_true, decide_eq_true_eq, decide_eq_true_eq] at within
      rw [Option.map_some, Option.getD_some]
      omega

/-- A run of digits writes less than the power of ten with so many zeros. -/
theorem digitsValue_lt (digits : List Char) : Text.digitsValue digits < 10 ^ digits.length := by
  have fold (digits : List Char) (total : Nat) :
      digits.foldl (fun total c => 10 * total + (Text.digitValue? c).getD 0) total <
        (total + 1) * 10 ^ digits.length := by
    induction digits generalizing total with
    | nil =>
      rw [List.foldl_nil, List.length_nil, Nat.pow_zero, Nat.mul_one]
      exact Nat.lt_succ_self total
    | cons c rest ih =>
      have small := digitValue?_lt c
      calc
        _ < (10 * total + (Text.digitValue? c).getD 0 + 1) * 10 ^ rest.length := ih _
        _ ≤ (10 * (total + 1)) * 10 ^ rest.length := Nat.mul_le_mul_right _ (by omega)
        _ = (total + 1) * 10 ^ (c :: rest).length := by
          rw [List.length_cons, Nat.pow_succ, Nat.mul_comm 10, Nat.mul_assoc, Nat.mul_comm 10]
  have whole := fold digits 0
  rw [Nat.zero_add, Nat.one_mul] at whole
  exact whole

/-- A signed run of digits that is not too long is short. -/
theorem isShort_of_digits {digits : List Char} (short : digits.length ≤ digitLimit)
    (negative : Bool) :
    IsShort (if negative then -(Text.digitsValue digits : Int) else Text.digitsValue digits) := by
  have below : Text.digitsValue digits < 10 ^ digitLimit :=
    Nat.lt_of_lt_of_le (digitsValue_lt digits) (Nat.pow_le_pow_right (by decide) short)
  rw [isShort_iff]
  cases negative with
  | true =>
    rw [if_pos rfl, Int.natAbs_neg, Int.natAbs_natCast]
    exact below
  | false =>
    rw [if_neg Bool.false_ne_true, Int.natAbs_natCast]
    exact below

/-- **A text writes short numbers only.** -/
theorem isShort_of_parseInteger {text : List Char} {n : Int} (parsed : parseInteger text = .ok n) :
    IsShort n := by
  unfold parseInteger at parsed
  dsimp only at parsed
  split at parsed
  · contradiction
  · split at parsed
    · contradiction
    · rename_i short
      split at parsed
      · contradiction
      · obtain rfl := Except.ok.inj parsed
        exact isShort_of_digits (Nat.not_lt.mp short) _

/-- The whole part of a binary fraction is short unless its exponent is large. -/
theorem Binary.floor_lt {size : Binary} {bound : Nat} (few : size.mantissa < 2 ^ 53)
    (low : size.exponent ≤ bound) (fits : 53 + bound ≤ digitLimit) :
    size.floor < 10 ^ digitLimit := by
  have floor_le : size.floor ≤ size.mantissa * 2 ^ bound := by
    unfold floor fraction powerFraction
    by_cases below : size.exponent < 0
    · rw [if_pos below]
      refine Nat.le_trans (Nat.div_le_self _ _) (Nat.mul_le_mul_left _ ?_)
      exact Nat.one_le_two_pow
    · rw [if_neg below]
      refine Nat.le_trans (Nat.div_le_self _ _) (Nat.mul_le_mul_left _ ?_)
      exact Nat.pow_le_pow_right (by decide) (by omega)
  calc
    size.floor ≤ size.mantissa * 2 ^ bound := floor_le
    _ < 2 ^ 53 * 2 ^ bound := Nat.mul_lt_mul_of_pos_right few (Nat.two_pow_pos bound)
    _ = 2 ^ (53 + bound) := (Nat.pow_add 2 53 bound).symm
    _ ≤ 10 ^ (53 + bound) := Nat.pow_le_pow_left (by decide) _
    _ ≤ 10 ^ digitLimit := Nat.pow_le_pow_right (by decide) fits

/-- What a float stands for, if it is finite, is in the range of floats. -/
theorem Reading.ofBits_finite {bits : UInt64} {negative : Bool} {size : Binary}
    (read : ofBits bits = .finite negative size) :
    size.mantissa < 2 ^ 53 ∧ size.exponent ≤ 971 := by
  have fraction : bits.toNat % Nat.pow 2 52 < Nat.pow 2 52 := Nat.mod_lt _ (Nat.two_pow_pos 52)
  have biased : bits.toNat / Nat.pow 2 52 % Nat.pow 2 11 < Nat.pow 2 11 :=
    Nat.mod_lt _ (Nat.two_pow_pos 11)
  unfold ofBits at read
  dsimp only at read
  split at read
  · split at read
    · contradiction
    · contradiction
  · rename_i ordinary
    have double : Nat.pow 2 52 + Nat.pow 2 52 = 2 ^ 53 := by decide
    have range : Nat.pow 2 11 = 2048 := by decide
    split at read
    · obtain ⟨_, rfl⟩ := Reading.finite.inj read
      dsimp only
      omega
    · obtain ⟨_, rfl⟩ := Reading.finite.inj read
      dsimp only
      omega

/-- **The whole part of a float is short.** -/
theorem isShort_of_truncate? {value : Float} {n : Int}
    (whole : (Reading.ofFloat value).truncate? = some n) : IsShort n := by
  cases read : Reading.ofFloat value with
  | notANumber =>
    rw [read] at whole
    contradiction
  | infinite negative =>
    rw [read] at whole
    contradiction
  | finite negative size =>
    rw [read, Reading.truncate?, Option.some.injEq] at whole
    obtain ⟨few, low⟩ := Reading.ofBits_finite read
    have size_eq : n.natAbs = size.floor := by
      rw [← whole]
      cases negative <;> simp
    have fits : 53 + 971 ≤ digitLimit := by decide
    rw [isShort_iff, size_eq]
    exact Binary.floor_lt few low fits

end CatalogDelta.Decimal
