import CatalogDelta.Proofs.Clock.Span
import CatalogDelta.Proofs.Lookback.Tokens
import Mathlib.Algebra.BigOperators.Group.List.Basic

/-!
# What parts of a duration come to

Parts come to a span that is not negative, or to more than a span can be. Whole amounts come to the
exact sum, whichever way they are added up.
-/

namespace CatalogDelta

/-- Digits after others shift these to the left. -/
theorem Text.digitsValue_append (front back : List Char) :
    digitsValue (front ++ back) = digitsValue front * 10 ^ back.length + digitsValue back := by
  have shifted (start : Nat) :
      back.foldl (fun total c => 10 * total + (digitValue? c).getD 0) start =
        start * 10 ^ back.length + digitsValue back := by
    unfold digitsValue
    induction back generalizing start with
    | nil => simp
    | cons c back ih =>
      rw [List.foldl_cons, List.foldl_cons, ih, ih (10 * 0 + _), List.length_cons, Nat.pow_succ]
      ring
  unfold digitsValue at shifted ⊢
  rw [List.foldl_append]
  exact shifted _

namespace Duration

open Decimal CatalogDelta.Span

/-! ## Amounts -/

theorem Amount.isUnsigned_toFloat (amount : Amount) : IsUnsigned amount.toFloat :=
  isUnsigned_nearestFloat _ _

/-- The number before the point. -/
def Amount.value (amount : Amount) : Nat := Text.digitsValue amount.whole

/-- The amount is a whole number below two to the fifty-third power: nothing but zeros comes after
the point. -/
structure Amount.IsWhole (amount : Amount) : Prop where
  fraction : Text.digitsValue amount.fraction = 0
  small : amount.value < 2 ^ 53

theorem Amount.isExact_toFloat {amount : Amount} (whole : amount.IsWhole) :
    IsExact amount.value amount.toFloat := by
  have digits : Text.digitsValue (amount.whole ++ amount.fraction) =
      amount.value * 10 ^ amount.fraction.length := by
    rw [Text.digitsValue_append, whole.fraction, Nat.add_zero]
    rfl
  unfold Amount.toFloat Decimal.floatOfParts
  rw [digits, Int.zero_sub]
  exact isExact_nearestFloat _ whole.small

/-! ## One after another -/

theorem partSpan_cases (part : Part) :
    partSpan part = .error .outOfRange ∨
      ∃ span, partSpan part = .ok span ∧ 0 ≤ span.micros := by
  have each : ∀ other ∈ [part], IsUnsigned other.2.toFloat :=
    fun other _ => other.2.isUnsigned_toFloat
  exact ofAmounts_of_unsigned Amount.toFloat each

theorem total_cases {start : Span} (nonneg : 0 ≤ start.micros) (parts : List Part) :
    total start parts = .error .outOfRange ∨
      ∃ span, total start parts = .ok span ∧ 0 ≤ span.micros := by
  induction parts generalizing start with
  | nil => exact .inr ⟨start, rfl, nonneg⟩
  | cons part parts ih =>
    rw [total_cons]
    rcases partSpan_cases part with outside | ⟨span, within, spanNonneg⟩
    · rw [outside]
      exact .inl rfl
    · rw [within]
      dsimp only [Except.bind]
      rcases ofMicros?_eq_ok_or (start.micros + span.micros) with within | outside
      · rw [Span.add, within]
        exact ih (Int.add_nonneg nonneg spanNonneg)
      · rw [Span.add, outside]
        exact .inl rfl

/-- The exact sum of whole amounts in microseconds. -/
def micros (parts : List Part) : Nat :=
  (parts.map fun (unit, amount) => amount.value * unit.micros).sum

theorem micros_cons (part : Part) (parts : List Part) :
    micros (part :: parts) = part.2.value * part.1.micros + micros parts := rfl

theorem partSpan_of_whole {part : Part} (whole : part.2.IsWhole) :
    partSpan part = ofMicros? (part.2.value * part.1.micros : Nat) := by
  have each : ∀ other ∈ [part], IsExact other.2.value other.2.toFloat := by
    intro other member
    obtain rfl := List.mem_singleton.mp member
    exact Amount.isExact_toFloat whole
  have exact := ofAmounts_of_exact Amount.toFloat Amount.value each
  rw [List.map_singleton, List.map_singleton, List.sum_singleton] at exact
  exact exact

/-- **Whole amounts** that are added one after another come to their exact sum. -/
theorem total_of_whole {start : Span} (nonneg : 0 ≤ start.micros) (small : start.micros < microsLimit)
    {parts : List Part} (whole : ∀ part ∈ parts, part.2.IsWhole) :
    total start parts = ofMicros? (start.micros + micros parts) := by
  induction parts generalizing start with
  | nil =>
    change _ = ofMicros? (start.micros + 0)
    rw [Int.add_zero, ofMicros?_of_nonneg nonneg, if_pos small]
    rfl
  | cons part parts ih =>
    have rest := fun part member => whole part (List.mem_cons_of_mem _ member)
    have own : (0 : Int) ≤ (part.2.value * part.1.micros : Nat) := Int.natCast_nonneg _
    have more : (0 : Int) ≤ (micros parts : Nat) := Int.natCast_nonneg _
    have regroup : start.micros + (micros (part :: parts) : Nat) =
        start.micros + (part.2.value * part.1.micros : Nat) + (micros parts : Nat) := by
      rw [micros_cons, Nat.cast_add, Int.add_assoc]
    rw [total_cons, partSpan_of_whole (whole part List.mem_cons_self), regroup]
    generalize ((part.2.value * part.1.micros : Nat) : Int) = amount at own ⊢
    by_cases ownSmall : amount < microsLimit
    · have added : start.add ⟨amount⟩ = ofMicros? (start.micros + amount) := rfl
      have sumNonneg : 0 ≤ start.micros + amount := Int.add_nonneg nonneg own
      rw [ofMicros?_of_nonneg own, if_pos ownSmall]
      dsimp only [Except.bind]
      rw [added, ofMicros?_of_nonneg sumNonneg]
      by_cases sumSmall : start.micros + amount < microsLimit
      · rw [if_pos sumSmall]
        exact ih sumNonneg sumSmall rest
      · rw [if_neg sumSmall, ofMicros?_of_nonneg (Int.add_nonneg sumNonneg more),
          if_neg (by omega)]
    · have sumNonneg : 0 ≤ start.micros + amount + micros parts := by omega
      rw [ofMicros?_of_nonneg own, if_neg ownSmall, ofMicros?_of_nonneg sumNonneg,
        if_neg (by omega)]
      rfl

/-! ## All at once -/

/-- The span of parts that are added up at once. -/
def sumSpan (parts : List Part) : Except Span.Error Span :=
  let inOrder := parts.mergeSort fun first second => unitRank first.1 ≤ unitRank second.1
  Span.ofAmounts (inOrder.map fun (unit, amount) => (unit, .real amount.toFloat))

theorem sumSpan_cases (parts : List Part) :
    sumSpan parts = .error .outOfRange ∨ ∃ span, sumSpan parts = .ok span ∧ 0 ≤ span.micros :=
  ofAmounts_of_unsigned Amount.toFloat fun _ _ => Amount.isUnsigned_toFloat _

theorem sumSpan_of_whole {parts : List Part} (whole : ∀ part ∈ parts, part.2.IsWhole) :
    sumSpan parts = ofMicros? (micros parts) := by
  have reordered := parts.mergeSort_perm fun first second => unitRank first.1 ≤ unitRank second.1
  unfold sumSpan
  dsimp only
  rw [ofAmounts_of_exact Amount.toFloat Amount.value fun part member =>
    Amount.isExact_toFloat (whole part (reordered.mem_iff.mp member))]
  unfold micros
  rw [(reordered.map _).sum_eq]

end Duration
end CatalogDelta
