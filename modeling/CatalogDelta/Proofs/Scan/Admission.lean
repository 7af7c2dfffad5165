import CatalogDelta.Proofs.Watermark.Basic
import CatalogDelta.Scan.Admission

/-!
# Monotone admission

Time passing and watermarks rising only ever take updates out of what is admitted, and what is later
than an admitted update is admitted too.
-/

namespace CatalogDelta

/-- What is no older than an update in the window lies in it too. -/
theorem LookbackPolicy.admits_of_younger {policy : LookbackPolicy}
    {updateTime now other moment : Int} (younger : moment - other ≤ now - updateTime)
    (inside : policy.admits updateTime now = true) : policy.admits other moment = true := by
  unfold admits at inside ⊢
  cases window : policy.lookback with
  | none => rfl
  | some span =>
    simp only [window] at inside ⊢
    cases edge : policy.inclusive with
    | true =>
      simp only [edge, ↓reduceIte, decide_eq_true_eq] at inside ⊢
      omega
    | false =>
      simp only [edge, Bool.false_eq_true, ↓reduceIte, decide_eq_true_eq] at inside ⊢
      omega

namespace ScanRules

theorem admits_eq_true_iff (rules : ScanRules) (updateTime : Int) (prior : Option Int)
    (now : Int) :
    rules.admits updateTime prior now = true ↔
      rules.lookback.admits updateTime now = true ∧ rules.isNew updateTime prior = true := by
  rw [admits, Bool.and_eq_true]

theorem isNew_some_of_strict {rules : ScanRules} (strict : rules.strict = true)
    (updateTime mark : Int) :
    rules.isNew updateTime (some mark) = true ↔ mark < updateTime := by
  simp only [isNew, strict, ↓reduceIte, decide_eq_true_eq]

theorem le_of_isNew {rules : ScanRules} {updateTime mark : Int}
    (new : rules.isNew updateTime (some mark) = true) : mark ≤ updateTime := by
  simp only [isNew] at new
  split at new
  · exact Int.le_of_lt (of_decide_eq_true new)
  · exact of_decide_eq_true new

/-- An update is new after the larger of two watermarks if it is new after both. -/
theorem isNew_larger (rules : ScanRules) (updateTime : Int) (first second : Option Int) :
    rules.isNew updateTime (Watermarks.larger first second) =
      (rules.isNew updateTime first && rules.isNew updateTime second) := by
  cases first with
  | none => cases second <;> rfl
  | some first =>
    cases second with
    | none => simp [isNew]
    | some second =>
      simp only [Watermarks.larger, Option.merge_some_some, isNew]
      cases rules.strict with
      | true =>
        simp only [↓reduceIte, ← Bool.decide_and, decide_eq_decide]
        omega
      | false =>
        simp only [Bool.false_eq_true, ↓reduceIte, ← Bool.decide_and, decide_eq_decide]
        omega

section Later

variable (rules : ScanRules) {updateTime later : Int} {prior : Option Int} {now : Int}

theorem isNew_of_above (above : ∀ mark ∈ prior, mark < updateTime) :
    rules.isNew updateTime prior = true := by
  cases prior with
  | none => rfl
  | some mark =>
    have below : mark < updateTime := above mark rfl
    simp only [isNew]
    split
    · exact decide_eq_true below
    · exact decide_eq_true (Int.le_of_lt below)

theorem isNew_of_later (before : updateTime < later) (new : rules.isNew updateTime prior = true) :
    rules.isNew later prior = true := by
  apply rules.isNew_of_above
  intro mark known
  subst known
  exact Int.lt_of_le_of_lt (le_of_isNew new) before

/-- **Admission is closed upwards.** What is later than an admitted update is admitted too. -/
theorem admits_of_later (before : updateTime < later)
    (admitted : rules.admits updateTime prior now = true) :
    rules.admits later prior now = true := by
  rw [admits_eq_true_iff] at admitted ⊢
  exact ⟨LookbackPolicy.admits_of_younger (by omega) admitted.1,
    rules.isNew_of_later before admitted.2⟩

end Later

end ScanRules
end CatalogDelta
