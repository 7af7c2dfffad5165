import CatalogDelta.Lookback.Policy
import Mathlib.Tactic.Common

/-!
# The edges of a lookback window

A window is compared in whole milliseconds, rounded down. An age is a whole number of milliseconds,
so nothing is lost where the edge belongs to the window. Where it does not, the last whole
millisecond within the window is shut out with it, also if the window reaches further.
-/

namespace CatalogDelta

namespace Span

variable (span : Span) (age : Int)

theorem le_millis_iff : age ≤ span.millis ↔ age * 1000 ≤ span.micros := by
  unfold millis
  rw [Int.fdiv_eq_ediv_of_nonneg _ (by decide)]
  omega

theorem lt_millis_iff : age < span.millis ↔ age * 1000 < span.micros ∧ age ≠ span.millis := by
  have within := span.le_millis_iff age
  have edge := span.le_millis_iff span.millis
  omega

theorem millis_mul_of_dvd {span : Span} (whole : 1000 ∣ span.micros) :
    span.millis * 1000 = span.micros := by
  unfold millis
  rw [Int.fdiv_eq_ediv_of_nonneg _ (by decide)]
  exact Int.ediv_mul_cancel whole

theorem millis_nonneg {span : Span} (nonneg : 0 ≤ span.micros) : 0 ≤ span.millis :=
  (span.le_millis_iff 0).mpr (by omega)

end Span

namespace LookbackPolicy

/-- How long before now an update was. -/
def age (updateTime now : Int) : Span := ⟨(now - updateTime) * 1000⟩

variable (span : Span) (updateTime now : Int)

theorem admits_inclusive_iff :
    (⟨some span, true⟩ : LookbackPolicy).admits updateTime now = true ↔
      (age updateTime now).micros ≤ span.micros := by
  simp only [admits, ↓reduceIte, decide_eq_true_eq]
  exact span.le_millis_iff _

theorem admits_exclusive_iff :
    (⟨some span, false⟩ : LookbackPolicy).admits updateTime now = true ↔
      (age updateTime now).micros < span.micros ∧ now - updateTime ≠ span.millis := by
  simp only [admits, Bool.false_eq_true, ↓reduceIte, decide_eq_true_eq]
  exact span.lt_millis_iff _

theorem admits_exclusive_iff_of_dvd {span : Span} (whole : 1000 ∣ span.micros) :
    (⟨some span, false⟩ : LookbackPolicy).admits updateTime now = true ↔
      (age updateTime now).micros < span.micros := by
  rw [admits_exclusive_iff]
  have edge := Span.millis_mul_of_dvd whole
  unfold age
  dsimp only
  omega

/-- The edge decides only about what is as many whole milliseconds old as the window is long. -/
theorem admits_ne_iff :
    (⟨some span, true⟩ : LookbackPolicy).admits updateTime now ≠
        (⟨some span, false⟩ : LookbackPolicy).admits updateTime now ↔
      now - updateTime = span.millis := by
  rw [Ne, Bool.eq_iff_iff]
  simp only [admits, Bool.false_eq_true, ↓reduceIte, decide_eq_true_eq]
  omega

theorem admits_future {span : Span} {updateTime now : Int} (nonneg : 0 ≤ span.micros)
    (future : now < updateTime) (inclusive : Bool) :
    (⟨some span, inclusive⟩ : LookbackPolicy).admits updateTime now = true := by
  have reach := Span.millis_nonneg nonneg
  cases inclusive with
  | true =>
    simp only [admits, ↓reduceIte, decide_eq_true_eq]
    omega
  | false =>
    simp only [admits, Bool.false_eq_true, ↓reduceIte, decide_eq_true_eq]
    omega

/-- **What a window admits.** A window to which its edge belongs admits exactly what is no older
than it is long, to the microsecond. A window without its edge admits what is younger, but for the
age of its whole milliseconds; so if it is no whole number of milliseconds long, it shuts out
something younger. The two differ for this one age and both admit what is updated in the future. -/
theorem admits_edges (span : Span) (nonneg : 0 ≤ span.micros) (updateTime now : Int) :
    ((⟨some span, true⟩ : LookbackPolicy).admits updateTime now = true ↔
      (age updateTime now).micros ≤ span.micros) ∧
    ((⟨some span, false⟩ : LookbackPolicy).admits updateTime now = true ↔
      (age updateTime now).micros < span.micros ∧ now - updateTime ≠ span.millis) ∧
    (1000 ∣ span.micros →
      ((⟨some span, false⟩ : LookbackPolicy).admits updateTime now = true ↔
        (age updateTime now).micros < span.micros)) ∧
    ((⟨some span, true⟩ : LookbackPolicy).admits updateTime now ≠
        (⟨some span, false⟩ : LookbackPolicy).admits updateTime now ↔
      now - updateTime = span.millis) ∧
    (now < updateTime → ∀ inclusive : Bool,
      (⟨some span, inclusive⟩ : LookbackPolicy).admits updateTime now = true) :=
  ⟨admits_inclusive_iff span updateTime now, admits_exclusive_iff span updateTime now,
    admits_exclusive_iff_of_dvd updateTime now, admits_ne_iff span updateTime now,
    admits_future nonneg⟩

/-- The edges of an hour. -/
theorem admits_edges_hour :
    (⟨some ⟨3600000000⟩, true⟩ : LookbackPolicy).admits 0 3600000 = true ∧
      (⟨some ⟨3600000000⟩, false⟩ : LookbackPolicy).admits 0 3600000 = false ∧
      (⟨some ⟨3600000000⟩, false⟩ : LookbackPolicy).admits 3600001 3600000 = true := by
  have hour : (0 : Int) ≤ (⟨3600000000⟩ : Span).micros := by decide
  obtain ⟨inclusive, -, -, -, -⟩ := admits_edges ⟨3600000000⟩ hour 0 3600000
  obtain ⟨-, -, exclusive, -, -⟩ := admits_edges ⟨3600000000⟩ hour 0 3600000
  obtain ⟨-, -, -, -, future⟩ := admits_edges ⟨3600000000⟩ hour 3600001 3600000
  refine ⟨inclusive.mpr (by decide), ?_, future (by decide) false⟩
  rw [← Bool.not_eq_true, exclusive (by decide)]
  decide

/-- A window of one millisecond and a half without its edge shuts out what is one millisecond old,
though that is younger. -/
theorem exclusive_shuts_out_younger :
    ∃ span : Span, Duration.parse (.text "1.5ms") = .ok (some span) ∧
      (age 0 1).micros < span.micros ∧
      (⟨some span, false⟩ : LookbackPolicy).admits 0 1 = false := by
  have parsed : (Duration.parse (.text "1.5ms")).toOption = some (some ⟨1500⟩) := by
    decide +kernel
  refine ⟨⟨1500⟩, ?_, by decide, by decide⟩
  cases read : Duration.parse (.text "1.5ms") with
  | error fault =>
    rw [read] at parsed
    cases parsed
  | ok span =>
    rw [read] at parsed
    rw [Option.some.inj parsed]

end LookbackPolicy
end CatalogDelta
