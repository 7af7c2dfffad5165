import CatalogDelta.Dataset
import CatalogDelta.Proofs.Text.Pieces

/-!
# Urns are read back

The urn of a dataset is read back as the dataset if its names are proper, and is rejected otherwise.
-/

namespace CatalogDelta.Dataset

/-- Both names are there, and neither holds the separator of a urn. -/
def IsProper (dataset : Dataset) : Prop :=
  dataset.database ≠ "" ∧ dataset.table ≠ "" ∧
    '@' ∉ dataset.database.toList ∧ '@' ∉ dataset.table.toList

instance (dataset : Dataset) : Decidable dataset.IsProper :=
  inferInstanceAs (Decidable (_ ∧ _ ∧ _ ∧ _))

theorem toList_urn (dataset : Dataset) :
    dataset.urn.toList = dataset.database.toList ++ '@' :: dataset.table.toList := by
  simp only [urn, String.toList_append, List.append_assoc]
  rfl

theorem areHalves_iff {dataset : Dataset} :
    Text.AreHalves '@' dataset.database.toList dataset.table.toList ↔ dataset.IsProper := by
  unfold Text.AreHalves IsProper
  rw [ne_eq, ne_eq, String.toList_eq_nil_iff, String.toList_eq_nil_iff]

/-- **A dataset is read back from its urn exactly if it is proper.** Otherwise nothing is read, not
even another dataset with the same urn. -/
theorem ofUrn?_urn_eq_some_iff {dataset other : Dataset} :
    ofUrn? dataset.urn = some other ↔ dataset.IsProper ∧ other = dataset := by
  unfold ofUrn?
  rw [toList_urn, Option.map_eq_some_iff]
  constructor
  · rintro ⟨parts, divided, rfl⟩
    obtain ⟨halves, rfl⟩ := Text.halves?_append_cons_eq_some_iff.mp divided
    exact ⟨areHalves_iff.mp halves, by simp only [String.ofList_toList]⟩
  · rintro ⟨proper, rfl⟩
    refine ⟨_, Text.halves?_append_cons_eq_some_iff.mpr ⟨areHalves_iff.mpr proper, rfl⟩, ?_⟩
    simp only [String.ofList_toList]

theorem ofUrn_urn_eq_ok_iff {dataset other : Dataset} :
    ofUrn dataset.urn = .ok other ↔ dataset.IsProper ∧ other = dataset := by
  rw [← ofUrn?_urn_eq_some_iff]
  unfold ofUrn
  cases ofUrn? dataset.urn with
  | none => simp only [reduceCtorEq]
  | some found => simp only [Except.ok.injEq, Option.some.injEq]

end CatalogDelta.Dataset
