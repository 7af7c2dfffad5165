import CatalogDelta.Proofs.Dataset
import CatalogDelta.Proofs.Watermark.Basic
import CatalogDelta.Watermark.Ledger
import Mathlib.Data.List.Lex
import Mathlib.Order.Fin.Basic

/-!
# Labels and ledgers

The labels of datasets are distinct, are proper if the datasets are, and stand in the same order; a
label is read back from its urn if it is proper. The watermarks that a scan has reached are merged
into a ledger as they are merged into watermarks, and other labels keep what they have. Main
statements: `ofUrn?_urn_eq_some_iff`, `sorted_ofMarks`, `get?_merge`.
-/

namespace CatalogDelta

namespace Label

variable {label other : Label} {dataset : Dataset}

/-- Both names are there, and neither holds the separator of a urn. -/
def IsProper (label : Label) : Prop := Text.AreHalves separator label.database label.table

theorem dataset?_eq_some_iff : label.dataset? = some dataset ↔ label = ofDataset dataset := by
  refine ⟨fun read => ?_, fun same => same ▸ dataset?_ofDataset dataset⟩
  obtain ⟨database, first, read⟩ := Option.bind_eq_some_iff.mp read
  obtain ⟨table, second, read⟩ := Option.bind_eq_some_iff.mp read
  obtain rfl := Option.some.inj read
  obtain ⟨names, others⟩ := label
  obtain rfl := Points.text?_eq_some_iff.mp first
  obtain rfl := Points.text?_eq_some_iff.mp second
  rfl

/-! ## Urns -/

theorem mem_ofText_iff {c : Char} {text : String} :
    CodePoint.ofChar c ∈ Points.ofText text ↔ c ∈ text.toList := by
  unfold Points.ofText
  refine ⟨fun member => ?_, List.mem_map_of_mem⟩
  obtain ⟨found, there, same⟩ := List.mem_map.mp member
  rwa [← CodePoint.ofChar_injective same]

/-- The label of a dataset is proper exactly if the dataset is. -/
theorem isProper_ofDataset : (ofDataset dataset).IsProper ↔ dataset.IsProper := by
  rw [← Dataset.areHalves_iff]
  unfold IsProper Text.AreHalves separator ofDataset
  rw [mem_ofText_iff, mem_ofText_iff, Points.ofText, Points.ofText, ne_eq, ne_eq,
    List.map_eq_nil_iff, List.map_eq_nil_iff]

theorem urn_ofDataset (dataset : Dataset) : (ofDataset dataset).urn = .ofText dataset.urn := by
  unfold urn ofDataset Points.ofText separator
  rw [Dataset.toList_urn, List.map_append, List.map_cons]

/-- Whatever is read from a urn is proper, and the urn is that of what is read. -/
theorem of_ofUrn? {urn : Points} (read : ofUrn? urn = some label) :
    label.IsProper ∧ urn = label.urn := by
  obtain ⟨⟨database, table⟩, divided, rfl⟩ := Option.map_eq_some_iff.mp read
  exact Text.halves?_eq_some_iff.mp divided

/-- **A label is read back from its urn exactly if it is proper.** -/
theorem ofUrn?_urn_eq_some_iff : ofUrn? label.urn = some other ↔ label.IsProper ∧ other = label := by
  unfold ofUrn? urn
  rw [Option.map_eq_some_iff]
  constructor
  · rintro ⟨parts, divided, rfl⟩
    obtain ⟨halves, rfl⟩ := Text.halves?_append_cons_eq_some_iff.mp divided
    exact ⟨halves, rfl⟩
  · rintro ⟨proper, rfl⟩
    exact ⟨_, Text.halves?_append_cons_eq_some_iff.mpr ⟨proper, rfl⟩, rfl⟩

/-! ## Order -/

/-- The place of a label in the order by database, then by table. -/
def place (label : Label) : Points ×ₗ Points := toLex (label.database, label.table)

end Label

namespace Ledger

open OrderedMap

variable {ledger : Ledger} {marks reached : Watermarks} {dataset : Dataset}

theorem keys_ofMarks (marks : Watermarks) : keys (ofMarks marks) = (keys marks).map .ofDataset := by
  unfold keys ofMarks
  rw [List.map_map, List.map_map]
  rfl

theorem nodup_keys_ofMarks : (keys (ofMarks marks)).Nodup ↔ (keys marks).Nodup := by
  rw [keys_ofMarks]
  exact List.nodup_map_iff fun _ _ => Label.ofDataset_injective

@[simp] theorem get?_ofMarks (dataset : Dataset) (marks : Watermarks) :
    get? (.ofDataset dataset) (ofMarks marks) = get? dataset marks := by
  induction marks with
  | nil => rfl
  | cons entry others ih =>
    obtain ⟨first, millis⟩ := entry
    have same : Label.ofDataset first = Label.ofDataset dataset ↔ first = dataset :=
      ⟨Label.ofDataset_injective, congrArg _⟩
    change (if Label.ofDataset first = Label.ofDataset dataset then some millis
      else get? (.ofDataset dataset) (ofMarks others)) = _
    simp only [same, ih, get?]

/-- Watermarks have no labels but those of datasets. -/
theorem get?_ofMarks_of_stray {label : Label} (stray : label.dataset? = none)
    (marks : Watermarks) : get? label (ofMarks marks) = none := by
  rw [get?_eq_none_iff, keys_ofMarks]
  intro member
  obtain ⟨dataset, _, rfl⟩ := List.mem_map.mp member
  rw [Label.dataset?_ofDataset] at stray
  contradiction

theorem get?_marks (dataset : Dataset) (ledger : Ledger) :
    get? dataset ledger.marks = get? (.ofDataset dataset) ledger := by
  induction ledger with
  | nil => rfl
  | cons entry others ih =>
    obtain ⟨label, millis⟩ := entry
    unfold Ledger.marks at ih ⊢
    rw [List.filterMap_cons]
    cases read : label.dataset? with
    | none =>
      have other : label ≠ .ofDataset dataset := by
        rintro rfl
        rw [Label.dataset?_ofDataset] at read
        contradiction
      simp only [read, Option.map_none, get?, other, ↓reduceIte, ih]
    | some found =>
      obtain rfl := Label.dataset?_eq_some_iff.mp read
      have same : Label.ofDataset found = Label.ofDataset dataset ↔ found = dataset :=
        ⟨Label.ofDataset_injective, congrArg _⟩
      simp only [read, Option.map_some, get?, same, ih]

theorem nodup_keys_marks (distinct : (keys ledger).Nodup) : (keys ledger.marks).Nodup := by
  have unique : (ledger.map Prod.fst).Pairwise (· ≠ ·) := distinct
  refine List.pairwise_map.mpr (List.Pairwise.filterMap _ ?_ (List.pairwise_map.mp unique))
  rintro ⟨first, _⟩ ⟨second, _⟩ apart entry taken other alsoTaken same
  obtain ⟨dataset, read, rfl⟩ := Option.map_eq_some_iff.mp taken
  obtain ⟨another, reread, rfl⟩ := Option.map_eq_some_iff.mp alsoTaken
  obtain rfl : dataset = another := same
  exact apart ((Label.dataset?_eq_some_iff.mp read).trans (Label.dataset?_eq_some_iff.mp reread).symm)

theorem sorted_perm (ledger : Ledger) : ledger.sorted.Perm ledger := sortedBy_perm _ _

/-- **What has been reached is merged into a ledger**: every label keeps the larger of what it has
and what has been reached. -/
theorem get?_merge (distinct : (keys ledger).Nodup)
    (distinctReached : (keys reached).Nodup) (label : Label) :
    get? label (ledger.merge reached) =
      Watermarks.larger (get? label ledger) (get? label (ofMarks reached)) := by
  have merged := Watermarks.nodup_keys_merge (nodup_keys_marks distinct) reached
  unfold merge putMarks
  rw [get?_putAll (nodup_keys_ofMarks.mpr merged)]
  cases read : label.dataset? with
  | none =>
    rw [get?_ofMarks_of_stray read, get?_ofMarks_of_stray read, Option.none_or]
    cases get? label ledger <;> rfl
  | some dataset =>
    obtain rfl := Label.dataset?_eq_some_iff.mp read
    rw [get?_ofMarks, get?_ofMarks, Watermarks.get?_merge distinctReached, get?_marks]
    cases get? (Label.ofDataset dataset) ledger <;> cases get? dataset reached <;> rfl

theorem nodup_keys_merge (distinct : (keys ledger).Nodup) (reached : Watermarks) :
    (keys (ledger.merge reached)).Nodup :=
  (putAll_keeps ledger (ofMarks (ledger.marks.merge reached)) distinct).1

end Ledger
end CatalogDelta
