import CatalogDelta.Catalog.History
import CatalogDelta.Proofs.OrderedMap

/-!
# Tables and partitions in step

A catalog keeps its tables by database and name, and its partitions by dataset. The two stay in step
under every call: a dataset has a list of partitions exactly if its table is listed, and that list
is what the current life of the table was offered.
-/

namespace CatalogDelta.Catalog

open OrderedMap

variable {catalog : Catalog}

/-! ## What a call does to the tables -/

theorem tablesOf_addDatabase (catalog : Catalog) (added database : String) :
    (catalog.addDatabase added).tablesOf database = catalog.tablesOf database := by
  unfold addDatabase
  split
  · rfl
  · rename_i absent
    unfold tablesOf
    rw [get?_put]
    split
    · rename_i same
      subst same
      rw [hasKey, Bool.not_eq_true, Option.isSome_eq_false_iff, Option.isNone_iff_eq_none] at absent
      rw [absent]
      rfl
    · rfl

theorem tablesOf_addTable (catalog : Catalog) (table : Table) (database : String) :
    (catalog.addTable table).tablesOf database =
      if table.dataset.database = database then
        put table.dataset.table table (catalog.tablesOf database)
      else catalog.tablesOf database := by
  simp only [addTable, tablesOf, get?_put]
  split
  · rename_i same
    rw [same]
    rfl
  · rfl

theorem tablesOf_dropDatabase (catalog : Catalog) (dropped database : String) :
    (catalog.dropDatabase dropped).tablesOf database =
      if dropped = database then [] else catalog.tablesOf database := by
  simp only [dropDatabase, tablesOf, get?_erase]
  split
  · rfl
  · rfl

/-- Adding a partition leaves the databases and their tables alone. -/
theorem databases_addPartition {partition : Partition} {changed : Catalog}
    (added : catalog.addPartition partition = .ok changed) :
    changed.databases = catalog.databases := by
  unfold addPartition at added
  split at added
  · exact nomatch added
  · cases added
    rfl

/-! ## What a call does to the partitions -/

theorem partitions_addDatabase (catalog : Catalog) (database : String) :
    (catalog.addDatabase database).partitions = catalog.partitions := by
  unfold addDatabase
  split
  · rfl
  · rfl

/-- A table that is added keeps the partitions that it has, or else starts with none. -/
theorem get?_partitions_addTable (catalog : Catalog) (table : Table) (dataset : Dataset) :
    get? dataset (catalog.addTable table).partitions =
      if table.dataset = dataset then some ((get? dataset catalog.partitions).getD [])
      else get? dataset catalog.partitions := by
  simp only [addTable]
  split
  · rename_i there
    split
    · rename_i same
      subst same
      obtain ⟨partitions, found⟩ := Option.isSome_iff_exists.mp there
      rw [found, Option.getD_some]
    · rfl
  · rename_i absent
    rw [get?_put]
    split
    · rename_i same
      subst same
      rw [hasKey, Bool.not_eq_true, Option.isSome_eq_false_iff, Option.isNone_iff_eq_none] at absent
      rw [absent, Option.getD_none]
    · rfl

theorem get?_partitions_addPartition {partition : Partition} {changed : Catalog}
    (added : catalog.addPartition partition = .ok changed) (dataset : Dataset) :
    get? dataset changed.partitions =
      if partition.table = dataset then
        (get? dataset catalog.partitions).map (· ++ [partition])
      else get? dataset catalog.partitions := by
  unfold addPartition at added
  split at added
  · contradiction
  · rename_i earlier found
    cases added
    simp only [get?_put]
    split
    · rename_i same
      rw [← same, found]
      rfl
    · rfl

theorem addPartition_eq_error {partition : Partition} {fault : Fault}
    (failed : catalog.addPartition partition = .error fault) :
    get? partition.table catalog.partitions = none ∧ fault = unknownTable partition.table := by
  unfold addPartition at failed
  split at failed
  · rename_i absent
    cases failed
    exact ⟨absent, rfl⟩
  · contradiction

theorem get?_foldl_erase (database : String) (names : List String)
    (partitions : OrderedMap Dataset (List Partition)) (dataset : Dataset) :
    get? dataset (names.foldl (fun partitions name => erase ⟨database, name⟩ partitions) partitions)
      = if dataset.database = database ∧ dataset.table ∈ names then none
        else get? dataset partitions := by
  induction names generalizing partitions with
  | nil => simp only [List.foldl_nil, List.not_mem_nil, and_false, ↓reduceIte]
  | cons name others ih =>
    rw [List.foldl_cons, ih, get?_erase]
    obtain ⟨place, table⟩ := dataset
    by_cases here : place = database
    · subst here
      by_cases first : table = name
      · subst first
        simp only [true_and, ↓reduceIte, ite_self, List.mem_cons, true_or]
      · have other : ¬ (Dataset.mk place name = ⟨place, table⟩) :=
          fun same => first (Dataset.mk.inj same).2.symm
        simp only [true_and, other, ↓reduceIte, List.mem_cons, first, false_or]
    · have other : ¬ (Dataset.mk database name = ⟨place, table⟩) :=
        fun same => here (Dataset.mk.inj same).1.symm
      simp only [here, false_and, ↓reduceIte, other]

/-! ## The two maps in step -/

/-- Databases and tables have distinct names, every table stands under its own, and exactly the
tables have a list of partitions. -/
structure InStep (catalog : Catalog) : Prop where
  databases : (keys catalog.databases).Nodup
  tables : ∀ database, (keys (catalog.tablesOf database)).Nodup
  named : ∀ database, ∀ entry ∈ catalog.tablesOf database, entry.2.dataset = ⟨database, entry.1⟩
  partitioned : ∀ dataset, hasKey dataset catalog.partitions =
    hasKey dataset.table (catalog.tablesOf dataset.database)

namespace InStep

theorem empty : InStep {} where
  databases := List.nodup_nil
  tables _ := List.nodup_nil
  named _ _ member := absurd member List.not_mem_nil
  partitioned _ := rfl

theorem addDatabase (kept : InStep catalog) (database : String) :
    InStep (catalog.addDatabase database) where
  databases := by
    unfold Catalog.addDatabase
    split
    · exact kept.databases
    · exact nodup_keys_put kept.databases database []
  tables place := by
    rw [tablesOf_addDatabase]
    exact kept.tables place
  named place := by
    rw [tablesOf_addDatabase]
    exact kept.named place
  partitioned dataset := by
    rw [partitions_addDatabase, tablesOf_addDatabase]
    exact kept.partitioned dataset

theorem addTable (kept : InStep catalog) (table : Table) : InStep (catalog.addTable table) where
  databases := nodup_keys_put kept.databases _ _
  tables database := by
    rw [tablesOf_addTable]
    split
    · exact nodup_keys_put (kept.tables database) _ _
    · exact kept.tables database
  named database entry member := by
    rw [tablesOf_addTable] at member
    split at member
    · rename_i here
      rcases mem_put member with rfl | before
      · rw [← here]
      · exact kept.named database entry before
    · exact kept.named database entry member
  partitioned dataset := by
    have before := kept.partitioned dataset
    unfold hasKey at before ⊢
    rw [get?_partitions_addTable, tablesOf_addTable]
    by_cases same : table.dataset = dataset
    · simp only [same, ↓reduceIte, get?_put, Option.isSome_some]
    · rw [if_neg same, before]
      split
      · rename_i here
        have other : ¬ table.dataset.table = dataset.table :=
          fun named => same (congrArg₂ Dataset.mk here named)
        rw [get?_put, if_neg other]
      · rfl

theorem addPartition (kept : InStep catalog) {partition : Partition} {changed : Catalog}
    (added : catalog.addPartition partition = .ok changed) : InStep changed := by
  have same (database : String) : changed.tablesOf database = catalog.tablesOf database := by
    rw [tablesOf, tablesOf, databases_addPartition added]
  refine ⟨?_, fun database => ?_, fun database => ?_, fun dataset => ?_⟩
  · rw [databases_addPartition added]
    exact kept.databases
  · rw [same]
    exact kept.tables database
  · rw [same]
    exact kept.named database
  · rw [same, ← kept.partitioned, hasKey, hasKey, get?_partitions_addPartition added]
    split
    · rw [Option.isSome_map]
    · rfl

/-- With a database go the partitions of its tables, and only these. -/
theorem get?_partitions_dropDatabase (kept : InStep catalog) (database : String)
    (dataset : Dataset) :
    get? dataset (catalog.dropDatabase database).partitions =
      if database = dataset.database then none else get? dataset catalog.partitions := by
  simp only [dropDatabase, get?_foldl_erase]
  by_cases here : database = dataset.database
  · subst here
    rw [if_pos rfl]
    split
    · rfl
    · rename_i absent
      rw [get?_eq_none_iff, ← hasKey_iff_mem_keys, kept.partitioned, hasKey_iff_mem_keys]
      exact fun listed => absent ⟨rfl, listed⟩
  · rw [if_neg here, if_neg fun both => here both.1.symm]

theorem dropDatabase (kept : InStep catalog) (database : String) :
    InStep (catalog.dropDatabase database) where
  databases := kept.databases.sublist (List.filter_sublist.map _)
  tables place := by
    rw [tablesOf_dropDatabase]
    split
    · exact List.nodup_nil
    · exact kept.tables place
  named place := by
    rw [tablesOf_dropDatabase]
    split
    · exact fun _ member => absurd member List.not_mem_nil
    · exact kept.named place
  partitioned dataset := by
    have before := kept.partitioned dataset
    unfold hasKey at before ⊢
    rw [kept.get?_partitions_dropDatabase, tablesOf_dropDatabase]
    split
    · rfl
    · exact before

/-- Every call keeps the tables and the partitions in step. -/
theorem apply (kept : InStep catalog) (change : CatalogChange) :
    InStep (catalog.apply change) := by
  unfold Catalog.apply
  cases change with
  | addDatabase database => exact kept.addDatabase database
  | addTable table => exact kept.addTable table
  | addPartition partition =>
    simp only [call]
    split
    · rename_i added
      exact kept.addPartition added
    · exact kept
  | dropDatabase database => exact kept.dropDatabase database

end InStep

theorem after_concat (changes : List CatalogChange) (change : CatalogChange) :
    after (changes ++ [change]) = (after changes).apply change := by
  rw [after, List.foldl_append]
  rfl

/-- The tables and the partitions are in step after any calls. -/
theorem inStep_after (changes : List CatalogChange) : InStep (after changes) := by
  induction changes using List.reverseRecOn with
  | nil => exact .empty
  | append_singleton earlier last ih =>
    rw [after_concat]
    exact ih.apply last

end CatalogDelta.Catalog
