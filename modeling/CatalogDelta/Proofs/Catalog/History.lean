import CatalogDelta.Proofs.Catalog.InStep

/-!
# What a history leaves in a catalog

The partitions of a table are those offered to it in its current life, in that order. So the
listings agree with each other after any calls, whichever of them failed.
-/

namespace CatalogDelta

theorem CatalogChange.offered?_of_adds {dataset : Dataset} {change : CatalogChange}
    (adds : change.adds dataset) : change.offered? dataset = none := by
  cases change with
  | addTable table => rfl
  | addDatabase database => exact nomatch adds
  | addPartition partition => exact nomatch adds
  | dropDatabase database => exact nomatch adds

theorem CatalogChange.table_of_offered? {dataset : Dataset} {change : CatalogChange}
    {partition : Partition} (offered : change.offered? dataset = some partition) :
    partition.table = dataset := by
  unfold offered? at offered
  split at offered
  · obtain ⟨own, same⟩ := Option.ite_none_right_eq_some.mp offered
    cases same
    exact own
  · exact nomatch offered

namespace Catalog

open OrderedMap CatalogChange

variable {catalog : Catalog}

/-! ## Lives of a table -/

theorem lifeOf_concat (dataset : Dataset) (changes : List CatalogChange) (change : CatalogChange) :
    lifeOf dataset (changes ++ [change]) =
      if change.drops dataset.database then []
      else if (lifeOf dataset changes).isEmpty then
        if change.adds dataset then [change] else []
      else lifeOf dataset changes ++ [change] := by
  unfold lifeOf
  rw [List.rtakeWhile_concat]
  by_cases drops : change.drops dataset.database
  · simp only [drops, Bool.not_true, Bool.false_eq_true, ↓reduceIte, List.dropWhile_nil]
  · simp only [drops, Bool.not_false, ↓reduceIte, Bool.false_eq_true, List.dropWhile_append]
    split
    · by_cases adds : change.adds dataset
      · simp only [adds, Bool.not_true, List.dropWhile_cons, Bool.false_eq_true, ↓reduceIte]
      · simp only [adds, Bool.not_false, List.dropWhile_cons, ↓reduceIte, Bool.false_eq_true,
          List.dropWhile_nil]
    · rfl

/-- A dropped table has no life until it is added again. -/
theorem lifeOf_of_dropped (dataset : Dataset) (changes between : List CatalogChange)
    (absent : ∀ change ∈ between, ¬ change.adds dataset) :
    lifeOf dataset (changes ++ .dropDatabase dataset.database :: between) = [] := by
  induction between using List.reverseRecOn with
  | nil =>
    rw [lifeOf_concat]
    exact if_pos (decide_eq_true rfl)
  | append_singleton earlier last ih =>
    have before := ih fun change member => absent change (List.mem_append_left _ member)
    have other := absent last (List.mem_append_right _ (List.mem_singleton_self last))
    rw [← List.cons_append, ← List.append_assoc, lifeOf_concat, before]
    by_cases drops : last.drops dataset.database
    · exact if_pos drops
    · rw [if_neg drops, if_pos List.isEmpty_nil, if_neg other]

/-! ## Partitions after a history -/

/-- What a call does to the partitions of a table. -/
theorem InStep.get?_partitions_apply (kept : InStep catalog) (change : CatalogChange)
    (dataset : Dataset) :
    get? dataset (catalog.apply change).partitions =
      if change.drops dataset.database then none
      else if change.adds dataset then some ((get? dataset catalog.partitions).getD [])
      else (get? dataset catalog.partitions).map (· ++ (change.offered? dataset).toList) := by
  unfold Catalog.apply
  cases change with
  | addDatabase database =>
    simp only [call, partitions_addDatabase, drops, adds, offered?, Bool.false_eq_true,
      ↓reduceIte, Option.toList_none, List.append_nil, Option.map_id_fun', id]
  | addTable table =>
    simp only [call, get?_partitions_addTable, drops, adds, offered?, Bool.false_eq_true,
      ↓reduceIte, decide_eq_true_eq, Option.toList_none, List.append_nil, Option.map_id_fun', id]
  | addPartition partition =>
    simp only [call, drops, adds, offered?, Bool.false_eq_true, ↓reduceIte]
    split
    · rename_i added
      rw [get?_partitions_addPartition added]
      split
      · rfl
      · simp only [Option.toList_none, List.append_nil, Option.map_id_fun', id]
    · rename_i failed
      obtain ⟨absent, -⟩ := addPartition_eq_error failed
      split
      · rename_i same
        rw [← same, absent, Option.map_none]
      · simp only [Option.toList_none, List.append_nil, Option.map_id_fun', id]
  | dropDatabase database =>
    simp only [call, kept.get?_partitions_dropDatabase, drops, adds, offered?, decide_eq_true_eq,
      Bool.false_eq_true, ↓reduceIte, Option.toList_none, List.append_nil, Option.map_id_fun', id]

/-- A table that is not alive has no list of partitions, and one that is has what it was offered. -/
theorem get?_partitions_after (changes : List CatalogChange) (dataset : Dataset) :
    get? dataset (after changes).partitions =
      if (lifeOf dataset changes).isEmpty then none
      else some ((lifeOf dataset changes).filterMap (·.offered? dataset)) := by
  induction changes using List.reverseRecOn with
  | nil => rfl
  | append_singleton earlier last ih =>
    rw [after_concat, (inStep_after earlier).get?_partitions_apply, lifeOf_concat, ih]
    by_cases drops : last.drops dataset.database
    · rw [if_pos drops, if_pos drops, if_pos List.isEmpty_nil]
    · rw [if_neg drops, if_neg drops]
      by_cases dead : (lifeOf dataset earlier).isEmpty
      · by_cases adds : last.adds dataset
        · simp [dead, adds, offered?_of_adds adds]
        · simp [dead, adds]
      · have grown : (lifeOf dataset earlier ++ [last]).isEmpty = false := by simp
        rw [if_neg dead, if_neg dead, grown, if_neg Bool.false_ne_true, List.filterMap_append]
        by_cases adds : last.adds dataset
        · simp [adds, offered?_of_adds adds]
        · cases offered : last.offered? dataset with
          | none => simp [adds, offered]
          | some partition => simp [adds, offered]

theorem listPartitions_after (changes : List CatalogChange) (dataset : Dataset) :
    (after changes).listPartitions dataset =
      if (lifeOf dataset changes).isEmpty then .error (unknownTable dataset)
      else .ok ((lifeOf dataset changes).filterMap (·.offered? dataset)) := by
  unfold listPartitions
  rw [get?_partitions_after]
  split
  · rename_i absent
    split at absent
    · rw [if_pos ‹_›]
    · exact nomatch absent
  · rename_i found
    split at found
    · exact nomatch found
    · rw [if_neg ‹_›, Option.some.inj found]

/-! ## Listings -/

theorem listTables_eq_ok_iff {database : String} {tables : List Table} :
    catalog.listTables database = .ok tables ↔
      ∃ held, get? database catalog.databases = some held ∧ values held = tables := by
  unfold listTables
  cases get? database catalog.databases with
  | none => simp only [reduceCtorEq, false_and, exists_false]
  | some held => simp only [Except.ok.injEq, Option.some.injEq, exists_eq_left']

theorem listPartitions_eq_ok_iff {dataset : Dataset} {partitions : List Partition} :
    catalog.listPartitions dataset = .ok partitions ↔
      get? dataset catalog.partitions = some partitions := by
  unfold listPartitions
  cases get? dataset catalog.partitions with
  | none => simp only [reduceCtorEq]
  | some held => simp only [Except.ok.injEq, Option.some.injEq]

theorem tablesOf_of_get? {database : String} {held : OrderedMap String Table}
    (found : get? database catalog.databases = some held) : catalog.tablesOf database = held := by
  rw [tablesOf, found, Option.getD_some]

namespace InStep

/-- The datasets of listed tables are the names under which they are kept. -/
theorem datasets_eq (kept : InStep catalog) (database : String) :
    (values (catalog.tablesOf database)).map (·.dataset) =
      (keys (catalog.tablesOf database)).map (Dataset.mk database) := by
  rw [values, keys, List.map_map, List.map_map]
  exact List.map_congr_left (kept.named database)

theorem lists_iff (kept : InStep catalog) (dataset : Dataset) :
    catalog.Lists dataset ↔ dataset.table ∈ keys (catalog.tablesOf dataset.database) := by
  have among : ∀ names : List String,
      dataset ∈ names.map (Dataset.mk dataset.database) ↔ dataset.table ∈ names := fun names => by
    rw [List.mem_map]
    constructor
    · rintro ⟨name, member, same⟩
      rw [← same]
      exact member
    · intro member
      exact ⟨dataset.table, member, rfl⟩
  constructor
  · rintro ⟨tables, listed, member⟩
    obtain ⟨held, found, rfl⟩ := listTables_eq_ok_iff.mp listed
    rw [← tablesOf_of_get? found, kept.datasets_eq] at member
    exact (among _).mp member
  · intro member
    cases found : get? dataset.database catalog.databases with
    | none =>
      rw [tablesOf, found] at member
      exact absurd member List.not_mem_nil
    | some held =>
      refine ⟨values held, listTables_eq_ok_iff.mpr ⟨held, found, rfl⟩, ?_⟩
      rw [← tablesOf_of_get? found, kept.datasets_eq]
      exact (among _).mpr member

theorem partitioned_iff (kept : InStep catalog) (dataset : Dataset) :
    (∃ partitions, catalog.listPartitions dataset = .ok partitions) ↔ catalog.Lists dataset := by
  rw [kept.lists_iff, ← hasKey_iff_mem_keys, ← kept.partitioned, hasKey,
    Option.isSome_iff_exists]
  simp only [listPartitions_eq_ok_iff]

/-- A table that is added anew takes the place of the earlier one, and nothing else changes. -/
theorem addTable_of_lists (kept : InStep catalog) {table : Table} {tables : List Table}
    (listed : catalog.listTables table.dataset.database = .ok tables)
    (there : table.dataset ∈ tables.map (·.dataset)) :
    (catalog.addTable table).listDatabases = catalog.listDatabases ∧
      (∀ database, (catalog.addTable table).listTables database =
        if table.dataset.database = database then
          .ok (tables.map fun held => if held.dataset = table.dataset then table else held)
        else catalog.listTables database) ∧
      ∀ dataset, (catalog.addTable table).listPartitions dataset =
        catalog.listPartitions dataset := by
  obtain ⟨held, found, rfl⟩ := listTables_eq_ok_iff.mp listed
  have name := (kept.lists_iff table.dataset).mp ⟨_, listed, there⟩
  have known : table.dataset.database ∈ keys catalog.databases :=
    List.mem_map_of_mem (mem_of_get? found)
  refine ⟨?_, fun database => ?_, fun dataset => ?_⟩
  · change keys (put _ _ _) = _
    rw [keys_put, if_pos known]
    rfl
  · by_cases here : table.dataset.database = database
    · subst here
      have distinct := kept.tables table.dataset.database
      have named := kept.named table.dataset.database
      rw [tablesOf_of_get? found] at name distinct named
      rw [if_pos rfl]
      apply listTables_eq_ok_iff.mpr
      refine ⟨put table.dataset.table table held, ?_, ?_⟩
      · simp only [Catalog.addTable, get?_put, ↓reduceIte, tablesOf_of_get? found]
      · rw [put_of_mem distinct name, values, values, List.map_map, List.map_map]
        apply List.map_congr_left
        intro entry member
        have own := named entry member
        by_cases same : entry.1 = table.dataset.table
        · have equal : entry.2.dataset = table.dataset := own.trans (by rw [same])
          simp only [Function.comp_apply, same, ↓reduceIte, equal]
        · have other : ¬ entry.2.dataset = table.dataset :=
            fun equal => same (congrArg Dataset.table (own.symm.trans equal))
          simp only [Function.comp_apply, same, ↓reduceIte, other]
    · rw [if_neg here, listTables, listTables]
      simp only [Catalog.addTable, get?_put, here, ↓reduceIte]
  · have partitioned := (kept.partitioned_iff table.dataset).mpr ⟨_, listed, there⟩
    obtain ⟨partitions, present⟩ := partitioned
    rw [listPartitions_eq_ok_iff] at present
    have same : get? dataset (catalog.addTable table).partitions =
        get? dataset catalog.partitions := by
      rw [get?_partitions_addTable]
      split
      · rename_i own
        rw [← own, present, Option.getD_some]
      · rfl
    rw [listPartitions, listPartitions, same]

end InStep

theorem consistent_after (changes : List CatalogChange) : Consistent (after changes) := by
  have kept := inStep_after changes
  refine ⟨fun database => ?_, kept.partitioned_iff, fun database tables listed => ?_,
    fun database tables listed table member => ?_, fun dataset partitions listed => ?_⟩
  · simp only [listTables_eq_ok_iff, listDatabases, ← hasKey_iff_mem_keys, hasKey,
      Option.isSome_iff_exists]
    constructor
    · rintro ⟨-, held, found, -⟩
      exact ⟨held, found⟩
    · rintro ⟨held, found⟩
      exact ⟨_, held, found, rfl⟩
  · obtain ⟨held, found, rfl⟩ := listTables_eq_ok_iff.mp listed
    have names := kept.datasets_eq database
    have distinct := kept.tables database
    rw [tablesOf_of_get? found] at names distinct
    have same : (values held).map (·.dataset.table) = keys held := by
      have both := congrArg (List.map Dataset.table) names
      rw [List.map_map, List.map_map] at both
      exact both.trans (List.map_id _)
    rw [same]
    exact distinct
  · obtain ⟨held, found, rfl⟩ := listTables_eq_ok_iff.mp listed
    obtain ⟨entry, inside, rfl⟩ := List.mem_map.mp member
    rw [← tablesOf_of_get? found] at inside
    rw [kept.named database entry inside]
  · rw [listPartitions_after] at listed
    split at listed
    · contradiction
    · cases listed
      intro partition member
      obtain ⟨change, -, offered⟩ := List.mem_filterMap.mp member
      exact table_of_offered? offered

/-- Only a partition of a table that is not listed is refused. -/
theorem call_eq_error_iff (changes : List CatalogChange) (change : CatalogChange) (fault : Fault) :
    (after changes).call change = .error fault ↔
      ∃ partition, change = .addPartition partition ∧ ¬ (after changes).Lists partition.table ∧
        fault = unknownTable partition.table := by
  constructor
  · intro failed
    cases change with
    | addPartition partition =>
      obtain ⟨absent, said⟩ := addPartition_eq_error failed
      refine ⟨partition, rfl, fun listed => ?_, said⟩
      obtain ⟨partitions, found⟩ := ((inStep_after changes).partitioned_iff _).mpr listed
      rw [listPartitions_eq_ok_iff, absent] at found
      exact nomatch found
    | addDatabase database => exact nomatch failed
    | addTable table => exact nomatch failed
    | dropDatabase database => exact nomatch failed
  · rintro ⟨partition, rfl, unlisted, rfl⟩
    cases found : get? partition.table (after changes).partitions with
    | none => simp only [call, addPartition, found]
    | some partitions =>
      exact absurd (((inStep_after changes).partitioned_iff _).mp
        ⟨partitions, listPartitions_eq_ok_iff.mpr found⟩) unlisted

/-- **In-memory catalogs stay in step.** After any calls the listings agree with each other; the
partitions of a table are those offered in its current life, in that order; a call that fails, which
only an orphaned partition does, leaves all as it was; a table that is added anew takes the place of
the earlier one and keeps its partitions, and one whose database was dropped before starts with
none. -/
theorem listings_after (changes : List CatalogChange) :
    Consistent (after changes) ∧
      (∀ dataset partitions, (after changes).listPartitions dataset = .ok partitions →
        partitions = (lifeOf dataset changes).filterMap (·.offered? dataset)) ∧
      (∀ change fault, (after changes).call change = .error fault →
        (∃ partition, change = .addPartition partition ∧
          ¬ (after changes).Lists partition.table ∧ fault = unknownTable partition.table) ∧
        after (changes ++ [change]) = after changes) ∧
      (∀ table tables, (after changes).listTables table.dataset.database = .ok tables →
        table.dataset ∈ tables.map (·.dataset) →
        (after (changes ++ [.addTable table])).listDatabases = (after changes).listDatabases ∧
        (∀ database, (after (changes ++ [.addTable table])).listTables database =
          if table.dataset.database = database then
            .ok (tables.map fun held => if held.dataset = table.dataset then table else held)
          else (after changes).listTables database) ∧
        ∀ dataset, (after (changes ++ [.addTable table])).listPartitions dataset =
          (after changes).listPartitions dataset) ∧
      ∀ table between, (∀ change ∈ between, ¬ change.adds table.dataset) →
        (after (changes ++ .dropDatabase table.dataset.database :: between ++
          [.addTable table])).listPartitions table.dataset = .ok [] := by
  refine ⟨consistent_after changes, fun dataset partitions listed => ?_,
    fun change fault failed => ⟨(call_eq_error_iff changes change fault).mp failed, ?_⟩,
    fun table tables listed there => ?_, fun table between absent => ?_⟩
  · rw [listPartitions_after] at listed
    split at listed
    · exact nomatch listed
    · exact (Except.ok.inj listed).symm
  · rw [after_concat, apply, failed]
  · rw [after_concat]
    exact (inStep_after changes).addTable_of_lists listed there
  · have fresh := lifeOf_of_dropped table.dataset changes between absent
    rw [listPartitions_after, lifeOf_concat, fresh]
    simp [drops, adds, offered?]

/-- A partitioned table and a partition of it. -/
def filling : List CatalogChange :=
  [.addTable { dataset := ⟨"sales", "orders"⟩, partitionKeys := [.text "day"] },
   .addPartition { table := ⟨"sales", "orders"⟩, values := ["monday"] }]

/-- Once filled, the table can be replaced with its partition kept, refuses none but its own
partitions, and starts afresh when its database was dropped. -/
theorem listings_after_filling :
    (after filling).listPartitions ⟨"sales", "orders"⟩ =
        .ok [{ table := ⟨"sales", "orders"⟩, values := ["monday"] }] ∧
      (after (filling ++ [.addPartition { table := ⟨"sales", "customers"⟩, values := [] }])) =
        after filling ∧
      (after (filling ++ [.addTable { dataset := ⟨"sales", "orders"⟩ }])).listPartitions
        ⟨"sales", "orders"⟩ = (after filling).listPartitions ⟨"sales", "orders"⟩ ∧
      (after (filling ++ [.dropDatabase "sales", .addDatabase "sales"] ++
        [.addTable { dataset := ⟨"sales", "orders"⟩ }])).listPartitions ⟨"sales", "orders"⟩ =
          .ok [] := by
  obtain ⟨-, seen, refused, replaced, fresh⟩ := listings_after filling
  have unlisted : (after filling).call
      (.addPartition { table := ⟨"sales", "customers"⟩, values := [] }) =
        .error (unknownTable ⟨"sales", "customers"⟩) := rfl
  have listed : (after filling).listPartitions ⟨"sales", "orders"⟩ =
      .ok [{ table := ⟨"sales", "orders"⟩, values := ["monday"] }] := rfl
  have life := seen _ _ listed
  have again := replaced { dataset := ⟨"sales", "orders"⟩ } _ rfl (List.mem_singleton_self _)
  refine ⟨listed.trans (congrArg _ life), (refused _ _ unlisted).2, again.2.2 _, ?_⟩
  apply fresh { dataset := ⟨"sales", "orders"⟩ } [.addDatabase "sales"]
  intro change member
  rw [List.mem_singleton.mp member]
  exact Bool.false_ne_true

end Catalog
end CatalogDelta
