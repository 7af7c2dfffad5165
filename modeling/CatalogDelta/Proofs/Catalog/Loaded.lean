import CatalogDelta.Proofs.Catalog.History
import CatalogDelta.Proofs.Catalog.Source

/-!
# Catalogs from snapshots

A snapshot that names nothing twice, and that is read, becomes a catalog whose listings are the
handles of its databases, tables and partitions in the order in which it names them.
-/

namespace CatalogDelta.Snapshot

open Act
open OrderedMap

/-- What has been read of a snapshot: databases with their tables and the partitions of these. -/
abbrev Contents := List (String × List (Table × List Partition))

/-- The tables of a database under their names. -/
def namedTables (tables : List (Table × List Partition)) : OrderedMap String Table :=
  tables.map fun read => (read.1.dataset.table, read.1)

/-- The partitions of tables under the datasets. -/
def placedPartitions (tables : List (Table × List Partition)) :
    OrderedMap Dataset (List Partition) :=
  tables.map fun read => (read.1.dataset, read.2)

/-- A table is read from what a snapshot says of it, with a partition for each that it says. -/
def ReadsTable (database : String) (source : String × Data) (read : Table × List Partition) :
    Prop :=
  DescribesTable database source read.1 ∧
    List.Forall₂ (DescribesPartition read.1) (sourcePartitions source.2) read.2

def ReadsDatabase (source : String × Data) (read : String × List (Table × List Partition)) :
    Prop :=
  read.1 = source.1 ∧ List.Forall₂ (ReadsTable source.1) (sourceTables source.2) read.2

/-- No database is named twice, and no table of a database. -/
structure NamesOnce (snapshot : Data) : Prop where
  databases : (keys (sourceDatabases snapshot)).Nodup
  tables : ∀ source ∈ sourceDatabases snapshot, (keys (sourceTables source.2)).Nodup

/-- Each handle of a database has its place in the snapshot. -/
theorem exists_describes {database : String} {sources : List (String × Data)}
    {reads : List (Table × List Partition)} (all : List.Forall₂ (ReadsTable database) sources reads)
    {read : Table × List Partition} (member : read ∈ reads) :
    ∃ source ∈ sources, DescribesTable database source read.1 := by
  obtain ⟨place, inside, rfl⟩ := List.mem_iff_getElem.mp member
  have same := all.length_eq
  refine ⟨sources[place], List.getElem_mem _, ?_⟩
  exact (all.get (by omega) inside).1

/-- The tables that a snapshot names. -/
def sourceDatasets (sources : List (String × Data)) : List Dataset :=
  sources.flatMap fun source => (keys (sourceTables source.2)).map (Dataset.mk source.1)

theorem NamesOnce.datasets {snapshot : Data} (once : NamesOnce snapshot) :
    (sourceDatasets (sourceDatabases snapshot)).Nodup := by
  apply List.nodup_flatMap.mpr
  constructor
  · intro source member
    exact (once.tables source member).map fun _ _ same => (Dataset.mk.inj same).2
  · have distinct := List.pairwise_map.mp once.databases
    refine distinct.imp fun {first second} apart dataset here there => ?_
    obtain ⟨_, -, rfl⟩ := List.mem_map.mp here
    obtain ⟨_, -, same⟩ := List.mem_map.mp there
    exact apart (Dataset.mk.inj same).1.symm

/-- Partitions that are added one by one end up behind those that were there. -/
theorem addPartitions_eq_ok {table : Table} {catalog changed : Catalog} {sources : List Data}
    {others : OrderedMap Dataset (List Partition)} {earlier : List Partition}
    (new : table.dataset ∉ keys others)
    (partitions_eq : catalog.partitions = others ++ [(table.dataset, earlier)])
    (read : addPartitions table catalog sources = .ok changed) :
    ∃ partitions, List.Forall₂ (DescribesPartition table) sources partitions ∧
      changed = { catalog with
        partitions := others ++ [(table.dataset, earlier ++ partitions)] } := by
  induction sources generalizing catalog earlier with
  | nil =>
    cases read
    refine ⟨[], .nil, ?_⟩
    rw [List.append_nil, ← partitions_eq]
  | cons source rest ih =>
    obtain ⟨partition, partitionRead, read⟩ := exists_of_bind_eq_ok read
    obtain ⟨added, adds, read⟩ := exists_of_bind_eq_ok read
    have describes := partitionOf_describes partitionRead
    have added_eq : added = { catalog with
        partitions := others ++ [(table.dataset, earlier ++ [partition])] } := by
      unfold Catalog.addPartition at adds
      rw [describes.owner, partitions_eq, get?_last new] at adds
      cases adds
      rw [put_last new]
    subst added_eq
    obtain ⟨partitions, described, same⟩ := ih rfl read
    refine ⟨partition :: partitions, .cons describes described, ?_⟩
    rw [same, List.append_assoc, List.singleton_append]

/-- A new table of the last database comes last. -/
theorem addTable_last {catalog : Catalog} {table : Table}
    {others : OrderedMap String (OrderedMap String Table)} {tables : OrderedMap String Table}
    (new : table.dataset.database ∉ keys others)
    (databases_eq : catalog.databases = others ++ [(table.dataset.database, tables)])
    (fresh : table.dataset.table ∉ keys tables)
    (unplaced : table.dataset ∉ keys catalog.partitions) :
    catalog.addTable table =
      { databases := others ++ [(table.dataset.database, tables ++ [(table.dataset.table, table)])]
        partitions := catalog.partitions ++ [(table.dataset, [])] } := by
  have tables_eq : catalog.tablesOf table.dataset.database = tables := by
    rw [Catalog.tablesOf, databases_eq, get?_last new, Option.getD_some]
  have absent : hasKey table.dataset catalog.partitions = false :=
    Bool.eq_false_iff.mpr fun there => unplaced ((hasKey_iff_mem_keys _ _).mp there)
  unfold Catalog.addTable
  simp only [tables_eq, absent, Bool.false_eq_true, ↓reduceIte, databases_eq, put_last new,
    put_of_not_mem fresh, put_of_not_mem unplaced]

theorem addTables_eq_ok {database : String} {catalog changed : Catalog}
    {sources : List (String × Data)} {others : OrderedMap String (OrderedMap String Table)}
    {tables : OrderedMap String Table} (new : database ∉ keys others)
    (databases_eq : catalog.databases = others ++ [(database, tables)])
    (distinct : (keys tables ++ keys sources).Nodup)
    (unplaced : ∀ name ∈ keys sources, ⟨database, name⟩ ∉ keys catalog.partitions)
    (read : addTables database catalog sources = .ok changed) :
    ∃ reads, List.Forall₂ (ReadsTable database) sources reads ∧
      changed =
        { databases := others ++ [(database, tables ++ namedTables reads)]
          partitions := catalog.partitions ++ placedPartitions reads } := by
  induction sources generalizing catalog tables with
  | nil =>
    cases read
    refine ⟨[], .nil, ?_⟩
    simp only [namedTables, placedPartitions, List.map_nil, List.append_nil, ← databases_eq]
  | cons source rest ih =>
    obtain ⟨table, tableRead, read⟩ := exists_of_bind_eq_ok read
    obtain ⟨listed, listedRead, read⟩ := exists_of_bind_eq_ok read
    obtain ⟨items, itemsRead, read⟩ := exists_of_bind_eq_ok read
    obtain ⟨added, adds, read⟩ := exists_of_bind_eq_ok read
    have describes := tableOf_describes tableRead
    have own := describes.dataset
    have database_eq : table.dataset.database = database := congrArg Dataset.database own
    have name_eq : table.dataset.table = source.1 := congrArg Dataset.table own
    obtain ⟨-, distinctRest, apart⟩ := List.nodup_append.mp distinct
    obtain ⟨last, distinctRest⟩ := List.nodup_cons.mp distinctRest
    have fresh : table.dataset.table ∉ keys tables := by
      rw [name_eq]
      exact fun member => apart _ member _ List.mem_cons_self rfl
    have free : table.dataset ∉ keys catalog.partitions := by
      rw [own]
      exact unplaced _ List.mem_cons_self
    have opened : catalog.addTable table =
        { databases := others ++ [(database, tables ++ [(table.dataset.table, table)])]
          partitions := catalog.partitions ++ [(table.dataset, [])] } := by
      subst database_eq
      exact addTable_last new databases_eq fresh free
    rw [opened] at adds
    obtain ⟨partitions, described, rfl⟩ := addPartitions_eq_ok free rfl adds
    rw [Data.entry_orEmpty listedRead] at itemsRead
    rw [← Data.elements_of_itemsIfAny itemsRead] at described
    have distinctLater : (keys (tables ++ [(table.dataset.table, table)]) ++ keys rest).Nodup := by
      have same : keys (tables ++ [(table.dataset.table, table)]) ++ keys rest =
          keys tables ++ keys (source :: rest) := by
        simp only [keys, List.map_append, List.map_cons, List.map_nil, name_eq, List.append_assoc,
          List.singleton_append]
      rw [same]
      exact distinct
    have unplacedLater : ∀ name ∈ keys rest, (⟨database, name⟩ : Dataset) ∉
        keys (catalog.partitions ++ [(table.dataset, [] ++ partitions)]) := by
      intro name member placed
      unfold keys at placed
      rw [List.map_append] at placed
      rcases List.mem_append.mp placed with before | now
      · exact unplaced name (List.mem_cons_of_mem _ member) before
      · have same := List.mem_singleton.mp now
        rw [own] at same
        rw [(Dataset.mk.inj same).2] at member
        exact last member
    obtain ⟨reads, readRest, rfl⟩ := ih rfl distinctLater unplacedLater read
    refine ⟨(table, partitions) :: reads, .cons ⟨describes, described⟩ readRest, ?_⟩
    simp only [namedTables, placedPartitions, List.map_cons, List.append_assoc,
      List.singleton_append, List.nil_append]

/-- The catalog that holds what has been read. -/
def Contents.catalog (contents : Contents) : Catalog where
  databases := contents.map fun read => (read.1, namedTables read.2)
  partitions := contents.flatMap fun read => placedPartitions read.2

theorem addDatabases_eq_ok {catalog changed : Catalog} {sources : List (String × Data)}
    (distinct : (keys catalog.databases ++ keys sources).Nodup)
    (once : ∀ source ∈ sources, (keys (sourceTables source.2)).Nodup)
    (housed : ∀ dataset ∈ keys catalog.partitions, dataset.database ∈ keys catalog.databases)
    (read : addDatabases catalog sources = .ok changed) :
    ∃ contents : Contents, List.Forall₂ ReadsDatabase sources contents ∧
      changed =
        { databases := catalog.databases ++ contents.catalog.databases
          partitions := catalog.partitions ++ contents.catalog.partitions } := by
  induction sources generalizing catalog with
  | nil =>
    cases read
    refine ⟨[], .nil, ?_⟩
    simp only [Contents.catalog, List.map_nil, List.flatMap_nil, List.append_nil]
  | cons source rest ih =>
    obtain ⟨listed, listedRead, read⟩ := exists_of_bind_eq_ok read
    obtain ⟨tables, tablesRead, read⟩ := exists_of_bind_eq_ok read
    obtain ⟨added, adds, read⟩ := exists_of_bind_eq_ok read
    obtain ⟨-, distinctRest, apart⟩ := List.nodup_append.mp distinct
    have new : source.1 ∉ keys catalog.databases :=
      fun member => apart _ member _ List.mem_cons_self rfl
    have absent : hasKey source.1 catalog.databases = false :=
      Bool.eq_false_iff.mpr fun there => new ((hasKey_iff_mem_keys _ _).mp there)
    have opened : (catalog.addDatabase source.1).databases =
        catalog.databases ++ [(source.1, [])] := by
      simp only [Catalog.addDatabase, absent, Bool.false_eq_true, ↓reduceIte, put_of_not_mem new]
    have partitions_eq := Catalog.partitions_addDatabase catalog source.1
    have tables_eq : tables = sourceTables source.2 := by
      rw [(Data.entries_eq_ok_iff.mp tablesRead).2, Data.members_orEmpty,
        Data.entry_orEmpty listedRead]
      rfl
    subst tables_eq
    have distinctTables : (keys ([] : OrderedMap String Table) ++
        keys (sourceTables source.2)).Nodup := once source List.mem_cons_self
    have unplaced : ∀ name ∈ keys (sourceTables source.2), (⟨source.1, name⟩ : Dataset) ∉
        keys (catalog.addDatabase source.1).partitions := by
      intro name _ placed
      rw [partitions_eq] at placed
      exact new (housed _ placed)
    obtain ⟨reads, readTables, rfl⟩ := addTables_eq_ok new opened distinctTables unplaced adds
    rw [partitions_eq] at read
    have names_eq : keys (catalog.databases ++ [(source.1, [] ++ namedTables reads)]) =
        keys catalog.databases ++ [source.1] := by
      simp only [keys, List.map_append, List.map_cons, List.map_nil]
    have distinctLater : (keys (catalog.databases ++ [(source.1, [] ++ namedTables reads)]) ++
        keys rest).Nodup := by
      rw [names_eq, List.append_assoc]
      exact distinct
    have housedLater : ∀ dataset ∈ keys (catalog.partitions ++ placedPartitions reads),
        dataset.database ∈ keys (catalog.databases ++ [(source.1, [] ++ namedTables reads)]) := by
      intro dataset member
      rw [names_eq]
      unfold keys at member
      rw [List.map_append] at member
      rcases List.mem_append.mp member with before | now
      · exact List.mem_append_left _ (housed dataset before)
      · obtain ⟨entry, placed, rfl⟩ := List.mem_map.mp now
        obtain ⟨given, inside, rfl⟩ := List.mem_map.mp placed
        obtain ⟨said, -, describes⟩ := exists_describes readTables inside
        rw [describes.dataset]
        exact List.mem_append_right _ (List.mem_singleton_self _)
    obtain ⟨contents, readRest, rfl⟩ := ih distinctLater
      (fun other member => once other (List.mem_cons_of_mem _ member)) housedLater read
    refine ⟨(source.1, reads) :: contents, .cons ⟨rfl, readTables⟩ readRest, ?_⟩
    simp only [Contents.catalog, List.map_cons, List.flatMap_cons, List.append_assoc,
      List.singleton_append, List.nil_append]

/-! ## Listings of what has been read -/

theorem keys_databases {sources : List (String × Data)} {contents : Contents}
    (all : List.Forall₂ ReadsDatabase sources contents) :
    keys contents.catalog.databases = keys sources := by
  induction all with
  | nil => rfl
  | cons first _ ih => exact congrArg₂ List.cons first.1 ih

theorem keys_placedPartitions {database : String} {sources : List (String × Data)}
    {reads : List (Table × List Partition)}
    (all : List.Forall₂ (ReadsTable database) sources reads) :
    keys (placedPartitions reads) = (keys sources).map (Dataset.mk database) := by
  induction all with
  | nil => rfl
  | cons first _ ih => exact congrArg₂ List.cons first.1.dataset ih

theorem keys_partitions {sources : List (String × Data)} {contents : Contents}
    (all : List.Forall₂ ReadsDatabase sources contents) :
    keys contents.catalog.partitions = sourceDatasets sources := by
  induction all with
  | nil => rfl
  | cons first _ ih =>
    unfold keys Contents.catalog sourceDatasets at ih ⊢
    rw [List.flatMap_cons, List.flatMap_cons, List.map_append, ih]
    exact congrArg (· ++ _) (keys_placedPartitions first.2)

/-- The catalog lists what the snapshot says: the databases in its order, for each of them a handle
for each table in its order, and for each table a handle for each partition in its order. -/
structure Mirrors (snapshot : Data) (catalog : Catalog) : Prop where
  databases : catalog.listDatabases = keys (sourceDatabases snapshot)
  tables : ∀ source ∈ sourceDatabases snapshot, ∃ tables,
    catalog.listTables source.1 = .ok tables ∧
      List.Forall₂ (fun said table => DescribesTable source.1 said table ∧
        ∃ partitions, catalog.listPartitions table.dataset = .ok partitions ∧
          List.Forall₂ (DescribesPartition table) (sourcePartitions said.2) partitions)
        (sourceTables source.2) tables

theorem databasesOf_eq_ok {snapshot : Data} {databases : List (String × Data)}
    (read : databasesOf snapshot = .ok databases) : databases = sourceDatabases snapshot := by
  unfold databasesOf at read
  split at read
  · rename_i found
    cases read
    rw [sourceDatabases, Data.part, found]
    rfl
  · exact nomatch read

/-- Loading a snapshot comes to reading it: its databases are counted once they have been read. -/
theorem load_answers {σ : Type} (snapshot : Data) (stage : Stage σ) :
    (runOn (load snapshot) stage).1 = catalogOf snapshot := by
  unfold load
  cases read : catalogOf snapshot with
  | error fault => simp only [runOn_bind, runOn_settle]
  | ok catalog =>
    obtain ⟨databases, found, -⟩ := exists_of_bind_eq_ok read
    simp only [found, runOn_bind, runOn_settle, runOn_note, runOn_pure]

theorem mirrors_of_catalogOf {snapshot : Data} {catalog : Catalog} (once : NamesOnce snapshot)
    (read : catalogOf snapshot = .ok catalog) : Mirrors snapshot catalog := by
  obtain ⟨databases, databasesRead, read⟩ := exists_of_bind_eq_ok read
  obtain rfl := databasesOf_eq_ok databasesRead
  have housed : ∀ dataset ∈ keys ({} : Catalog).partitions,
      dataset.database ∈ keys ({} : Catalog).databases :=
    fun _ member => absurd member List.not_mem_nil
  have apart : (keys ({} : Catalog).databases ++ keys (sourceDatabases snapshot)).Nodup :=
    once.databases
  obtain ⟨contents, all, same⟩ := addDatabases_eq_ok apart once.tables housed read
  have catalog_eq : catalog = contents.catalog := same
  subst catalog_eq
  have distinct : (keys contents.catalog.databases).Nodup := by
    rw [keys_databases all]
    exact once.databases
  have distinctPartitions : (keys contents.catalog.partitions).Nodup := by
    rw [keys_partitions all]
    exact once.datasets
  refine ⟨keys_databases all, fun source member => ?_⟩
  obtain ⟨place, inside, rfl⟩ := List.mem_iff_getElem.mp member
  have length_eq := all.length_eq
  have here : place < contents.length := by omega
  obtain ⟨name_eq, tablesRead⟩ := all.get inside here
  have held : contents[place] ∈ contents := List.getElem_mem here
  refine ⟨contents[place].2.map (·.1), ?_, ?_⟩
  · apply Catalog.listTables_eq_ok_iff.mpr
    refine ⟨namedTables contents[place].2, ?_, List.map_map⟩
    rw [get?_eq_some_iff distinct]
    exact List.mem_map.mpr ⟨contents[place], held, Prod.ext name_eq rfl⟩
  · rw [List.forall₂_map_right_iff, List.forall₂_iff_zip]
    obtain ⟨sameLength, pairs⟩ := List.forall₂_iff_zip.mp tablesRead
    refine ⟨sameLength, fun {said given} pair => ?_⟩
    obtain ⟨describes, described⟩ := pairs pair
    refine ⟨describes, given.2, ?_, described⟩
    rw [Catalog.listPartitions_eq_ok_iff, get?_eq_some_iff distinctPartitions]
    exact List.mem_flatMap.mpr ⟨contents[place], held,
      List.mem_map.mpr ⟨given, (List.of_mem_zip pair).2, rfl⟩⟩

end CatalogDelta.Snapshot
