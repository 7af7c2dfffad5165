import CatalogDelta.Proofs.Catalog.Loaded
import CatalogDelta.Proofs.Catalog.Shape
import CatalogDelta.Proofs.Decimal.Finite

/-!
# Snapshots that are not loaded

A snapshot is loaded exactly if every part of it has its shape and fits what is said elsewhere: the
names and values of partitions fit the keys of the table, and creation times are moments. A misfit
is reported by its field. A missing shape is not: it ends the reading where it is come upon.
-/

namespace CatalogDelta.Snapshot

open OrderedMap

/-! ## Creation times -/

/-- A creation time that can be looked at: what is neither null nor a number is written down, and a
float is finite. -/
def HasTime : Data → Prop
  | .null | .bool _ | .int _ => True
  | .float seconds => Decimal.IsFinite seconds
  | .moment moment => Decimal.IsFinite moment.epochSeconds
  | other => other.isWritable = true

/-- A creation time is no truth value, and what is written down is a moment. -/
def TimeFits : Data → Prop
  | .bool _ => False
  | .null | .int _ | .float _ | .moment _ => True
  | other => ∃ moment, Iso.moment? (zoned other.shown) = some moment

theorem integerOfFloat_meets (seconds : Float) :
    Meets (Decimal.IsFinite seconds) True (Data.integerOfFloat seconds) := by
  unfold Data.integerOfFloat
  split
  · rename_i same
    exact meets_invalidValue (fun ⟨_, _, finite⟩ => nomatch same.symm.trans finite) _
  · rename_i same
    exact meets_outOfRange (fun ⟨_, _, finite⟩ => nomatch same.symm.trans finite) _
  · rename_i same
    exact .met ⟨_, _, same⟩ trivial

theorem writtenTimeOf_meets (place : String) (value : Data) :
    Meets (value.isWritable = true) (∃ moment, Iso.moment? (zoned value.shown) = some moment)
      (writtenTimeOf place value) := by
  unfold writtenTimeOf
  apply (written_meets value).step id
  intro text read writable
  rw [(Data.written_eq_ok_iff.mp read).2]
  split
  · rename_i none
    exact meets_report _ (fun ⟨_, found⟩ => nomatch none.symm.trans found) _ _ (by decide)
  · rename_i moment found
    have finite := Moment.isFinite_epochSeconds (Option.filter_eq_some_iff.mp found).2
    exact (integerOfFloat_meets _).imp (iff_of_true finite writable)
      (iff_of_true trivial ⟨moment, found⟩)

theorem createTimeOf_meets (place : String) (value : Data) :
    Meets (HasTime value) (TimeFits value) (createTimeOf place value) := by
  cases value with
  | null | int _ => exact .met trivial trivial
  | bool _ => exact meets_report _ id _ _ (by decide)
  | float seconds => exact integerOfFloat_meets seconds
  | moment moment => exact integerOfFloat_meets moment.epochSeconds
  | text _ | list _ | map _ | span _ => exact writtenTimeOf_meets place _

/-! ## Partitions -/

/-- A partition with the shape for being read: it is a map whose name, or else its values, can be
written, and so on. -/
structure PartitionShaped (source : Data) : Prop where
  isMap : source.IsMap
  named : ∀ name, source.field? "name" = some name → name.isWritable = true
  unnamed : source.field? "name" = none → (source.part "values").IsIterable ∧
    ∀ item ∈ (source.part "values").elements, item.isWritable = true
  createTime : HasTime (source.part "create_time")
  parameters : (source.part "parameters").HasEntries

/-- The name has a segment for each key, in the order of the keys. -/
def NamesKeys (keys : List Data) (name : String) : Prop :=
  ∃ segments : List (String × String),
    Text.pieces '/' name.toList = segments.map PartitionName.segmentChars ∧
      (∀ segment ∈ segments, PartitionName.IsPlain segment.1) ∧
      keys = segments.map fun segment => .text segment.1

/-- A partition fits a table with these keys: it has a value for each. -/
structure PartitionFits (keys : List Data) (source : Data) : Prop where
  named : ∀ name, source.field? "name" = some name → NamesKeys keys name.shown
  unnamed : source.field? "name" = none → (source.part "values").elements.length = keys.length
  createTime : TimeFits (source.part "create_time")

theorem namesKeys_iff {keys : List Data} {name : String} :
    NamesKeys keys name ↔ ∃ found values, PartitionName.parse name = .ok (found, values) ∧
      keys.map Data.asText? = found.map some := by
  constructor
  · rintro ⟨segments, whole, plain, rfl⟩
    refine ⟨_, _, PartitionName.parse_eq_ok_iff.mpr ⟨segments, whole, plain, rfl, rfl⟩, ?_⟩
    rw [List.map_map, List.map_map]
    rfl
  · rintro ⟨found, values, parsed, same⟩
    obtain ⟨segments, whole, plain, rfl, rfl⟩ := PartitionName.parse_eq_ok_iff.mp parsed
    have keys_eq := eq_texts_of_asText? same
    rw [List.map_map] at keys_eq
    exact ⟨segments, whole, plain, keys_eq⟩

theorem namedValues_meets (table : Table) (name : Data) :
    Meets (name.isWritable = true) (NamesKeys table.partitionKeys name.shown)
      (namedValues table name) := by
  unfold namedValues
  apply (written_meets name).step id
  intro text read writable
  rw [(Data.written_eq_ok_iff.mp read).2, namesKeys_iff]
  split
  · rename_i segment failed
    refine meets_report _ (fun ⟨_, _, parsed, _⟩ => ?_) _ _ (by decide)
    exact nomatch failed.symm.trans parsed
  · rename_i keys values found
    split
    · rename_i same
      exact .met writable ⟨keys, values, found, same⟩
    · rename_i other
      refine meets_report _ (fun ⟨_, _, parsed, same⟩ => ?_) _ _ (by decide)
      cases found.symm.trans parsed
      exact other same

/-- What is no map has no values: it cannot be asked for a name, or it has no member for values. -/
theorem valuesOf_meets_of_not_isMap {source : Data} {fit : Prop} (table : Table)
    (noMap : ¬ source.IsMap) : Meets False fit (valuesOf table source) := by
  have unnamed : Meets False fit (source.entry "values" >>= fun listed =>
      listed.itemsIfAny >>= fun items => items.mapM Data.written) := by
    cases source with
    | map entries => exact absurd ⟨entries, rfl⟩ noMap
    | _ => exact meets_noMember id _ _
  unfold valuesOf nameOf?
  cases source with
  | map entries => exact absurd ⟨entries, rfl⟩ noMap
  | text content =>
    simp only [Data.mentions]
    cases Text.occursIn "name".toList content.toList with
    | true => exact meets_wrongType id _
    | false => exact unnamed
  | list items =>
    simp only [Data.mentions]
    cases items.any (·.isText "name") with
    | true => exact meets_wrongType id _
    | false => exact unnamed
  | _ => exact meets_wrongType id _

theorem valuesOf_meets {source : Data} (table : Table) (isMap : source.IsMap) :
    Meets ((∀ name, source.field? "name" = some name → name.isWritable = true) ∧
        (source.field? "name" = none → (source.part "values").IsIterable ∧
          ∀ item ∈ (source.part "values").elements, item.isWritable = true))
      (∀ name, source.field? "name" = some name → NamesKeys table.partitionKeys name.shown)
      (valuesOf table source) := by
  unfold valuesOf
  rw [nameOf?_eq isMap]
  cases named : source.field? "name" with
  | some name =>
    apply (namedValues_meets table name).imp
    · simp only [Option.some.injEq, forall_eq', reduceCtorEq, false_implies, and_true]
    · simp only [Option.some.injEq, forall_eq']
  | none =>
    have found : source.entry "values" = .ok (source.part "values") :=
      Data.entry_eq_ok_iff.mpr ⟨isMap, rfl⟩
    change Meets _ _ (source.entry "values" >>= fun listed => listed.itemsIfAny >>= fun items =>
      items.mapM Data.written)
    rw [found]
    apply (eachItem_meets mapM_written_meets (source.part "values")).imp
    · simp only [reduceCtorEq, false_implies, implies_true, true_and, true_implies]
    · simp only [reduceCtorEq, false_implies, implies_true]

/-- There is a value for each key if a name says so, or if as many are listed. -/
theorem count_of_valuesOf {table : Table} {source : Data} {values : List String}
    (isMap : source.IsMap) (read : valuesOf table source = .ok values) :
    values.length = table.partitionKeys.length ↔ (source.field? "name" = none →
      (source.part "values").elements.length = table.partitionKeys.length) := by
  obtain ⟨byName, listed⟩ := valuesOf_eq_ok isMap read
  cases named : source.field? "name" with
  | some name =>
    obtain ⟨segments, -, -, keys_eq, rfl⟩ := namedValues_eq_ok (byName name named)
    rw [keys_eq, List.length_map, List.length_map]
    exact iff_of_true rfl fun none => nomatch none
  | none =>
    rw [listed named, List.length_map]
    exact ⟨fun same _ => same, fun same => same rfl⟩

theorem partitionOf_meets (table : Table) (source : Data) :
    Meets (PartitionShaped source) (PartitionFits table.partitionKeys source)
      (partitionOf table source) := by
  unfold partitionOf
  by_cases isMap : source.IsMap
  · apply (valuesOf_meets table isMap).next (fun shaped => ⟨shaped.named, shaped.unnamed⟩)
      PartitionFits.named
    rintro values read ⟨named, unnamed⟩ names
    have count := count_of_valuesOf isMap read
    split
    · rename_i other
      exact meets_report _ (fun fits => other (count.mpr fits.unnamed)) _ _ (by decide)
    · rename_i same
      simp only [Data.entry_eq_ok_iff.mpr ⟨isMap, rfl⟩]
      apply (createTimeOf_meets _ _).next PartitionShaped.createTime PartitionFits.createTime
      intro seconds _ createTime fits
      apply (asEntries_meets _).step PartitionShaped.parameters
      intro entries _ parameters
      exact .met ⟨isMap, named, unnamed, createTime, parameters⟩
        ⟨names, count.mp (not_not.mp same), fits⟩
  · apply (valuesOf_meets_of_not_isMap table isMap).step fun shaped => isMap shaped.isMap
    intro _ _ absurdity
    exact absurdity.elim

/-! ## Tables and databases -/

/-- A table with the shape for being read. -/
structure TableShaped (source : Data) : Prop where
  isMap : source.IsMapIfAny
  serde : (source.part "serde").IsMapIfAny
  partitionKeys : (source.part "partition_keys").IsIterable
  serdeParameters : ((source.part "serde").part "parameters").HasEntries
  createTime : HasTime (source.part "create_time")
  parameters : (source.part "parameters").HasEntries

/-- One can go through the partitions of the table, and each of them has its shape. -/
structure PartitionsShaped (source : Data) : Prop where
  listed : (source.part "partitions").IsIterable
  partitions : ∀ partition ∈ sourcePartitions source, PartitionShaped partition

structure DatabaseShaped (source : Data) : Prop where
  isMap : source.IsMapIfAny
  named : (source.part "tables").IsMapIfAny
  tables : ∀ table ∈ sourceTables source, TableShaped table.2 ∧ PartitionsShaped table.2

/-- The partitions of a table fit its keys. -/
structure TableFits (source : Data) : Prop where
  createTime : TimeFits (source.part "create_time")
  partitions : ∀ partition ∈ sourcePartitions source,
    PartitionFits (source.part "partition_keys").elements partition

/-- A snapshot each part of which has the shape for being read. -/
def Shaped (snapshot : Data) : Prop :=
  ∀ database ∈ sourceDatabases snapshot, DatabaseShaped database.2

/-- A snapshot that has databases, whose tables fit. -/
structure Fits (snapshot : Data) : Prop where
  listed : ∃ databases, snapshot.field? "databases" = some (.map databases)
  tables : ∀ database ∈ sourceDatabases snapshot, ∀ table ∈ sourceTables database.2,
    TableFits table.2

theorem entry_of_isMapIfAny {source : Data} (isMap : source.IsMapIfAny) (key : String) :
    source.orEmpty.entry key = .ok (source.part key) :=
  Data.entry_eq_ok_iff.mpr ⟨(isMap_orEmpty source).mpr isMap, (Data.part_orEmpty source key).symm⟩

theorem tableOf_meets (dataset : Dataset) (source : Data) :
    Meets (TableShaped source) (TimeFits (source.part "create_time"))
      (tableOf dataset source.orEmpty) := by
  unfold tableOf
  apply (entry_meets _ _).step fun shaped => (isMap_orEmpty source).mpr shaped.isMap
  intro serde read isMap
  rw [isMap_orEmpty] at isMap
  obtain rfl := Data.entry_orEmpty read
  simp only [entry_of_isMapIfAny isMap]
  apply (itemsIfAny_meets _).step TableShaped.partitionKeys
  intro keys _ partitionKeys
  apply (entry_meets _ _).step fun shaped => (isMap_orEmpty _).mpr shaped.serde
  intro format _ serde
  rw [isMap_orEmpty] at serde
  simp only [entry_of_isMapIfAny serde]
  apply (asEntries_meets _).step TableShaped.serdeParameters
  intro options _ serdeParameters
  apply (createTimeOf_meets _ _).next TableShaped.createTime id
  intro seconds _ createTime fits
  apply (asEntries_meets _).step TableShaped.parameters
  intro entries _ parameters
  exact .met ⟨isMap, serde, partitionKeys, serdeParameters, createTime, parameters⟩ fits

/-- The partitions of a table that has its place are added. -/
theorem addPartitions_meets {table : Table} {catalog : Catalog} {held : List Partition}
    (placed : get? table.dataset catalog.partitions = some held) (sources : List Data) :
    Meets (∀ source ∈ sources, PartitionShaped source)
      (∀ source ∈ sources, PartitionFits table.partitionKeys source)
      (addPartitions table catalog sources) := by
  induction sources generalizing catalog held with
  | nil =>
    exact .met (fun _ member => absurd member List.not_mem_nil)
      fun _ member => absurd member List.not_mem_nil
  | cons source others ih =>
    rw [List.forall_mem_cons, List.forall_mem_cons]
    apply (partitionOf_meets table source).next And.left And.left
    intro partition read shaped fits
    have adds : catalog.addPartition partition = .ok { catalog with
        partitions := put table.dataset (held ++ [partition]) catalog.partitions } := by
      rw [Catalog.addPartition, (partitionOf_describes read).owner, placed]
    rw [adds]
    have still : get? table.dataset (put table.dataset (held ++ [partition]) catalog.partitions) =
        some (held ++ [partition]) := by
      rw [get?_put, if_pos rfl]
    exact (ih still).imp (and_iff_right shaped).symm (and_iff_right fits).symm

theorem addTables_meets (database : String) (catalog : Catalog) (sources : List (String × Data)) :
    Meets (∀ source ∈ sources, TableShaped source.2 ∧ PartitionsShaped source.2)
      (∀ source ∈ sources, TableFits source.2) (addTables database catalog sources) := by
  induction sources generalizing catalog with
  | nil =>
    exact .met (fun _ member => absurd member List.not_mem_nil)
      fun _ member => absurd member List.not_mem_nil
  | cons source others ih =>
    rw [List.forall_mem_cons, List.forall_mem_cons]
    apply (tableOf_meets ⟨database, source.1⟩ source.2).next (fun shaped => shaped.1.1)
      fun fits => fits.1.createTime
    intro table read shaped createTime
    simp only [entry_of_isMapIfAny shaped.isMap]
    apply (itemsIfAny_meets _).step fun all => all.1.2.listed
    intro items given iterable
    have placed := Catalog.get?_partitions_addTable catalog table table.dataset
    rw [if_pos rfl] at placed
    have items_eq : items = sourcePartitions source.2 := (Data.elements_of_itemsIfAny given).symm
    have keys_eq := (tableOf_describes read).partitionKeys
    rw [items_eq]
    apply (addPartitions_meets placed _).next (fun all => all.1.2.partitions)
      fun fits => keys_eq ▸ fits.1.partitions
    intro changed _ partitions fits
    rw [keys_eq] at fits
    exact (ih changed).imp (and_iff_right ⟨shaped, iterable, partitions⟩).symm
      (and_iff_right ⟨createTime, fits⟩).symm

theorem addDatabases_meets (catalog : Catalog) (sources : List (String × Data)) :
    Meets (∀ source ∈ sources, DatabaseShaped source.2)
      (∀ source ∈ sources, ∀ table ∈ sourceTables source.2, TableFits table.2)
      (addDatabases catalog sources) := by
  induction sources generalizing catalog with
  | nil =>
    exact .met (fun _ member => absurd member List.not_mem_nil)
      fun _ member => absurd member List.not_mem_nil
  | cons source others ih =>
    rw [List.forall_mem_cons, List.forall_mem_cons]
    apply (entry_meets _ _).step fun shaped => (isMap_orEmpty source.2).mpr shaped.1.isMap
    intro listed read isMap
    rw [isMap_orEmpty] at isMap
    obtain rfl := Data.entry_orEmpty read
    apply (entries_meets _).step fun shaped => (isMap_orEmpty _).mpr shaped.1.named
    intro tables given named
    rw [isMap_orEmpty] at named
    have tables_eq : tables = sourceTables source.2 := by
      rw [(Data.entries_eq_ok_iff.mp given).2, Data.members_orEmpty]
      rfl
    rw [tables_eq]
    apply (addTables_meets source.1 _ _).next (fun shaped => shaped.1.tables) And.left
    intro changed _ shaped fits
    exact (ih changed).imp (and_iff_right ⟨isMap, named, shaped⟩).symm (and_iff_right fits).symm

/-! ## Snapshots -/

theorem catalogOf_meets (snapshot : Data) :
    Meets (Shaped snapshot) (Fits snapshot) (catalogOf snapshot) := by
  have listed : Meets True (∃ databases, snapshot.field? "databases" = some (.map databases))
      (databasesOf snapshot) := by
    unfold databasesOf
    split
    · rename_i databases found
      exact .met trivial ⟨databases, found⟩
    · rename_i other
      exact meets_report _ (fun ⟨databases, found⟩ => other databases found) _ _ (by decide)
  apply listed.next (fun _ => trivial) Fits.listed
  intro databases read _ found
  rw [databasesOf_eq_ok read]
  apply (addDatabases_meets {} (sourceDatabases snapshot)).imp Iff.rfl
  exact ⟨fun tables => ⟨found, tables⟩, Fits.tables⟩

/-- **Which snapshots are loaded, and what becomes of the others.** A snapshot is loaded exactly if
every part of it has the shape for being read and fits the others. The error of one that is not
loaded reports a misfit as a configuration, by its field, or it tells of a missing shape by another
kind of error: a missing member, a wrong type, an invalid value or an overflow. -/
theorem load_reports_or_lacks_shape {σ : Type} (snapshot : Data) (stage : Stage σ) :
    match (Act.runOn (load snapshot) stage).1 with
    | .ok _ => Shaped snapshot ∧ Fits snapshot
    | .error fault => (¬ Fits snapshot ∧ IsReport fault ∧ fault.kind = .configuration) ∨
        (¬ Shaped snapshot ∧ fault.kind ∈ shapeKinds) := by
  rw [load_answers]
  have meets := catalogOf_meets snapshot
  generalize catalogOf snapshot = read at meets ⊢
  cases meets with
  | met shaped fits => exact ⟨shaped, fits⟩
  | reported report unfit => exact .inl ⟨unfit, report, report.kind⟩
  | missed lacks kind => exact .inr ⟨lacks, kind⟩

/-- The tables of a database are listed, where a map is asked for. -/
def listedTables : Data :=
  .map [("databases", .map [("sales", .map [("tables", .list [.text "orders"])])])]

/-- Not every malformed snapshot is reported: a list of tables has no items to take apart. -/
theorem not_every_snapshot_reported :
    ¬ ∀ (snapshot : Data) (stage : Stage Unit) (fault : Fault),
      (Act.runOn (load snapshot) stage).1 = .error fault → fault.kind = .configuration := by
  intro reported
  have missing : (Act.runOn (load listedTables) { outside := () }).1 =
      .error (.noMember (.list [.text "orders"]) "items") := rfl
  have kind := reported listedTables { outside := () } _ missing
  exact absurd kind (by decide)

end CatalogDelta.Snapshot
