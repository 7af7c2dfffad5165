import CatalogDelta.Catalog.Snapshot
import CatalogDelta.Proofs.Act.Gives
import CatalogDelta.Proofs.OrderedMap
import CatalogDelta.Proofs.Partition.Name

/-!
# What a snapshot says

A snapshot that is read well gives each of its tables a handle and each partition of a table one,
in the order in which it names them, and the handles say what the snapshot says.
-/

namespace CatalogDelta

open Act (exists_of_bind_eq_ok)

namespace Data

def IsMap (value : Data) : Prop := ∃ entries, value = .map entries

/-- What stands under a key of a map; null if nothing does. -/
def part (value : Data) (key : String) : Data := (value.field? key).getD .null

/-- The entries of a map; a value of another type has none. -/
def members : Data → List (String × Data)
  | .map entries => entries
  | _ => []

/-- What going through a value yields; nothing if one cannot go through it. -/
def elements (value : Data) : List Data := value.itemsIfAny.toOption.getD []

variable {value : Data}

theorem entry_eq_ok_iff {key : String} {found : Data} :
    value.entry key = .ok found ↔ value.IsMap ∧ found = value.part key := by
  constructor
  · intro read
    cases value with
    | map entries =>
      cases read
      exact ⟨⟨entries, rfl⟩, rfl⟩
    | _ => exact nomatch read
  · rintro ⟨⟨held, rfl⟩, rfl⟩
    rfl

theorem entries_eq_ok_iff {found : List (String × Data)} :
    value.entries = .ok found ↔ value.IsMap ∧ found = value.members := by
  constructor
  · intro read
    cases value with
    | map held =>
      cases read
      exact ⟨⟨_, rfl⟩, rfl⟩
    | _ => exact nomatch read
  · rintro ⟨⟨held, rfl⟩, rfl⟩
    rfl

theorem written_eq_ok_iff {text : String} :
    value.written = .ok text ↔ value.isWritable = true ∧ text = value.shown := by
  unfold written
  by_cases writable : value.isWritable
  · simp only [writable, ↓reduceIte, Except.ok.injEq, true_and, eq_comm]
  · simp only [writable, Bool.false_eq_true, ↓reduceIte, reduceCtorEq, false_and]

theorem mapM_written_eq_ok {items : List Data} {texts : List String}
    (read : items.mapM written = .ok texts) : texts = items.map shown := by
  induction items generalizing texts with
  | nil =>
    cases read
    rfl
  | cons item others ih =>
    rw [List.mapM_cons] at read
    obtain ⟨text, textRead, read⟩ := exists_of_bind_eq_ok read
    obtain ⟨rest, restRead, read⟩ := exists_of_bind_eq_ok read
    cases read
    rw [List.map_cons, (written_eq_ok_iff.mp textRead).2, ih restRead]

theorem elements_of_itemsIfAny {items : List Data} (read : value.itemsIfAny = .ok items) :
    value.elements = items := by
  rw [elements, read]
  rfl

/-- An empty map says as much as a value that does not count as present. -/
theorem part_orEmpty (value : Data) (key : String) : value.orEmpty.part key = value.part key := by
  unfold orEmpty
  by_cases present : value.isTruthy
  · rw [if_pos present]
  · rw [if_neg present]
    cases value with
    | map entries =>
      cases entries with
      | nil => rfl
      | cons entry others => exact absurd rfl present
    | _ => rfl

theorem members_orEmpty (value : Data) : value.orEmpty.members = value.members := by
  unfold orEmpty
  by_cases present : value.isTruthy
  · rw [if_pos present]
  · rw [if_neg present]
    cases value with
    | map entries =>
      cases entries with
      | nil => rfl
      | cons entry others => exact absurd rfl present
    | _ => rfl

theorem entry_orEmpty {key : String} {found : Data} (read : value.orEmpty.entry key = .ok found) :
    found = value.part key := by
  rw [← part_orEmpty]
  exact (entry_eq_ok_iff.mp read).2

end Data

namespace Snapshot

/-! ## What handles say -/

/-- The databases that a snapshot names, in its order. -/
def sourceDatabases (snapshot : Data) : List (String × Data) := (snapshot.part "databases").members

/-- The tables of a database. -/
def sourceTables (database : Data) : List (String × Data) := (database.part "tables").members

/-- The partitions of a table. -/
def sourcePartitions (table : Data) : List Data := (table.part "partitions").elements

/-- A handle says of a table what the snapshot says of it. -/
structure DescribesTable (database : String) (source : String × Data) (table : Table) : Prop where
  dataset : table.dataset = ⟨database, source.1⟩
  location : table.location = source.2.part "location"
  partitionKeys : table.partitionKeys = (source.2.part "partition_keys").elements
  format : table.serde.format = (source.2.part "serde").part "format"
  schemaUrl : table.serde.schemaUrl = (source.2.part "serde").part "schema_url"
  serdeParameters : ((source.2.part "serde").part "parameters").orEmpty.asEntries =
    .ok table.serde.parameters
  createTime : ∃ seconds, createTimeOf table.dataset.urn (source.2.part "create_time") =
    .ok seconds ∧ table.createTime = .int seconds
  parameters : (source.2.part "parameters").orEmpty.asEntries = .ok table.parameters

/-- A handle says of a partition what the snapshot says of it: it belongs to the table, it has a
value for each key, and a name says which value is whose. -/
structure DescribesPartition (table : Table) (source : Data) (partition : Partition) : Prop where
  owner : partition.table = table.dataset
  count : partition.values.length = table.partitionKeys.length
  named : ∀ name, source.field? "name" = some name → ∃ segments : List (String × String),
    Text.pieces '/' name.shown.toList = segments.map PartitionName.segmentChars ∧
      (∀ segment ∈ segments, PartitionName.IsPlain segment.1) ∧
      table.partitionKeys = segments.map (fun segment => .text segment.1) ∧
      partition.values = segments.map (·.2)
  unnamed : source.field? "name" = none →
    partition.values = (source.part "values").elements.map Data.shown
  location : partition.location = source.part "location"
  createTime : ∃ seconds, createTimeOf (partitionPlace table) (source.part "create_time") =
    .ok seconds ∧ partition.createTime = .int seconds
  parameters : (source.part "parameters").orEmpty.asEntries = .ok partition.parameters

theorem tableOf_describes {database : String} {source : String × Data} {table : Table}
    (read : tableOf ⟨database, source.1⟩ source.2.orEmpty = .ok table) :
    DescribesTable database source table := by
  unfold tableOf at read
  obtain ⟨serde, serdeRead, read⟩ := exists_of_bind_eq_ok read
  obtain ⟨location, locationRead, read⟩ := exists_of_bind_eq_ok read
  obtain ⟨keys, keysRead, read⟩ := exists_of_bind_eq_ok read
  obtain ⟨partitionKeys, itemsRead, read⟩ := exists_of_bind_eq_ok read
  obtain ⟨format, formatRead, read⟩ := exists_of_bind_eq_ok read
  obtain ⟨schemaUrl, schemaUrlRead, read⟩ := exists_of_bind_eq_ok read
  obtain ⟨options, optionsRead, read⟩ := exists_of_bind_eq_ok read
  obtain ⟨serdeParameters, serdeParametersRead, read⟩ := exists_of_bind_eq_ok read
  obtain ⟨time, timeRead, read⟩ := exists_of_bind_eq_ok read
  obtain ⟨createTime, createTimeRead, read⟩ := exists_of_bind_eq_ok read
  obtain ⟨more, moreRead, read⟩ := exists_of_bind_eq_ok read
  obtain ⟨parameters, parametersRead, read⟩ := exists_of_bind_eq_ok read
  cases read
  obtain rfl := Data.entry_orEmpty serdeRead
  obtain rfl := Data.entry_orEmpty locationRead
  obtain rfl := Data.entry_orEmpty keysRead
  obtain rfl := Data.entry_orEmpty formatRead
  obtain rfl := Data.entry_orEmpty schemaUrlRead
  obtain rfl := Data.entry_orEmpty optionsRead
  obtain rfl := Data.entry_orEmpty timeRead
  obtain rfl := Data.entry_orEmpty moreRead
  exact ⟨rfl, rfl, (Data.elements_of_itemsIfAny itemsRead).symm, rfl, rfl, serdeParametersRead,
    ⟨createTime, createTimeRead, rfl⟩, parametersRead⟩

/-- A map names a partition by what stands under its key for names. -/
theorem nameOf?_eq {source : Data} (isMap : source.IsMap) :
    nameOf? source = .ok (source.field? "name") := by
  obtain ⟨entries, rfl⟩ := isMap
  have mentioned : entries.any (·.1 = "name") = OrderedMap.hasKey "name" entries := by
    rw [Bool.eq_iff_iff, List.any_eq_true, OrderedMap.hasKey_iff_mem_keys]
    simp only [decide_eq_true_eq, OrderedMap.keys, List.mem_map]
  simp only [nameOf?, Data.mentions, mentioned]
  by_cases there : OrderedMap.hasKey "name" entries
  · simp only [there]
    rfl
  · have absent : OrderedMap.get? "name" entries = none :=
      Option.not_isSome_iff_eq_none.mp there
    simp only [there, Data.field?, absent]
    rfl

theorem eq_texts_of_asText? {items : List Data} {texts : List String}
    (same : items.map Data.asText? = texts.map some) : items = texts.map .text := by
  induction items generalizing texts with
  | nil =>
    rw [List.map_eq_nil_iff.mp same.symm]
    rfl
  | cons item others ih =>
    cases texts with
    | nil => exact nomatch same
    | cons text rest =>
      obtain ⟨first, later⟩ := List.cons.inj same
      cases item with
      | text content =>
        obtain rfl := Option.some.inj first
        rw [ih later, List.map_cons]
      | _ => exact nomatch first

theorem namedValues_eq_ok {table : Table} {name : Data} {values : List String}
    (read : namedValues table name = .ok values) :
    ∃ segments : List (String × String),
      Text.pieces '/' name.shown.toList = segments.map PartitionName.segmentChars ∧
        (∀ segment ∈ segments, PartitionName.IsPlain segment.1) ∧
        table.partitionKeys = segments.map (fun segment => .text segment.1) ∧
        values = segments.map (·.2) := by
  obtain ⟨text, textRead, read⟩ := exists_of_bind_eq_ok read
  obtain rfl := (Data.written_eq_ok_iff.mp textRead).2
  split at read
  · exact nomatch read
  · rename_i keys found parsed
    split at read
    · rename_i fits
      cases read
      obtain ⟨segments, whole, plain, rfl, rfl⟩ := PartitionName.parse_eq_ok_iff.mp parsed
      have keys := eq_texts_of_asText? fits
      rw [List.map_map] at keys
      exact ⟨segments, whole, plain, keys, rfl⟩
    · exact nomatch read

theorem valuesOf_eq_ok {table : Table} {source : Data} {values : List String}
    (isMap : source.IsMap) (read : valuesOf table source = .ok values) :
    (∀ name, source.field? "name" = some name → namedValues table name = .ok values) ∧
      (source.field? "name" = none →
        values = (source.part "values").elements.map Data.shown) := by
  unfold valuesOf at read
  rw [nameOf?_eq isMap] at read
  cases named : source.field? "name" with
  | some name =>
    rw [named] at read
    refine ⟨fun other same => ?_, fun none => nomatch none⟩
    rw [← Option.some.inj same]
    exact read
  | none =>
    rw [named] at read
    refine ⟨fun other same => (nomatch same), fun _ => ?_⟩
    have read : (source.entry "values" >>= fun listed => listed.itemsIfAny >>= fun items =>
      items.mapM Data.written) = .ok values := read
    obtain ⟨listed, listedRead, rest⟩ := exists_of_bind_eq_ok read
    obtain ⟨items, itemsRead, shown⟩ := exists_of_bind_eq_ok rest
    rw [(Data.entry_eq_ok_iff.mp listedRead).2] at itemsRead
    rw [Data.elements_of_itemsIfAny itemsRead]
    exact Data.mapM_written_eq_ok shown

theorem partitionOf_describes {table : Table} {source : Data} {partition : Partition}
    (read : partitionOf table source = .ok partition) :
    DescribesPartition table source partition := by
  unfold partitionOf at read
  obtain ⟨values, valuesRead, read⟩ := exists_of_bind_eq_ok read
  split at read
  · exact nomatch read
  · rename_i fits
    obtain ⟨location, locationRead, read⟩ := exists_of_bind_eq_ok read
    obtain ⟨time, timeRead, read⟩ := exists_of_bind_eq_ok read
    obtain ⟨createTime, createTimeRead, read⟩ := exists_of_bind_eq_ok read
    obtain ⟨more, moreRead, read⟩ := exists_of_bind_eq_ok read
    obtain ⟨parameters, parametersRead, read⟩ := exists_of_bind_eq_ok read
    cases read
    obtain ⟨isMap, rfl⟩ := Data.entry_eq_ok_iff.mp locationRead
    obtain ⟨-, rfl⟩ := Data.entry_eq_ok_iff.mp timeRead
    obtain ⟨-, rfl⟩ := Data.entry_eq_ok_iff.mp moreRead
    obtain ⟨named, unnamed⟩ := valuesOf_eq_ok isMap valuesRead
    exact ⟨rfl, not_not.mp fits, fun name there => namedValues_eq_ok (named name there), unnamed,
      rfl, ⟨createTime, createTimeRead, rfl⟩, parametersRead⟩

end Snapshot
end CatalogDelta
