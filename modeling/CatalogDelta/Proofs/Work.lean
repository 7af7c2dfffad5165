import CatalogDelta.Proofs.Dataset
import CatalogDelta.Proofs.Decimal.Integer
import CatalogDelta.Proofs.Partition.Name
import CatalogDelta.Work

/-!
# Units of work are restored

A unit of work that a scan emits is restored from its bag, as far as its bag goes, exactly if its
names hold no separator at which they would be cut. Main statement: `restored_iff`.
-/

namespace CatalogDelta.Work

/-- The partition keys that are read from the text of a bag. -/
def splitKeys (text : String) : List String :=
  ((Text.pieces ',' text.toList).filter (!·.isEmpty)).map String.ofList

section Keys

variable {keys : List String}

theorem toList_joined (keys : List String) :
    (",".intercalate keys).toList = [','].intercalate (keys.map String.toList) :=
  String.toList_intercalate

/-- Whatever is read is there and holds no separator. -/
theorem free_of_mem_splitKeys {text key : String} (member : key ∈ splitKeys text) :
    key ≠ "" ∧ ',' ∉ key.toList := by
  obtain ⟨part, kept, rfl⟩ := List.mem_map.mp member
  obtain ⟨known, full⟩ := List.mem_filter.mp kept
  rw [Bool.not_eq_true', List.isEmpty_eq_false_iff] at full
  rw [String.toList_ofList]
  exact ⟨fun none => full (String.ofList_injective none), Text.not_mem_of_mem_pieces known⟩

theorem pieces_joined (some : keys ≠ []) (free : ∀ key ∈ keys, ',' ∉ key.toList) :
    Text.pieces ',' (",".intercalate keys).toList = keys.map String.toList := by
  rw [toList_joined]
  refine Text.pieces_intercalate (fun part member => ?_)
    fun none => some (List.map_eq_nil_iff.mp none)
  obtain ⟨key, known, rfl⟩ := List.mem_map.mp member
  exact free key known

/-- Keys are read back from their text. -/
theorem splitKeys_joined (some : keys ≠ []) (full : ∀ key ∈ keys, key ≠ "")
    (free : ∀ key ∈ keys, ',' ∉ key.toList) : splitKeys (",".intercalate keys) = keys := by
  have fullParts : ∀ part ∈ keys.map String.toList, (!part.isEmpty) = true := by
    intro part member
    obtain ⟨key, known, rfl⟩ := List.mem_map.mp member
    rw [Bool.not_eq_true', List.isEmpty_eq_false_iff]
    exact fun none => full key known (String.toList_injective none)
  rw [splitKeys, pieces_joined some free, List.filter_eq_self.mpr fullParts, List.map_map]
  simp only [Function.comp_def, String.ofList_toList, List.map_id']

/-- If the keys that are read make up the same text, then no key is empty, and the characters of a
key other than separators are those of keys that are read. -/
theorem full_of_splitKeys (some : splitKeys (",".intercalate keys) ≠ [])
    (same : ",".intercalate (splitKeys (",".intercalate keys)) = ",".intercalate keys) :
    ∀ key ∈ keys, key ≠ "" ∧ ∀ c ∈ key.toList, c ≠ ',' →
      ∃ name ∈ splitKeys (",".intercalate keys), c ∈ name.toList := by
  have cut := pieces_joined some fun key member => (free_of_mem_splitKeys member).2
  rw [same] at cut
  intro key member
  have within : ∀ piece ∈ Text.pieces ',' key.toList,
      ∃ name ∈ splitKeys (",".intercalate keys), name.toList = piece := by
    intro piece known
    have parts : keys.map String.toList ≠ [] := List.ne_nil_of_mem (List.mem_map_of_mem member)
    have inside : piece ∈ Text.pieces ',' (",".intercalate keys).toList := by
      rw [toList_joined, Text.pieces_intercalate_flatMap ',' parts]
      exact List.mem_flatMap.mpr ⟨_, List.mem_map_of_mem member, known⟩
    rw [cut] at inside
    exact List.mem_map.mp inside
  constructor
  · rintro rfl
    obtain ⟨name, known, empty⟩ := within [] List.mem_cons_self
    exact (free_of_mem_splitKeys known).1 (String.toList_injective empty)
  · intro c inside other
    obtain ⟨piece, known, there⟩ := Text.exists_piece_of_mem other inside
    obtain ⟨name, read, rfl⟩ := within piece known
    exact ⟨name, read, there⟩

end Keys

section Shape

/-- A unit of work of a table with such partition keys: it concerns a partition exactly if there are
keys, and the partition has a value for each. -/
structure HasShape (work : Work) (keys : List String) : Prop where
  keys_eq : work.table.partitionKeys = keys.map .text
  partition_eq_none_iff : work.partition = none ↔ keys = []
  even : ∀ partition, work.partition = some partition → keys.length = partition.values.length

/-- The properties of every unit of work. -/
def described (work : Work) : PropertyBag :=
  [("dataset.urn", .text work.dataset.urn), ("table.database", .text work.table.dataset.database),
    ("table.name", .text work.table.dataset.table),
    ("update_time", .text (String.ofList (Decimal.showInteger work.updateTime)))] ++
    property "table.location" work.table.location ++
    property "table.serde.format" work.table.serde.format ++
    property "table.serde.schema_url" work.table.serde.schemaUrl

/-- The properties of a partition. -/
def placed (keys : List String) (partition : Partition) : PropertyBag :=
  [("table.partition_keys", .text (",".intercalate keys)),
    ("partition.name", .text (PartitionName.render keys partition.values))] ++
    property "partition.location" partition.location

/-- All properties of a unit of work. -/
def bag (work : Work) (keys : List String) : PropertyBag :=
  work.described ++ (work.partition.map (placed keys)).getD []

variable {work : Work} {keys : List String}

theorem joinedKeys_texts (keys : List String) :
    joinedKeys (keys.map .text) = .ok (",".intercalate keys) := by
  have texts : (keys.map Data.text).mapM Data.asText? = some keys := by
    induction keys with
    | nil => rfl
    | cons key others ih =>
      rw [List.map_cons, List.mapM_cons, ih]
      rfl
  rw [joinedKeys, texts]

/-- The bag of a unit of work. -/
theorem toProperties_eq (shape : work.HasShape keys)
    (short : (Decimal.digitsOf work.updateTime.natAbs).length ≤ Decimal.digitLimit) :
    work.toProperties = .ok (work.bag keys) := by
  unfold toProperties bag
  rw [Data.numeralOf_eq_ok_iff.mpr ⟨short, rfl⟩]
  cases named : work.partition with
  | none =>
    have none : keys = [] := shape.partition_eq_none_iff.mp named
    rw [shape.keys_eq, none]
    exact congrArg Except.ok (List.append_nil _).symm
  | some partition =>
    have some : keys ≠ [] := fun none => by
      rw [shape.partition_eq_none_iff.mpr none] at named
      contradiction
    have keyed : (keys.map Data.text).isEmpty = false := by
      rw [List.isEmpty_eq_false_iff]
      exact fun none => some (List.map_eq_nil_iff.mp none)
    have name_eq := PartitionName.nameFor_eq_ok_iff.mpr ⟨shape.even partition named, rfl⟩
    rw [shape.keys_eq, keyed, joinedKeys_texts]
    dsimp only
    rw [name_eq]
    change Except.ok _ = Except.ok _
    simp only [Option.map_some, Option.getD_some, placed, described, List.append_assoc,
      List.cons_append, List.nil_append]

/-- A property is found in a bag if it counts as present. -/
theorem get?_property (key name : String) (value : Data) :
    OrderedMap.get? key (property name value) =
      if name = key ∧ value.isTruthy then some value else none := by
  unfold property
  by_cases present : value.isTruthy = true
  · simp only [present, ↓reduceIte, OrderedMap.get?, and_true]
  · simp only [present, Bool.false_eq_true, ↓reduceIte, OrderedMap.get?, and_false]

/-- A value as it is found in a bag. -/
def kept (value : Data) : Data := if value.isTruthy then value else .null

theorem property_kept (key : String) (value : Data) :
    property key (kept value) = property key value := by
  unfold kept
  split
  · rfl
  · rename_i absent
    unfold property
    rw [if_neg absent]
    rfl

/-- What a partition does not tell is found among the other properties. -/
theorem get?_bag {key : String} (keysOther : key ≠ "table.partition_keys")
    (nameOther : key ≠ "partition.name") (locationOther : key ≠ "partition.location") :
    OrderedMap.get? key (work.bag keys) = OrderedMap.get? key work.described := by
  rw [bag, OrderedMap.get?_append]
  cases work.partition with
  | none => exact Option.or_none
  | some partition =>
    simp only [Option.map_some, Option.getD_some, placed, OrderedMap.get?_append, OrderedMap.get?,
      get?_property, Ne.symm keysOther, Ne.symm nameOther, Ne.symm locationOther, ↓reduceIte,
      false_and, Option.or_none]

/-- What the other properties do not tell is found of the partition, if there is one. -/
theorem get?_bag_of_none {key : String} (absent : OrderedMap.get? key work.described = none) :
    OrderedMap.get? key (work.bag keys) =
      work.partition.bind fun partition => OrderedMap.get? key (placed keys partition) := by
  rw [bag, OrderedMap.get?_append, absent, Option.none_or]
  cases work.partition <;> rfl

/-- The other properties that may be absent. -/
theorem get?_described (work : Work) :
    (OrderedMap.get? "table.location" work.described =
        if work.table.location.isTruthy then some work.table.location else none) ∧
      (OrderedMap.get? "table.serde.format" work.described =
        if work.table.serde.format.isTruthy then some work.table.serde.format else none) ∧
      (OrderedMap.get? "table.serde.schema_url" work.described =
        if work.table.serde.schemaUrl.isTruthy then some work.table.serde.schemaUrl else none) ∧
      OrderedMap.get? "table.partition_keys" work.described = none ∧
      OrderedMap.get? "partition.name" work.described = none ∧
      OrderedMap.get? "partition.location" work.described = none := by
  simp only [described, OrderedMap.get?_append, OrderedMap.get?, get?_property, String.reduceEq,
    ↓reduceIte, false_and, true_and, Option.or_none, Option.none_or, and_self]

theorem ok_bind {α β : Type} (value : α) (next : α → Except Fault β) :
    (Except.ok value >>= next) = next value := rfl

theorem optional_eq_kept {bag : PropertyBag} {key : String} {value : Data}
    (found : OrderedMap.get? key bag = if value.isTruthy then some value else none) :
    optional bag key = kept value := by
  rw [optional, found, kept]
  split <;> rfl

theorem required_of_get? {bag : PropertyBag} {key : String} {value : Data}
    (found : OrderedMap.get? key bag = some value) : required bag key = .ok value := by
  rw [required, found]

/-- The table as it is restored with partition keys. -/
def restoredTable (work : Work) (names : List String) : Table where
  dataset := work.table.dataset
  location := kept work.table.location
  partitionKeys := names.map .text
  serde := { format := kept work.table.serde.format, schemaUrl := kept work.table.serde.schemaUrl }

theorem ofProperties_bag (shape : work.HasShape keys)
    (short : (Decimal.digitsOf work.updateTime.natAbs).length ≤ Decimal.digitLimit) :
    ofProperties (work.bag keys) = (do
      let dataset ← Dataset.ofUrn work.dataset.urn
      let names := splitKeys (",".intercalate keys)
      let partition ← partitionOf (work.bag keys) work.table.dataset names
      return {
        dataset, table := work.restoredTable names, updateTime := work.updateTime, partition }) := by
  obtain ⟨location, format, schemaUrl, keysAbsent, _, _⟩ := get?_described work
  have location_eq : optional (work.bag keys) "table.location" = kept work.table.location :=
    optional_eq_kept ((get?_bag (by decide) (by decide) (by decide)).trans location)
  have format_eq : optional (work.bag keys) "table.serde.format" = kept work.table.serde.format :=
    optional_eq_kept ((get?_bag (by decide) (by decide) (by decide)).trans format)
  have schemaUrl_eq : optional (work.bag keys) "table.serde.schema_url" =
      kept work.table.serde.schemaUrl :=
    optional_eq_kept ((get?_bag (by decide) (by decide) (by decide)).trans schemaUrl)
  have urn : OrderedMap.get? "dataset.urn" (work.bag keys) = some (.text work.dataset.urn) := rfl
  have database : OrderedMap.get? "table.database" (work.bag keys) =
      some (.text work.table.dataset.database) := rfl
  have table : OrderedMap.get? "table.name" (work.bag keys) =
      some (.text work.table.dataset.table) := rfl
  have updateTime : OrderedMap.get? "update_time" (work.bag keys) =
      some (.text (String.ofList (Decimal.showInteger work.updateTime))) := rfl
  have restoredTime :
      (Data.text (String.ofList (Decimal.showInteger work.updateTime))).toInteger =
        .ok work.updateTime := by
    rw [Data.toInteger, Data.integerOfText, String.toList_ofList,
      Decimal.parseInteger_showInteger short]
  unfold ofProperties
  simp only [required_of_get? urn, required_of_get? database, required_of_get? table,
    required_of_get? updateTime, location_eq, format_eq, schemaUrl_eq]
  rw [get?_bag_of_none keysAbsent]
  cases named : work.partition with
  | none =>
    rw [shape.partition_eq_none_iff.mp named]
    simp only [textFor, ok_bind, restoredTime, Option.bind_none, pure_bind, Data.shown]
    rfl
  | some partition =>
    have keysText : OrderedMap.get? "table.partition_keys" (placed keys partition) =
        some (.text (",".intercalate keys)) := rfl
    simp only [textFor, ok_bind, restoredTime, Option.bind_some, keysText, Data.shown]
    rfl

/-- The partition is restored as far as its name tells, which must be read as the partition keys. -/
theorem partitionOf_bag {partition : Partition} (named : work.partition = some partition)
    (full : keys ≠ []) (even : keys.length = partition.values.length) {names : List String}
    {table : Dataset} {restored : Option Partition} :
    partitionOf (work.bag keys) table names = .ok restored ↔
      ∃ values, PartitionName.parse (PartitionName.render keys partition.values) =
          .ok (names, values) ∧
        restored = some { table, values, location := kept partition.location } := by
  obtain ⟨_, _, _, _, nameAbsent, locationAbsent⟩ := get?_described work
  have name_eq : optional (work.bag keys) "partition.name" =
      .text (PartitionName.render keys partition.values) := by
    rw [optional, get?_bag_of_none nameAbsent, named]
    rfl
  have location_eq : optional (work.bag keys) "partition.location" = kept partition.location := by
    refine optional_eq_kept ?_
    rw [get?_bag_of_none locationAbsent, named, Option.bind_some, placed, OrderedMap.get?_append,
      get?_property]
    simp only [OrderedMap.get?, String.reduceEq, ↓reduceIte, Option.none_or, true_and]
  have present : (Data.text (PartitionName.render keys partition.values)).isTruthy = true := by
    rw [Data.isTruthy, Bool.not_eq_true', ← Bool.not_eq_true, String.isEmpty_iff]
    exact PartitionName.render_ne_empty full even
  unfold partitionOf
  simp only [name_eq, location_eq, present, textFor, ok_bind, PartitionName.read, Bool.not_true,
    Bool.false_eq_true, ↓reduceIte]
  cases PartitionName.parse (PartitionName.render keys partition.values) with
  | error segment =>
    refine iff_of_false (fun read => ?_) ?_
    · cases read
    · rintro ⟨_, read, _⟩
      cases read
  | ok read =>
    obtain ⟨found, values⟩ := read
    simp only [Except.mapError, ok_bind, Except.ok.injEq, Prod.mk.injEq]
    by_cases same : found = names
    · simp only [same, ne_eq, not_true_eq_false, ↓reduceIte, true_and]
      constructor
      · intro restored
        cases restored
        exact ⟨values, rfl, rfl⟩
      · rintro ⟨_, rfl, rfl⟩
        rfl
    · simp only [same, ne_eq, not_false_eq_true, ↓reduceIte, false_and, exists_false, iff_false]
      intro restored
      cases restored

/-- Without a partition there is none to restore. -/
theorem partitionOf_none (named : work.partition = none) (names : List String) (table : Dataset) :
    partitionOf (work.bag keys) table names = .ok none := by
  obtain ⟨_, _, _, _, nameAbsent, _⟩ := get?_described work
  unfold partitionOf
  rw [optional, get?_bag_of_none nameAbsent, named]
  rfl

/-- What is restored from the bag of a unit of work. -/
theorem ofProperties_eq_ok_iff (shape : work.HasShape keys)
    (short : (Decimal.digitsOf work.updateTime.natAbs).length ≤ Decimal.digitLimit)
    {restored : Work} :
    ofProperties (work.bag keys) = .ok restored ↔
      work.dataset.IsProper ∧ ∃ partition,
        partitionOf (work.bag keys) work.table.dataset (splitKeys (",".intercalate keys)) =
          .ok partition ∧
        restored = {
          dataset := work.dataset, table := work.restoredTable (splitKeys (",".intercalate keys)),
          updateTime := work.updateTime, partition } := by
  rw [ofProperties_bag shape short]
  by_cases proper : work.dataset.IsProper
  · rw [Dataset.ofUrn_urn_eq_ok_iff.mpr ⟨proper, rfl⟩, ok_bind]
    dsimp only
    cases partitionOf (work.bag keys) work.table.dataset (splitKeys (",".intercalate keys)) with
    | error fault =>
      refine iff_of_false (fun read => ?_) ?_
      · cases read
      · rintro ⟨_, _, read, _⟩
        cases read
    | ok partition =>
      constructor
      · intro read
        cases read
        exact ⟨proper, partition, rfl, rfl⟩
      · rintro ⟨_, _, read, rfl⟩
        cases read
        rfl
  · refine iff_of_false (fun read => ?_) fun both => proper both.1
    cases urn : Dataset.ofUrn work.dataset.urn with
    | error fault =>
      rw [urn] at read
      cases read
    | ok dataset => exact proper (Dataset.ofUrn_urn_eq_ok_iff.mp urn).1

/-- The unit of work that is restored with partition keys and a partition. -/
def restoredWork (work : Work) (names : List String) (partition : Option Partition) : Work :=
  { dataset := work.dataset, table := work.restoredTable names, updateTime := work.updateTime,
    partition }

theorem described_restoredWork (names : List String) (partition : Option Partition) :
    (work.restoredWork names partition).described = work.described := by
  unfold described restoredWork restoredTable
  simp only [property_kept]

/-- A partition as it is restored with values. -/
def restoredPartition (work : Work) (partition : Partition) (values : List String) : Partition :=
  { table := work.table.dataset, values, location := kept partition.location }

theorem placed_restoredPartition (partition : Partition) :
    placed keys (work.restoredPartition partition partition.values) = placed keys partition := by
  unfold placed restoredPartition
  simp only [property_kept]

/-- The texts of the keys and of the partition in a bag. -/
theorem get?_bag_of_some {partition : Partition} (named : work.partition = some partition)
    (keys : List String) :
    OrderedMap.get? "table.partition_keys" (work.bag keys) =
        some (.text (",".intercalate keys)) ∧
      OrderedMap.get? "partition.name" (work.bag keys) =
        some (.text (PartitionName.render keys partition.values)) := by
  obtain ⟨_, _, _, keysAbsent, nameAbsent, _⟩ := get?_described work
  rw [get?_bag_of_none keysAbsent, get?_bag_of_none nameAbsent, named]
  exact ⟨rfl, rfl⟩

theorem HasShape.keys_ne_nil (shape : work.HasShape keys) {partition : Partition}
    (named : work.partition = some partition) : keys ≠ [] := by
  intro none
  rw [shape.partition_eq_none_iff.mpr none] at named
  contradiction

end Shape

/-- What a scan emits of a table with such partition keys. -/
structure IsEmitted (work : Work) (keys : List String) : Prop extends work.HasShape keys where
  dataset_eq : work.dataset = work.table.dataset
  short : (Decimal.digitsOf work.updateTime.natAbs).length ≤ Decimal.digitLimit

/-- The names of the table are proper; and if the work concerns a partition, then the keys are there
and distinct, and neither they nor the values hold a separator at which they would be cut. -/
structure IsRestorable (work : Work) (keys : List String) : Prop where
  proper : work.table.dataset.IsProper
  parts : ∀ partition, work.partition = some partition →
    (∀ key ∈ keys, PartitionName.IsPlain key ∧ ',' ∉ key.toList) ∧ keys.Nodup ∧
      ∀ value ∈ partition.values, '/' ∉ value.toList

variable {work : Work} {keys : List String}

/-- The unit of work that is restored if nothing is lost. -/
def restored (work : Work) (keys : List String) : Work :=
  work.restoredWork keys
    (work.partition.map fun partition => work.restoredPartition partition partition.values)

theorem IsRestorable.splitKeys_eq (restorable : work.IsRestorable keys)
    (shape : work.HasShape keys) : splitKeys (",".intercalate keys) = keys := by
  cases named : work.partition with
  | none =>
    rw [shape.partition_eq_none_iff.mp named]
    rfl
  | some partition =>
    obtain ⟨each, _, _⟩ := restorable.parts partition named
    exact splitKeys_joined (shape.keys_ne_nil named) (fun key member => (each key member).1.1)
      fun key member => (each key member).2

/-- **What can be restored is restored.** -/
theorem IsRestorable.ofProperties (restorable : work.IsRestorable keys)
    (emitted : work.IsEmitted keys) :
    Work.ofProperties (work.bag keys) = .ok (work.restored keys) := by
  obtain ⟨shape, dataset_eq, short⟩ := emitted
  have proper : work.dataset.IsProper := dataset_eq ▸ restorable.proper
  refine (ofProperties_eq_ok_iff shape short).mpr
    ⟨proper, (work.restored keys).partition, ?_, ?_⟩
  · have partition_eq : (work.restored keys).partition = work.partition.map fun partition =>
        work.restoredPartition partition partition.values := rfl
    rw [restorable.splitKeys_eq shape, partition_eq]
    cases named : work.partition with
    | none => exact partitionOf_none named keys work.table.dataset
    | some partition =>
      obtain ⟨each, distinct, free⟩ := restorable.parts partition named
      have full := shape.keys_ne_nil named
      have even := shape.even partition named
      have parsed := PartitionName.parse_render full even distinct
        (fun key member => (each key member).1) free
      exact (partitionOf_bag named full even).mpr ⟨partition.values, parsed, rfl⟩
  · rw [restorable.splitKeys_eq shape]
    rfl

/-- What is restored has the same bag. -/
theorem IsEmitted.toProperties_restored (emitted : work.IsEmitted keys) :
    (work.restored keys).toProperties = .ok (work.bag keys) := by
  obtain ⟨shape, _, short⟩ := emitted
  have restoredShape : (work.restored keys).HasShape keys := by
    refine ⟨rfl, Option.map_eq_none_iff.trans shape.partition_eq_none_iff, fun _ named => ?_⟩
    obtain ⟨partition, original, rfl⟩ := Option.map_eq_some_iff.mp named
    exact shape.even partition original
  have same : (work.restored keys).bag keys = work.bag keys := by
    unfold restored bag
    rw [described_restoredWork]
    cases work.partition with
    | none => rfl
    | some partition => exact congrArg (work.described ++ ·) (placed_restoredPartition partition)
  rw [toProperties_eq restoredShape short, same]

/-- **Nothing else is restored** with the same properties. -/
theorem IsEmitted.restorable (emitted : work.IsEmitted keys) {other : Work} {again : PropertyBag}
    (read : Work.ofProperties (work.bag keys) = .ok other)
    (written : other.toProperties = .ok again)
    (same : ∀ key, OrderedMap.get? key again = OrderedMap.get? key (work.bag keys)) :
    work.IsRestorable keys := by
  obtain ⟨shape, dataset_eq, short⟩ := emitted
  obtain ⟨proper, partition, readPartition, rfl⟩ := (ofProperties_eq_ok_iff shape short).mp read
  refine ⟨dataset_eq ▸ proper, fun original named => ?_⟩
  have full := shape.keys_ne_nil named
  have even := shape.even original named
  obtain ⟨values, parsed, rfl⟩ := (partitionOf_bag named full even).mp readPartition
  obtain ⟨cut, evenRead⟩ := PartitionName.length_pieces_of_parse parsed
  have someNames : splitKeys (",".intercalate keys) ≠ [] := by
    intro none
    rw [none, List.length_nil, List.length_eq_zero_iff] at cut
    exact Text.pieces_ne_nil _ _ cut
  have restoredShape : (work.restoredWork (splitKeys (",".intercalate keys))
      (some (work.restoredPartition original values))).HasShape
        (splitKeys (",".intercalate keys)) := by
    refine ⟨rfl, iff_of_false nofun someNames, fun _ found => ?_⟩
    cases found
    exact evenRead
  have bag_eq := (toProperties_eq restoredShape short).symm.trans written
  cases bag_eq
  -- The bags agree on the texts of the keys and of the partition.
  have namedAgain : (work.restoredWork (splitKeys (",".intercalate keys))
      (some (work.restoredPartition original values))).partition =
        some (work.restoredPartition original values) := rfl
  obtain ⟨keysText, nameText⟩ := get?_bag_of_some named keys
  obtain ⟨keysAgain, nameAgain⟩ :=
    get?_bag_of_some namedAgain (splitKeys (",".intercalate keys))
  have joined := (keysAgain.symm.trans (same _)).trans keysText
  have rendered := (nameAgain.symm.trans (same _)).trans nameText
  have joined_eq := Data.text.inj (Option.some.inj joined)
  have rendered_eq := Data.text.inj (Option.some.inj rendered)
  obtain ⟨plainNames, _⟩ := PartitionName.not_mem_of_parse parsed
  have fullKeys := full_of_splitKeys someNames joined_eq
  have plain : ∀ key ∈ keys, PartitionName.IsPlain key := by
    intro key member
    obtain ⟨there, found⟩ := fullKeys key member
    refine ⟨there, fun slash => ?_, fun sign => ?_⟩
    · obtain ⟨name, known, inside⟩ := found '/' slash (by decide)
      exact (plainNames name known).2.1 inside
    · obtain ⟨name, known, inside⟩ := found '=' sign (by decide)
      exact (plainNames name known).2.2 inside
  have within := PartitionName.subset_of_parse_render plain even parsed
  have free : ∀ key ∈ keys, ',' ∉ key.toList := fun key member =>
    (free_of_mem_splitKeys (within member)).2
  have names_eq := splitKeys_joined full (fun key member => (plain key member).1) free
  rw [names_eq] at parsed rendered_eq
  obtain ⟨distinct, freeValues⟩ :=
    PartitionName.distinct_of_parse_render full even parsed rendered_eq
  exact ⟨fun key member => ⟨plain key member, free key member⟩, distinct, freeValues⟩

/-- **A unit of work survives its bag exactly if it holds no stray separator.** What a scan emits is
restored from its bag, with the same properties in whatever order, exactly if the names of its table
are proper and, if it concerns a partition, the keys are there, distinct and free of the separators,
and the values are free of those between segments. Then its dataset, its table, the partition keys
and values and the update time are restored, and the bag is the same. -/
theorem restored_iff (emitted : work.IsEmitted keys) :
    ∃ bag, work.toProperties = .ok bag ∧
      ((∃ other again, Work.ofProperties bag = .ok other ∧ other.toProperties = .ok again ∧
        ∀ key, OrderedMap.get? key again = OrderedMap.get? key bag) ↔ work.IsRestorable keys) ∧
      (work.IsRestorable keys → ∃ other, Work.ofProperties bag = .ok other ∧
        other.toProperties = .ok bag ∧ other.dataset = work.dataset ∧
        other.table.dataset = work.table.dataset ∧
        other.table.partitionKeys = work.table.partitionKeys ∧
        other.partition.map (·.values) = work.partition.map (·.values) ∧
        other.updateTime = work.updateTime) := by
  have again := emitted.toProperties_restored
  refine ⟨work.bag keys, toProperties_eq emitted.toHasShape emitted.short, ⟨?_, fun restorable => ?_⟩,
    fun restorable => ?_⟩
  · rintro ⟨other, bag, read, written, same⟩
    exact emitted.restorable read written same
  · exact ⟨_, _, restorable.ofProperties emitted, again, fun _ => rfl⟩
  · refine ⟨_, restorable.ofProperties emitted, again, rfl, rfl, emitted.keys_eq.symm, ?_, rfl⟩
    exact Option.map_map _ _ _

/-- The orders of one hour. -/
def hourOfOrders : Work where
  dataset := ⟨"sales", "orders"⟩
  table := {
    dataset := ⟨"sales", "orders"⟩, location := .text "s3://lake/sales/orders"
    partitionKeys := [.text "ds", .text "hr"] }
  updateTime := 1736942400000
  partition := some { table := ⟨"sales", "orders"⟩, values := ["2025-01-15", "rush=03"] }

theorem hourOfOrders_restored :
    ∃ bag, hourOfOrders.toProperties = .ok bag ∧ ∃ other, Work.ofProperties bag = .ok other ∧
      other.toProperties = .ok bag ∧ other.updateTime = 1736942400000 := by
  have shape : hourOfOrders.HasShape ["ds", "hr"] := by
    refine ⟨rfl, iff_of_false nofun nofun, fun _ named => ?_⟩
    cases named
    rfl
  have emitted : hourOfOrders.IsEmitted ["ds", "hr"] := ⟨shape, rfl, by decide⟩
  have restorable : hourOfOrders.IsRestorable ["ds", "hr"] := by
    refine ⟨by decide, fun _ named => ?_⟩
    cases named
    unfold PartitionName.IsPlain
    decide
  obtain ⟨bag, written, _, restores⟩ := restored_iff emitted
  obtain ⟨other, read, again, _, _, _, _, updateTime⟩ := restores restorable
  exact ⟨bag, written, other, read, again, updateTime⟩

end CatalogDelta.Work
