import CatalogDelta.Dataset
import CatalogDelta.Data.Integer
import CatalogDelta.Data.Shape
import CatalogDelta.Partition.Name

/-!
# Tables and partitions

Handles are copies of catalog metadata. Names are texts; what else a catalog stores about an entry
is loosely typed data and is kept as it was found.
-/

namespace CatalogDelta

/-- How the rows of a table are stored. -/
structure Serde where
  format : Data := .null
  schemaUrl : Data := .null
  parameters : List (String × Data) := []
  deriving Inhabited

/-- What the catalog knows of a table. The creation time is in seconds; zero if not recorded. -/
structure Table where
  dataset : Dataset
  location : Data := .null
  partitionKeys : List Data := []
  serde : Serde := {}
  createTime : Data := .int 0
  parameters : List (String × Data) := []
  deriving Inhabited

/-- What the catalog knows of a partition. Its values are in the order of the table's keys. -/
structure Partition where
  table : Dataset
  values : List String
  location : Data := .null
  createTime : Data := .int 0
  parameters : List (String × Data) := []
  deriving Inhabited

/-- What has an update time. -/
inductive Entity where
  | table (handle : Table)
  | partition (handle : Partition)
  deriving Inhabited

namespace Serde

def toData (serde : Serde) : Data :=
  .map [("format_name", serde.format), ("schema_url", serde.schemaUrl),
    ("parameters", .map serde.parameters)]

end Serde

namespace Table

def isPartitioned (table : Table) : Bool := !table.partitionKeys.isEmpty

def toData (table : Table) : Data :=
  .map [("database", .text table.dataset.database), ("table", .text table.dataset.table),
    ("location", table.location), ("partition_keys", .list table.partitionKeys),
    ("serde", table.serde.toData), ("create_time", table.createTime),
    ("parameters", .map table.parameters)]

end Table

namespace Partition

/-- The number of keys is not that of the values. -/
def keysDiffer (partition : Partition) (keys : List Data) : Fault :=
  .invalidValue ("Partition " ++ Data.literalTexts partition.values ++ " of " ++
    partition.table.urn ++ " does not match partition keys " ++ (Data.list keys).literal)

/-- Values under keys, in order. A key that comes again takes the later value, and stays as it came
first. -/
def underKeys (keys : List (Data.Key × Data)) (values : List String) : List (Data × String) :=
  (OrderedMap.ofList ((OrderedMap.keys keys).zip values)).map fun (key, value) =>
    ((OrderedMap.get? key keys).getD .null, value)

def spec (partition : Partition) (keys : List Data) : Except Fault (List (Data × String)) :=
  if keys.length ≠ partition.values.length then .error (partition.keysDiffer keys)
  else do return underKeys (← keys.mapM fun key => return (← key.asKey, key)) partition.values

def segment (entry : Data × String) : Except Fault String :=
  return PartitionName.segmentText (← entry.1.written) entry.2

def nameFor (partition : Partition) (keys : List Data) : Except Fault String := do
  return "/".intercalate (← (← partition.spec keys).mapM segment)

/-- The partition as data, with its name if keys are given. -/
def toData (partition : Partition) (keys : Option (List Data)) : Except Fault Data := do
  let entries : List (String × Data) :=
    [("table", .text partition.table.urn), ("values", .list (partition.values.map .text)),
     ("location", partition.location), ("create_time", partition.createTime),
     ("parameters", .map partition.parameters)]
  match keys with
  | none => return .map entries
  | some keys => return .map (entries ++ [("name", .text (← partition.nameFor keys))])

end Partition

namespace Entity

def describe : Entity → String
  | .table handle => handle.dataset.urn
  | .partition handle => handle.table.urn ++ "/" ++ "/".intercalate handle.values

/-- Where the entity is stored. -/
def location : Entity → Data
  | .table handle => handle.location
  | .partition handle => handle.location

/-- When the catalog says the entity was made, in seconds. -/
def createTime : Entity → Data
  | .table handle => handle.createTime
  | .partition handle => handle.createTime

end Entity
end CatalogDelta
