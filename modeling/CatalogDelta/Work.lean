import CatalogDelta.Data.Integer
import CatalogDelta.Handle

/-!
# Units of work

A unit of work addresses one changed table or one changed partition. Downstream jobs receive it as a
flat bag of properties; what is absent is left out of the bag.
-/

namespace CatalogDelta

/-- One changed table, or one changed partition of a table, with its update time in milliseconds. -/
structure Work where
  dataset : Dataset
  table : Table
  updateTime : Int
  partition : Option Partition := none
  deriving Inhabited

abbrev PropertyBag := OrderedMap String Data

namespace Work

def isPartition (work : Work) : Bool := work.partition.isSome

/-- The name of the partition, if the work concerns one. -/
def partitionName (work : Work) : Except Fault (Option String) :=
  match work.partition with
  | none => .ok none
  | some partition => do return some (← partition.nameFor work.table.partitionKeys)

/-- One property, if its value counts as present. -/
def property (key : String) (value : Data) : PropertyBag :=
  if value.isTruthy then [(key, value)] else []

def joinedKeys : List Data → Except Fault String
  | keys =>
    match keys.mapM Data.asText? with
    | some names => .ok (",".intercalate names)
    | none => .error (.wrongType "sequence item: expected str instance")

def toProperties (work : Work) : Except Fault PropertyBag := do
  let updateTime ← Data.numeralOf work.updateTime
  let base : PropertyBag :=
    [("dataset.urn", .text work.dataset.urn), ("table.database", .text work.table.dataset.database),
     ("table.name", .text work.table.dataset.table),
     ("update_time", .text updateTime)]
  let described := base ++ property "table.location" work.table.location ++
    property "table.serde.format" work.table.serde.format ++
    property "table.serde.schema_url" work.table.serde.schemaUrl
  let keyed ←
    if work.table.partitionKeys.isEmpty then pure described
    else do
      pure (described ++ [("table.partition_keys", .text (← joinedKeys work.table.partitionKeys))])
  match work.partition with
  | none => return keyed
  | some partition =>
    let name ← partition.nameFor work.table.partitionKeys
    return keyed ++ [("partition.name", .text name)] ++
      property "partition.location" partition.location

/-- A property that must be there. -/
def required (bag : PropertyBag) (key : String) : Except Fault Data :=
  match OrderedMap.get? key bag with
  | some value => .ok value
  | none => .error (.missingKey key)

/-- A property, null if it is not there. -/
def optional (bag : PropertyBag) (key : String) : Data := (OrderedMap.get? key bag).getD .null

/-- The text that a value must be for a method of texts. -/
def textFor (method : String) : Data → Except Fault String
  | .text value => .ok value
  | other => .error (.noMember other method)

/-- The partition that a bag names, if it names one. -/
def partitionOf (bag : PropertyBag) (table : Dataset) (keys : List String) :
    Except Fault (Option Partition) := do
  let named := optional bag "partition.name"
  if !named.isTruthy then return none
  let name ← textFor "split" named
  let (nameKeys, values) ← PartitionName.read name
  if nameKeys ≠ keys then
    throw (.invalidValue ("Partition name " ++ Text.quoted name ++
      " does not match partition keys " ++ Data.literalTexts keys))
  return some { table, values, location := optional bag "partition.location" }

/-- Restore a unit of work from its bag; creation times and parameters are not in it. -/
def ofProperties (bag : PropertyBag) : Except Fault Work := do
  let dataset ← Dataset.ofUrn (← textFor "partition" (← required bag "dataset.urn"))
  let keysText ←
    match OrderedMap.get? "table.partition_keys" bag with
    | none => pure ""
    | some value => textFor "split" value
  let keys := ((Text.pieces ',' keysText.toList).filter (!·.isEmpty)).map String.ofList
  let database ← required bag "table.database"
  let name ← required bag "table.name"
  let table : Table :=
    { dataset := ⟨database.shown, name.shown⟩
      location := optional bag "table.location"
      partitionKeys := keys.map .text
      serde :=
        { format := optional bag "table.serde.format"
          schemaUrl := optional bag "table.serde.schema_url" } }
  let partition ← partitionOf bag table.dataset keys
  let updateTime ← (← required bag "update_time").toInteger
  return { dataset, table, updateTime, partition }

def toData (work : Work) : Except Fault Data := do
  let partition ←
    match work.partition with
    | none => pure Data.null
    | some partition => partition.toData (some work.table.partitionKeys)
  return .map [("dataset", .text work.dataset.urn), ("update_time", .int work.updateTime),
    ("table", work.table.toData), ("partition", partition)]

end Work
end CatalogDelta
