import CatalogDelta.Catalog.Basic
import CatalogDelta.Clock.Iso
import CatalogDelta.Data.Integer
import CatalogDelta.Data.Shape

/-!
# Catalog snapshots

A snapshot is a document that maps databases to tables and tables to their metadata and partitions.
Parts that are missing or empty count as empty; a part of the wrong shape is a fault.
-/

namespace CatalogDelta.Snapshot

def badCreateTime (place : String) (value : Data) : Fault :=
  .configuration ("Invalid create_time at " ++ place) (some "create_time") value

/-- Whole seconds since the start of 1970 of a moment, cut toward zero. -/
def secondsOf (moment : Moment) : Except Fault Int := Data.integerOfFloat moment.epochSeconds

/-- A text with universal time, which `Z` stands for, written as an offset. -/
def zoned (text : String) : String :=
  String.ofList (text.toList.flatMap fun c => if c = 'Z' then "+00:00".toList else [c])

/-- A creation time that is written as a moment. -/
def writtenTimeOf (place : String) (value : Data) : Except Fault Int := do
  match Iso.moment? (zoned (← value.written)) with
  | none => .error (badCreateTime place value)
  | some moment => secondsOf moment

/-- A creation time in seconds: a number, a moment or the text of one; zero if there is none. -/
def createTimeOf (place : String) (value : Data) : Except Fault Int :=
  match value with
  | .null => .ok 0
  | .bool _ => .error (badCreateTime place value)
  | .int seconds => .ok seconds
  | .float seconds => Data.integerOfFloat seconds
  | .moment moment => secondsOf moment
  | other => writtenTimeOf place other

def tableOf (dataset : Dataset) (spec : Data) : Except Fault Table := do
  let serde := (← spec.entry "serde").orEmpty
  let location ← spec.entry "location"
  let partitionKeys ← (← spec.entry "partition_keys").itemsIfAny
  let format ← serde.entry "format"
  let schemaUrl ← serde.entry "schema_url"
  let serdeParameters ← (← serde.entry "parameters").orEmpty.asEntries
  let createTime ← createTimeOf dataset.urn (← spec.entry "create_time")
  let parameters ← (← spec.entry "parameters").orEmpty.asEntries
  return {
    dataset, location, partitionKeys
    serde := { format, schemaUrl, parameters := serdeParameters }
    createTime := .int createTime
    parameters }

/-- Where a partition stands in messages. -/
def partitionPlace (table : Table) : String := table.dataset.urn ++ " partition"

/-- The name of a partition, if it is written by name. -/
def nameOf? (spec : Data) : Except Fault (Option Data) := do
  if !(← spec.mentions "name") then return none
  match spec with
  | .map entries => return OrderedMap.get? "name" entries
  | other => throw (.wrongType (other.typeName ++ " indices must be integers"))

def namedValues (table : Table) (name : Data) : Except Fault (List String) := do
  match PartitionName.parse (← name.written) with
  | .error segment =>
    .error (.configuration ("Invalid partition name segment: " ++ Text.quoted segment)
      (some "name") name)
  | .ok (keys, values) =>
    if table.partitionKeys.map Data.asText? = keys.map some then .ok values
    else
      .error (.configuration
        ("Partition keys of " ++ name.literal ++ " do not match " ++ partitionPlace table)
        (some "name") name)

/-- The values of a partition, by its name or else as they are listed. -/
def valuesOf (table : Table) (spec : Data) : Except Fault (List String) := do
  match ← nameOf? spec with
  | some name => namedValues table name
  | none => (← (← spec.entry "values").itemsIfAny).mapM Data.written

def partitionOf (table : Table) (spec : Data) : Except Fault Partition := do
  let values ← valuesOf table spec
  if values.length ≠ table.partitionKeys.length then
    throw (.configuration
      ("Partition value count does not match keys for " ++ partitionPlace table) (some "values")
      (.list (values.map .text)))
  let location ← spec.entry "location"
  let createTime ← createTimeOf (partitionPlace table) (← spec.entry "create_time")
  let parameters ← (← spec.entry "parameters").orEmpty.asEntries
  return { table := table.dataset, values, location, createTime := .int createTime, parameters }

def addPartitions (table : Table) (catalog : Catalog) : List Data → Except Fault Catalog
  | [] => .ok catalog
  | spec :: others => do
    let partition ← partitionOf table spec
    addPartitions table (← catalog.addPartition partition) others

def addTables (database : String) (catalog : Catalog) :
    List (String × Data) → Except Fault Catalog
  | [] => .ok catalog
  | (name, value) :: others => do
    let spec := value.orEmpty
    let table ← tableOf ⟨database, name⟩ spec
    let partitions ← (← spec.entry "partitions").itemsIfAny
    addTables database (← addPartitions table (catalog.addTable table) partitions) others

def addDatabases (catalog : Catalog) : List (String × Data) → Except Fault Catalog
  | [] => .ok catalog
  | (database, value) :: others => do
    let tables ← (← value.orEmpty.entry "tables").orEmpty.entries
    addDatabases (← addTables database (catalog.addDatabase database) tables) others

def databasesOf (snapshot : Data) : Except Fault (List (String × Data)) :=
  match snapshot.field? "databases" with
  | some (.map databases) => .ok databases
  | _ =>
    .error (.configuration "Catalog snapshot needs a 'databases' mapping" (some "databases"))

def catalogOf (snapshot : Data) : Except Fault Catalog := do
  addDatabases {} (← databasesOf snapshot)

def load {σ : Type} (snapshot : Data) : Act σ Catalog := do
  let catalog ← Act.settle (catalogOf snapshot)
  let count := (← Act.settle (databasesOf snapshot)).length
  Act.note Level.debug Author.catalog
    ("Loaded catalog snapshot with " ++ toString count ++ " database(s)")
  return catalog

end CatalogDelta.Snapshot
