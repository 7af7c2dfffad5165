import CatalogDelta.Catalog.Client

/-!
# Catalogs in memory

A catalog maps databases to their tables and datasets to their partitions, all in the order of their
addition. A table that is added again is replaced in its place and keeps its partitions.
-/

namespace CatalogDelta

/-- Databases with their tables, and the partitions of the tables. -/
structure Catalog where
  databases : OrderedMap String (OrderedMap String Table) := []
  partitions : OrderedMap Dataset (List Partition) := []
  deriving Inhabited

namespace Catalog

/-- The catalog knows no such table. -/
def unknownTable (dataset : Dataset) : Fault := .missingKey ("Unknown table: " ++ dataset.urn)

/-- The catalog knows no such database. -/
def unknownDatabase (database : String) : Fault := .missingKey ("Unknown database: " ++ database)

/-- The tables of a database; none if the database is not there. -/
def tablesOf (catalog : Catalog) (database : String) : OrderedMap String Table :=
  (OrderedMap.get? database catalog.databases).getD []

/-- Add a database, unless it is there. -/
def addDatabase (catalog : Catalog) (database : String) : Catalog :=
  if OrderedMap.hasKey database catalog.databases then catalog
  else { catalog with databases := OrderedMap.put database [] catalog.databases }

/-- Add a table and, if need be, its database. -/
def addTable (catalog : Catalog) (table : Table) : Catalog :=
  let dataset := table.dataset
  { databases :=
      OrderedMap.put dataset.database
        (OrderedMap.put dataset.table table (catalog.tablesOf dataset.database))
        catalog.databases
    partitions :=
      if OrderedMap.hasKey dataset catalog.partitions then catalog.partitions
      else OrderedMap.put dataset [] catalog.partitions }

def addPartition (catalog : Catalog) (partition : Partition) : Except Fault Catalog :=
  match OrderedMap.get? partition.table catalog.partitions with
  | none => .error (unknownTable partition.table)
  | some earlier =>
    .ok { catalog with
      partitions := OrderedMap.put partition.table (earlier ++ [partition]) catalog.partitions }

def dropDatabase (catalog : Catalog) (database : String) : Catalog :=
  { databases := OrderedMap.erase database catalog.databases
    partitions :=
      (OrderedMap.keys (catalog.tablesOf database)).foldl
        (fun partitions name => OrderedMap.erase ⟨database, name⟩ partitions) catalog.partitions }

def listDatabases (catalog : Catalog) : List String := OrderedMap.keys catalog.databases

def listTables (catalog : Catalog) (database : String) : Except Fault (List Table) :=
  match OrderedMap.get? database catalog.databases with
  | none => .error (unknownDatabase database)
  | some tables => .ok (OrderedMap.values tables)

def listPartitions (catalog : Catalog) (dataset : Dataset) : Except Fault (List Partition) :=
  match OrderedMap.get? dataset catalog.partitions with
  | none => .error (unknownTable dataset)
  | some partitions => .ok partitions

/-- Everything in the catalog: the databases with their tables and the partitions of these. -/
def contents (catalog : Catalog) : List (String × List (Table × List Partition)) :=
  catalog.databases.map fun (database, tables) =>
    (database, (OrderedMap.values tables).map fun table =>
      (table, (OrderedMap.get? table.dataset catalog.partitions).getD []))

def clientKind : String := "InMemoryCatalogClient"

def client {σ : Type} (catalog : σ → Catalog) : Client σ where
  kind := clientKind
  listDatabases := Act.view fun outside => (catalog outside).listDatabases
  listTables database := do
    Act.settle (← Act.view fun outside => (catalog outside).listTables database)
  listPartitions table := do
    Act.settle (← Act.view fun outside => (catalog outside).listPartitions table.dataset)

end Catalog
end CatalogDelta
