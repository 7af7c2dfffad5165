import CatalogDelta.Catalog.Basic
import Mathlib.Data.List.DropRight

/-!
# Histories of a catalog

A catalog comes about by calls that add and drop. A call may fail, and then leaves the catalog as it
is. The partitions of a table are those that its current life has seen: the calls from its first
addition on since its database was last dropped.
-/

namespace CatalogDelta

/-- A call that changes a catalog. -/
inductive CatalogChange where
  | addDatabase (database : String)
  | addTable (table : Table)
  | addPartition (partition : Partition)
  | dropDatabase (database : String)

namespace CatalogChange

def drops (database : String) : CatalogChange → Bool
  | .dropDatabase dropped => dropped = database
  | _ => false

def adds (dataset : Dataset) : CatalogChange → Bool
  | .addTable table => table.dataset = dataset
  | _ => false

/-- The partition that the call offers to a table. -/
def offered? (dataset : Dataset) : CatalogChange → Option Partition
  | .addPartition partition => if partition.table = dataset then some partition else none
  | _ => none

end CatalogChange

namespace Catalog

def call (catalog : Catalog) : CatalogChange → Except Fault Catalog
  | .addDatabase database => .ok (catalog.addDatabase database)
  | .addTable table => .ok (catalog.addTable table)
  | .addPartition partition => catalog.addPartition partition
  | .dropDatabase database => .ok (catalog.dropDatabase database)

/-- The catalog once a call has been answered. -/
def apply (catalog : Catalog) (change : CatalogChange) : Catalog :=
  match catalog.call change with
  | .ok changed => changed
  | .error _ => catalog

/-- The catalog that calls make of an empty one. -/
def after (changes : List CatalogChange) : Catalog := changes.foldl apply {}

/-- The calls since the table was first added after the last drop of its database; none if it was
not added since. -/
def lifeOf (dataset : Dataset) (changes : List CatalogChange) : List CatalogChange :=
  (changes.rtakeWhile fun change => !change.drops dataset.database).dropWhile fun change =>
    !change.adds dataset

/-- The table stands among those that the catalog lists for its database. -/
def Lists (catalog : Catalog) (dataset : Dataset) : Prop :=
  ∃ tables, catalog.listTables dataset.database = .ok tables ∧
    dataset ∈ tables.map (·.dataset)

/-- What the listings of a catalog promise to each other: exactly the listed databases have tables
to list, exactly the listed tables have partitions to list, tables of a database are of that
database and have distinct names, and partitions of a table are of that table. -/
structure Consistent (catalog : Catalog) : Prop where
  opens : ∀ database,
    (∃ tables, catalog.listTables database = .ok tables) ↔ database ∈ catalog.listDatabases
  partitioned : ∀ dataset,
    (∃ partitions, catalog.listPartitions dataset = .ok partitions) ↔ catalog.Lists dataset
  distinct : ∀ database tables, catalog.listTables database = .ok tables →
    (tables.map (·.dataset.table)).Nodup
  housed : ∀ database tables, catalog.listTables database = .ok tables →
    ∀ table ∈ tables, table.dataset.database = database
  owned : ∀ dataset partitions, catalog.listPartitions dataset = .ok partitions →
    ∀ partition ∈ partitions, partition.table = dataset

end Catalog
end CatalogDelta
