import CatalogDelta.Act
import CatalogDelta.Handle

/-!
# Catalog clients

A client answers what databases a catalog has, what tables a database has and what partitions a
table has. Any of its calls may fail.
-/

namespace CatalogDelta

/-- What a scan needs of a catalog. -/
structure Client (σ : Type) where
  /-- What kind of client this is, for the journal. -/
  kind : String
  listDatabases : Act σ (List String)
  listTables : String → Act σ (List Table)
  listPartitions : Table → Act σ (List Partition)
  close : Act σ Unit := pure ()

/-- A call to a client. -/
inductive CatalogCall where
  | databases
  | tables (database : String)
  | partitions (dataset : Dataset)
  deriving Repr, DecidableEq

namespace CatalogCall

def operation : CatalogCall → String
  | databases => "list_databases"
  | tables _ => "list_tables"
  | partitions _ => "list_partitions"

def text : CatalogCall → String
  | databases => operation databases
  | tables database => operation (tables database) ++ " " ++ database
  | partitions dataset => operation (partitions dataset) ++ " " ++ dataset.urn

end CatalogCall
end CatalogDelta
