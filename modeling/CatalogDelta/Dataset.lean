import CatalogDelta.Fault
import CatalogDelta.Text.Pieces

/-!
# Dataset identifiers

A dataset is a table of a database. Its urn is `database@table`; reading a urn demands exactly one
separator with something on each side.
-/

namespace CatalogDelta

/-- A table of a database. -/
structure Dataset where
  database : String
  table : String
  deriving Repr, DecidableEq, Inhabited

namespace Dataset

/-- The key `database@table` under which a dataset is known. -/
def urn (dataset : Dataset) : String := dataset.database ++ "@" ++ dataset.table

def ofUrn? (urn : String) : Option Dataset :=
  (Text.halves? '@' urn.toList).map fun (database, table) =>
    ⟨String.ofList database, String.ofList table⟩

/-- What is said of a text that is no urn; it is quoted. -/
def notUrn (quoted : String) : Fault :=
  .invalidValue ("Invalid dataset urn: " ++ quoted ++ " (expected 'database@table')")

def ofUrn (urn : String) : Except Fault Dataset :=
  match ofUrn? urn with
  | some dataset => .ok dataset
  | none => .error (notUrn (Text.quoted urn))

/-- The order by database, then by table. -/
def precedes (first second : Dataset) : Bool :=
  first.database < second.database ||
    (first.database == second.database && first.table < second.table)

/-- Datasets in order. -/
def sorted (datasets : List Dataset) : List Dataset :=
  datasets.mergeSort fun first second => !precedes second first

end Dataset
end CatalogDelta
