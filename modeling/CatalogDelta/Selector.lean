import CatalogDelta.Catalog.Client
import CatalogDelta.Pattern.Name

/-!
# Choosing databases and tables

A selector covers the tables whose database and name match its patterns and that no exclusion
covers. A database whose tables cannot be listed is left out and recorded; the rest is still chosen.
-/

namespace CatalogDelta

/-- A pair of patterns, for a database and for a table, that excludes what it covers. -/
structure Exclusion where
  database : NamePattern
  table : NamePattern

/-- Which databases and tables to look at. -/
structure Selector where
  databases : NamePattern
  tables : NamePattern
  exclusions : List Exclusion := []

/-- Tables chosen, and the failures of databases left out. -/
structure Selection where
  tables : List Table := []
  failures : List Report := []

def Selection.add (selection : Selection) : Except Report (List Table) → Selection
  | .ok tables => { selection with tables := selection.tables ++ tables }
  | .error failure => { selection with failures := selection.failures ++ [failure] }

namespace Exclusion

/-- Read an exclusion: it is cut at its first point. -/
def parse (entry : String) : Except Fault Exclusion :=
  match Text.cutFirst '.' entry.toList with
  | none =>
    .error (.configuration "Exclusions must be written as 'database.table'"
      (some "exclude_tables") (.text entry))
  | some (database, table) => do
    return ⟨← NamePattern.parse (some (String.ofList database)),
      ← NamePattern.parse (some (String.ofList table))⟩

def covers (exclusion : Exclusion) (dataset : Dataset) : Bool :=
  exclusion.database.covers dataset.database && exclusion.table.covers dataset.table

end Exclusion

namespace Selector

def parse (databases tables : Option String) (exclude : List String) :
    Except Fault Selector := do
  let databases ← NamePattern.parse databases
  let tables ← NamePattern.parse tables
  return ⟨databases, tables, ← exclude.mapM Exclusion.parse⟩

def coversTable (selector : Selector) (dataset : Dataset) : Bool :=
  selector.tables.covers dataset.table && !selector.exclusions.any (·.covers dataset)

def literal (selector : Selector) : String :=
  "DatasetSelector(database_pattern=" ++ Text.quoted selector.databases.text ++
    ", table_pattern=" ++ Text.quoted selector.tables.text ++ ")"

variable {σ : Type}

/-- Run a listing; any fault but a lost connection becomes a failure of the listing. -/
def listing {α : Type} (act : Act σ α) : Act σ (Except Fault α) := do
  match ← Act.attempt act with
  | .ok answer => return .ok answer
  | .error fault =>
    if fault.kind.isA .connectionFailure then throw fault else return .error fault

def selectDatabases (selector : Selector) (client : Client σ) : Act σ (List String) := do
  match ← listing client.listDatabases with
  | .ok databases => return databases.filter selector.databases.covers
  | .error cause =>
    throw (.listingFailure "Could not list databases" none none [] (some cause))

def databaseFailure (database : String) (cause : Fault) : Report :=
  let base : Report :=
    { kind := .listing, message := "Could not list tables", database := some database }
  Fault.withCause base (some cause)

def selectTables (selector : Selector) (client : Client σ) (database : String) :
    Act σ (Except Report (List Table)) := do
  match ← listing (client.listTables database) with
  | .error cause =>
    Act.note Level.warning Author.selector
      ("Could not list tables of database " ++ database ++ ": " ++ cause.text)
    return .error (databaseFailure database cause)
  | .ok tables =>
    let chosen := tables.filter fun table => selector.coversTable table.dataset
    Act.note Level.debug Author.selector
      ("Database " ++ database ++ ": " ++ toString chosen.length ++ " of " ++
        toString tables.length ++ " table(s) selected")
    return .ok chosen

/-- Choose among the tables of databases, one after the other. -/
def selectAmong (selector : Selector) (client : Client σ) : List String → Selection →
    Act σ Selection
  | [], selection => return selection
  | database :: others, selection => do
    let outcome ← selector.selectTables client database
    selectAmong selector client others (selection.add outcome)

/-- Choose among all the tables of a catalog. -/
def select (selector : Selector) (client : Client σ) : Act σ Selection := do
  selector.selectAmong client (← selector.selectDatabases client) {}

end Selector
end CatalogDelta
