import CatalogDelta.Catalog.Snapshot
import CatalogDelta.Files.Document
import CatalogDelta.Settings.Basic
import CatalogDelta.Settings.EnvironmentFile
import CatalogDelta.Settings.Value

/-!
# Loading settings and the catalog they name

Settings are read from a document after the variables of an environment file have been added to the
environment. The path of a catalog snapshot is seen from the folder of the settings. How documents
are written, how files set variables, how values are validated and how calls are repeated is for
other libraries to say.
-/

namespace CatalogDelta

/-- What is left to other libraries. -/
structure Libraries where
  reader : DocumentReader
  /-- The environment with the variables that a file sets: the one at a path, or else one that is
  found from where the command runs. -/
  withVariables : Files → Option Path → Environment → Except Fault Environment
  validation : Validation
  repeater : Repeater

/-- Documents in JSON, variables of a file that is named, and the usual validation and repeater. -/
def Libraries.usual : Libraries := ⟨Json.readDocument, EnvironmentFile.load, .usual, .usual⟩

variable {σ : Type}

def Snapshot.loadFile (reader : DocumentReader) (access : FileAccess σ) (path : Path) :
    Act σ Catalog := do
  if !(← access.isThere path) then
    throw (.configuration ("Catalog snapshot not found: " ++ path.text) (some "catalog"))
  Snapshot.load (← access.readDocument reader "catalog snapshot " path).orEmpty

namespace Settings

def load (libraries : Libraries) (access : FileAccess σ) (environment : Environment) (path : Path)
    (environmentFile : Option Path := none) : Act σ Settings := do
  if !(← access.isThere path) then
    throw (.configuration ("Config file not found: " ++ path.text))
  let files ← Act.view access.files
  let environment ← Act.settle (libraries.withVariables files environmentFile environment)
  let document ← access.readDocument libraries.reader "" path
  let settings ← Act.settle (ofDocument libraries.validation environment document)
  Act.note Level.debug Author.config ("Loaded scan config from " ++ path.text)
  return settings

/-- The settings name no catalog. -/
def noCatalog : Fault :=
  .configuration "No catalog configured" (some "catalog") .null
    (some "Set 'catalog' to the path of a catalog snapshot YAML file.")

def loadCatalog (settings : Settings) (reader : DocumentReader) (access : FileAccess σ)
    (base : Path) : Act σ Catalog := do
  match Report.nonEmpty settings.catalog with
  | none => throw noCatalog
  | some catalog => Snapshot.loadFile reader access (base.under (Path.parse catalog))

/-- A client over a catalog, retried if the settings say so. -/
def client (settings : Settings) (repeater : Repeater) (pause : Float → Act σ Unit)
    (inner : Client σ) : Client σ :=
  match settings.retry with
  | none => inner
  | some config => Retry.client repeater { config, kinds := Retry.passingKinds, pause } inner

end Settings
end CatalogDelta
