import CatalogDelta.Act
import CatalogDelta.Files.Basic

/-!
# Acts on files

Each act is one step on the file store of the outside; what earlier steps have written stays when a
later one fails.
-/

namespace CatalogDelta

/-- Where the outside keeps its files. -/
structure FileAccess (σ : Type) where
  files : σ → Files
  setFiles : Files → σ → σ

namespace FileAccess

variable {σ : Type}

def isThere (access : FileAccess σ) (path : Path) : Act σ Bool :=
  return (← Act.view access.files).isThere path

def readText (access : FileAccess σ) (path : Path) : Act σ String := do
  Act.settle ((← Act.view access.files).readText path)

def step (access : FileAccess σ) (step : Files → Except Fault Files) : Act σ Unit := do
  let files ← Act.settle (step (← Act.view access.files))
  Act.change (access.setFiles files)

def writeText (access : FileAccess σ) (path : Path) (text : String) : Act σ Unit :=
  access.step fun files => files.writeText path text

/-- Write a file by way of a neighbour that takes its place once it is complete. -/
def replace (access : FileAccess σ) (path : Path) (text : String) : Act σ Unit := do
  match path.extended? ".tmp" with
  | none => throw (.invalidValue ("PosixPath('" ++ path.text ++ "') has an empty name"))
  | some draft =>
    access.writeText draft text
    access.step fun files => files.move draft path

end FileAccess
end CatalogDelta
