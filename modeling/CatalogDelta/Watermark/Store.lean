import CatalogDelta.Files.Access
import CatalogDelta.Json.Reader
import CatalogDelta.Json.Writer
import CatalogDelta.Watermark.Ledger

/-!
# Stored watermarks

Watermarks are kept in a file that holds a JSON object. A file that cannot be understood counts as
empty, so that the next scan is a first scan.
-/

namespace CatalogDelta.Ledger

/-- The watermarks in the text of a file, and when they were stored. -/
def ofText (text : String) : Except Fault (Ledger × Json.Value) := do
  match Json.read text.toList with
  | .error stop => throw (.invalidValue (stop.message text.toList))
  | .ok document =>
    let stored ← document.member "watermarks"
    let entries ← if stored.isTruthy then stored.members else pure []
    let ledger ← read entries
    return (ledger, (document.member? "updated_at").getD (.text (.ofText "unknown")))

/-- The kinds of fault that make a file count as empty. -/
def ignorableKinds : List FaultKind := [.value, .member]

/-- The document of listed watermarks: the time, and the watermarks by urn. -/
def document (stamp : String) (listed : Ledger) : Json.Value :=
  .map [(.ofText "updated_at", .text (.ofText stamp)),
    (.ofText "watermarks", .map (listed.byUrn.map fun (urn, millis) => (urn, .int millis)))]

def toText (ledger : Ledger) (stamp : String) : String :=
  Json.indented 0 (document stamp ledger.sorted)

variable {σ : Type}

def load (access : FileAccess σ) (path : Path) : Act σ Ledger := do
  if !(← access.isThere path) then
    Act.note Level.debug Author.watermark ("No watermark file at " ++ path.text)
    return []
  let reading := do Act.settle (ofText (← access.readText path))
  match ← Act.attempt reading with
  | .error fault =>
    if ignorableKinds.any fault.kind.isA then
      Act.note Level.warning Author.watermark
        ("Invalid watermark file " ++ path.text ++ ": " ++ fault.text)
      return []
    else throw fault
  | .ok (ledger, stamp) =>
    Act.note Level.debug Author.watermark
      ("Loaded " ++ toString ledger.length ++ " watermark(s) from " ++ path.text ++
        " (updated " ++ stamp.shown ++ ")")
    return ledger

def save (access : FileAccess σ) (path : Path) (stamp : String) (ledger : Ledger) :
    Act σ Unit := do
  access.step fun files => files.makeFolder path.parent
  access.replace path (ledger.toText stamp)
  Act.note Level.info Author.watermark
    ("Saved " ++ toString ledger.length ++ " watermark(s) to " ++ path.text)

end CatalogDelta.Ledger
