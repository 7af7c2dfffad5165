import CatalogDelta.Json.Value
import CatalogDelta.Watermark.Basic

/-!
# The ledger of watermarks

A file may hold watermarks under names that are no ordinary texts, since an escape in it may write a
unit of a surrogate pair that stands alone. Such names are kept apart and are stored again, though no
dataset of a catalog has them. A ledger holds the watermarks of a file under all their names.
-/

namespace CatalogDelta

/-- The names of a dataset by their code points. -/
structure Label where
  database : Points
  table : Points
  deriving Repr, DecidableEq

namespace Label

/-- What stands between the names in a urn. -/
def separator : CodePoint := .ofChar '@'

def ofDataset (dataset : Dataset) : Label := ⟨.ofText dataset.database, .ofText dataset.table⟩

/-- The dataset with these names, if they are ordinary texts. -/
def dataset? (label : Label) : Option Dataset := do
  return ⟨← Points.text? label.database, ← Points.text? label.table⟩

def urn (label : Label) : Points := label.database ++ separator :: label.table

def ofUrn? (urn : Points) : Option Label :=
  (Text.halves? separator urn).map fun (database, table) => ⟨database, table⟩

def ofUrn (urn : Points) : Except Fault Label :=
  match ofUrn? urn with
  | some label => .ok label
  | none => .error (Dataset.notUrn (Points.quoted urn))

/-- The order by database, then by table. -/
def precedes (first second : Label) : Bool :=
  first.database < second.database ||
    (first.database == second.database && first.table < second.table)

@[simp] theorem dataset?_ofDataset (dataset : Dataset) :
    (ofDataset dataset).dataset? = some dataset := by
  simp [dataset?, ofDataset]

theorem ofDataset_injective {first second : Dataset} (same : ofDataset first = ofDataset second) :
    first = second := by
  have found := congrArg dataset? same
  rw [dataset?_ofDataset, dataset?_ofDataset] at found
  exact Option.some.inj found

end Label

/-- The watermarks of a file. -/
abbrev Ledger := OrderedMap Label Int

namespace Ledger

def ofMarks (marks : Watermarks) : Ledger :=
  marks.map fun (dataset, millis) => (.ofDataset dataset, millis)

/-- The watermarks under ordinary names. -/
def marks (ledger : Ledger) : Watermarks :=
  ledger.filterMap fun (label, millis) => label.dataset?.map (·, millis)

/-- Put watermarks over those of the ledger. -/
def putMarks (ledger : Ledger) (marks : Watermarks) : Ledger :=
  OrderedMap.putAll ledger (ofMarks marks)

/-- Raise the watermarks of a ledger to those that have been reached. -/
def merge (ledger : Ledger) (reached : Watermarks) : Ledger :=
  ledger.putMarks (ledger.marks.merge reached)

/-- The watermark that a value stands for: a number, or a text that writes a whole one. -/
def valueOf (label : Label) (value : Json.Value) : Except Fault Int :=
  match value with
  | .int millis => .ok millis
  | .float millis => Data.integerOfFloat millis
  | .text millis =>
    match Points.text? millis with
    | some text => Data.integerOfText text
    | none => .error (.invalidValue (Decimal.malformedText (Points.quoted millis)))
  | other => .error (Watermarks.notInteger (Points.shown label.urn) other.literal)

def readEntry (entry : Points × Json.Value) : Except Fault (Label × Int) := do
  let label ← Label.ofUrn entry.1
  return (label, ← valueOf label entry.2)

/-- Read the watermarks of a file; of two for one dataset the later one stands. -/
def read (entries : List (Points × Json.Value)) : Except Fault Ledger :=
  OrderedMap.readOnto readEntry [] entries

/-- The watermarks in the order of their datasets. -/
def sorted (ledger : Ledger) : Ledger := OrderedMap.sortedBy Label.precedes ledger

/-- Watermarks by urn; of two with one urn the later one stands. -/
def byUrn (ledger : Ledger) : OrderedMap Points Int :=
  OrderedMap.ofList (ledger.map fun (label, millis) => (label.urn, millis))

end Ledger
end CatalogDelta
