import CatalogDelta.Act
import CatalogDelta.Data.Integer
import CatalogDelta.Dataset

/-!
# Watermarks

The watermark of a dataset is the highest update time, in milliseconds, that has been dealt with.
Merging never lowers a watermark.
-/

namespace CatalogDelta

abbrev Watermarks := OrderedMap Dataset Int

/-- How a dataset is named where watermarks are handed in. -/
inductive WatermarkKey where
  | urn (text : String)
  | dataset (dataset : Dataset)
  deriving Repr, DecidableEq

def WatermarkKey.read : WatermarkKey → Except Fault Dataset
  | .urn text => Dataset.ofUrn text
  | .dataset named => .ok named

namespace Watermarks

/-- What is said of a watermark that is no number. -/
def notInteger (urn literal : String) : Fault :=
  .invalidValue ("Watermark for " ++ urn ++ " must be an integer, got " ++ literal)

/-- The watermark that a value stands for: a number, or a text that writes a whole one. -/
def valueOf (dataset : Dataset) (value : Data) : Except Fault Int :=
  match value with
  | .int millis => .ok millis
  | .float millis => Data.integerOfFloat millis
  | .text millis => Data.integerOfText millis
  | other => .error (notInteger dataset.urn other.literal)

def readEntry (entry : WatermarkKey × Data) : Except Fault (Dataset × Int) := do
  let dataset ← entry.1.read
  return (dataset, ← valueOf dataset entry.2)

/-- Read watermarks; of two for one dataset the later one stands. -/
def read (entries : List (WatermarkKey × Data)) : Except Fault Watermarks :=
  OrderedMap.readOnto readEntry [] entries

/-- The watermarks in the order of their datasets. -/
def sorted (watermarks : Watermarks) : List (Dataset × Int) :=
  OrderedMap.sortedBy Dataset.precedes watermarks

/-- The watermarks by urn, in the order of their datasets. -/
def byUrn (watermarks : Watermarks) : OrderedMap String Int :=
  OrderedMap.ofList (watermarks.sorted.map fun (dataset, millis) => (dataset.urn, millis))

def toData (watermarks : Watermarks) : Data :=
  .map (watermarks.byUrn.map fun (urn, millis) => (urn, .int millis))

/-- The watermark of a dataset after a candidate: the larger of the two. -/
def advance (current : Option Int) (candidate : Int) : Int :=
  match current with
  | none => candidate
  | some current => if current < candidate then candidate else current

/-- Raise the watermark of one dataset to a candidate that is larger. -/
def mergeOne (watermarks : Watermarks) (dataset : Dataset) (candidate : Int) : Watermarks :=
  OrderedMap.put dataset (advance (OrderedMap.get? dataset watermarks) candidate) watermarks

def merge (prior advanced : Watermarks) : Watermarks :=
  advanced.foldl (fun merged (dataset, candidate) => merged.mergeOne dataset candidate) prior

def regressionText (dataset : Dataset) (candidate current : Int) : String :=
  "Ignoring watermark regression for " ++ dataset.urn ++ ": " ++
    String.ofList (Decimal.showInteger candidate) ++ " < " ++
    String.ofList (Decimal.showInteger current)

def regressions : Watermarks → Watermarks → List (Dataset × Int × Int)
  | _, [] => []
  | prior, (dataset, candidate) :: others =>
    let rest := regressions (mergeOne prior dataset candidate) others
    match OrderedMap.get? dataset prior with
    | none => rest
    | some current => if candidate < current then (dataset, candidate, current) :: rest else rest

def mergeNoted {σ : Type} (prior advanced : Watermarks) : Act σ Watermarks := do
  (regressions prior advanced).forM fun (dataset, candidate, current) =>
    Act.note Level.warning Author.watermark (regressionText dataset candidate current)
  return merge prior advanced

end Watermarks
end CatalogDelta
