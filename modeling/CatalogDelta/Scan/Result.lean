import CatalogDelta.Watermark.Basic
import CatalogDelta.Work

/-!
# Results of scans

A result holds the units of work in the order of the catalog, the watermarks that advance, what
could not be looked at, and how many tables there were. A watermark is the largest of the times
offered for it, in whatever order they come.
-/

namespace CatalogDelta

/-- The largest value offered so far, if any has been. -/
structure RunningMax where
  value : Option Int := none
  deriving Repr, DecidableEq

namespace RunningMax

def offer (best : RunningMax) (value : Int) : RunningMax :=
  match best.value with
  | none => ⟨some value⟩
  | some current => if current < value then ⟨some value⟩ else best

/-- Offer values one after the other. -/
def offerAll (best : RunningMax) (values : List Int) : RunningMax := values.foldl offer best

/-- The order of two offers does not matter. -/
theorem offer_comm (best : RunningMax) (first second : Int) :
    (best.offer first).offer second = (best.offer second).offer first := by
  rcases best with ⟨_ | current⟩
  · simp only [offer]
    split <;> split <;> simp only [RunningMax.mk.injEq, Option.some.injEq] <;> omega
  · simp only [offer]
    grind

end RunningMax

/-! ## Results -/

/-- Why something could not be looked at. -/
inductive FailureKind where
  | updateTimeNotFound
  | catalogListingFailure
  deriving Repr, DecidableEq

def FailureKind.word : FailureKind → String
  | updateTimeNotFound => "update_time_not_found"
  | catalogListingFailure => "catalog_listing_failure"

/-- Something that was passed over because it could not be looked at. -/
structure ScanFailure where
  entity : String
  kind : FailureKind
  message : String
  deriving Repr, DecidableEq

def ScanFailure.toData (failure : ScanFailure) : Data :=
  .map [("entity", .text failure.entity), ("kind", .text failure.kind.word),
    ("message", .text failure.message)]

/-- What came of one partition: its update time if it is admitted, or else what failed. -/
structure Evaluation where
  admitted : Option Int := none
  failures : List ScanFailure := []
  deriving Repr, DecidableEq

/-- What came of one table. -/
structure TableOutcome where
  work : List Work := []
  watermark : Option Int := none
  failures : List ScanFailure := []
  deriving Inhabited

namespace TableOutcome

/-- A table of which nothing but a failure is known. -/
def failed (failure : ScanFailure) : TableOutcome := { failures := [failure] }

/-- The outcome of a table without partitions. -/
def ofEvaluation (table : Table) (evaluation : Evaluation) : TableOutcome :=
  { work := evaluation.admitted.toList.map fun updateTime =>
      { dataset := table.dataset, table, updateTime }
    watermark := evaluation.admitted
    failures := evaluation.failures }

/-- The work for a partition, if it is admitted. -/
def workFor (table : Table) (partition : Partition) (evaluation : Evaluation) : List Work :=
  evaluation.admitted.toList.map fun updateTime =>
    { dataset := table.dataset, table, updateTime, partition := some partition }

/-- The watermark of a table after a candidate: only a candidate above the prior one counts. -/
def advanced (prior : Option Int) (candidate : Option Int) : Option Int :=
  match candidate, prior with
  | some candidate, some prior => if prior < candidate then some candidate else none
  | candidate, _ => candidate

def ofEvaluations (table : Table) (prior : Option Int)
    (evaluated : List (Partition × Evaluation)) : TableOutcome :=
  let best := ({} : RunningMax).offerAll (evaluated.filterMap (·.2.admitted))
  { work := evaluated.flatMap fun (partition, evaluation) => workFor table partition evaluation
    watermark := advanced prior best.value
    failures := evaluated.flatMap (·.2.failures) }

end TableOutcome

/-- What came of a scan. -/
structure ScanResult where
  work : List Work := []
  watermarks : Watermarks := []
  failures : List ScanFailure := []
  tablesScanned : Nat := 0
  deriving Inhabited

namespace ScanResult

def add (result : ScanResult) (table : Table) (outcome : TableOutcome) : ScanResult :=
  { work := result.work ++ outcome.work
    watermarks :=
      match outcome.watermark with
      | none => result.watermarks
      | some watermark => OrderedMap.put table.dataset watermark result.watermarks
    failures := result.failures ++ outcome.failures
    tablesScanned := result.tablesScanned + 1 }

def ofOutcomes (failures : List ScanFailure) (outcomes : List (Table × TableOutcome)) :
    ScanResult :=
  outcomes.foldl (fun result (table, outcome) => result.add table outcome) { failures }

/-- Something could not be looked at. -/
def hasFailures (result : ScanResult) : Bool := !result.failures.isEmpty

/-- What could not be looked at. -/
def failedEntities (result : ScanResult) : List String := result.failures.map (·.entity)

def text (result : ScanResult) : String :=
  toString result.work.length ++ " work descriptor(s) from " ++ toString result.tablesScanned ++
    " table(s), " ++ toString result.watermarks.length ++ " dataset(s) advanced, " ++
    toString result.failures.length ++ " failure(s)"

def toData (result : ScanResult) : Except Fault Data := do
  let bags ← result.work.mapM fun work => work.toProperties
  return .map [("descriptors", .list (bags.map .map)), ("watermarks", result.watermarks.toData),
    ("failures", .list (result.failures.map ScanFailure.toData)),
    ("tables_scanned", .int result.tablesScanned)]

end ScanResult
end CatalogDelta
