import CatalogDelta.Decimal.Layout
import CatalogDelta.Scan.Table
import CatalogDelta.Selector

/-!
# Scans

A scan chooses tables under one lease and then scans them in the order of the catalog. Only a lost
connection ends it; any other failure to list is part of the result.
-/

namespace CatalogDelta

/-- What a scan is run with. -/
structure Scheduler (σ : Type) where
  services : ScanServices σ
  selector : Selector
  rules : ScanRules
  /-- How many tables may be scanned at a time. -/
  tableWorkers : Nat := 1
  /-- How many partitions of a table may be looked at at a time. -/
  partitionWorkers : Nat := 1

/-- A number of workers as configured; there is always one. -/
def Scheduler.workers (configured : Int) : Nat := max 1 configured.toNat

namespace Scan

variable {σ : Type}

/-- The failure of a part of the catalog; the whole of it is written as a star. -/
def listingFailure (report : Report) : ScanFailure :=
  ⟨(Report.nonEmpty report.database).getD "*", .catalogListingFailure,
    (Fault.report report).described⟩

def wholeFailure (fault : Fault) : ScanFailure :=
  ⟨"*", .catalogListingFailure, fault.described⟩

/-- Scan tables one after the other. -/
def scanTables (services : ScanServices σ) (rules : ScanRules) (priors : Watermarks) (now : Int)
    (tables : List Table) : Act σ (List TableOutcome) :=
  tables.mapM fun table =>
    scanTable services rules now (OrderedMap.get? table.dataset priors) table

/-- Choose the tables of a scan; nothing is chosen if the databases cannot be listed. -/
def choose (services : ScanServices σ) (selector : Selector) :
    Act σ (Except ScanFailure Selection) := do
  match ← Act.attempt (services.lease selector.select) with
  | .ok selection => return .ok selection
  | .error fault =>
    if fault.kind.isA .listing then
      Act.note Level.error Author.scheduler
        ("Catalog listing failed, nothing scanned: " ++ fault.brief)
      return .error (wholeFailure fault)
    else throw fault

def announce (selector : Selector) (rules : ScanRules) (priors : Watermarks) : Act σ Unit :=
  Act.note Level.info Author.scheduler
    ("Starting scan: " ++ selector.literal ++ ", lookback=" ++ rules.lookback.windowText ++ ", " ++
      toString priors.length ++ " prior watermark(s)")

def conclude (millis : Int) (result : ScanResult) : Act σ Unit :=
  Act.note Level.info Author.scheduler
    ("Scan complete in " ++ Decimal.fixed 2 (Float.ofInt millis / 1000) ++ "s: " ++ result.text)

def scanSelection (scheduler : Scheduler σ) (selection : Selection) (priors : Watermarks)
    (now : Int) : Act σ ScanResult := do
  if 1 < scheduler.tableWorkers && 1 < selection.tables.length then
    Act.note Level.debug Author.scheduler
      ("Scanning " ++ toString selection.tables.length ++ " table(s) with " ++
        toString scheduler.tableWorkers ++ " workers")
  let outcomes ← scanTables scheduler.services scheduler.rules priors now selection.tables
  return .ofOutcomes (selection.failures.map listingFailure) (selection.tables.zip outcomes)

def run (scheduler : Scheduler σ) (selector : Selector) (priors : Watermarks) (now : Int) :
    Act σ ScanResult := do
  let started ← scheduler.services.clock
  announce selector scheduler.rules priors
  match ← choose scheduler.services selector with
  | .error failure => return { failures := [failure] }
  | .ok selection =>
    let result ← scanSelection scheduler selection priors now
    conclude ((← scheduler.services.clock) - started) result
    return result

/-- The time of a scan: as asked for, or the time now. -/
def timeOf (scheduler : Scheduler σ) : Data → Act σ Int
  | .null => scheduler.services.clock
  | asked => Act.settle asked.toInteger

/-- Scan as asked for, with the selector of the scheduler unless another one is given. -/
def request (scheduler : Scheduler σ) (prior : List (WatermarkKey × Data)) (now : Data)
    (selector : Option Selector := none) : Act σ ScanResult := do
  let now ← timeOf scheduler now
  let priors ← Act.settle (Watermarks.read prior)
  run scheduler (selector.getD scheduler.selector) priors now

end Scan
end CatalogDelta
