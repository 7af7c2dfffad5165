import CatalogDelta.Catalog.Client
import CatalogDelta.Journal.Dataset
import CatalogDelta.Scan.Admission
import CatalogDelta.Scan.Result

/-!
# Scanning one table

A table without partitions is looked at as a whole; of any other table the partitions are listed
under a lease and looked at one by one.
-/

namespace CatalogDelta

/-- What a scan needs of the outside. -/
structure ScanServices (σ : Type) where
  /-- Work with a catalog client under a lease. -/
  lease : {α : Type} → (Client σ → Act σ α) → Act σ α
  /-- The update time of an entity in milliseconds. -/
  updateTime : Entity → Act σ Int
  /-- The time now in milliseconds. -/
  clock : Act σ Int

namespace Scan

variable {σ : Type}

def loggerFor (table : Table) : DatasetLogger :=
  { author := Author.scheduler
    context := [("database", .text table.dataset.database), ("table", .text table.dataset.table)] }

def note (table : Table) (level : Level) (message : String) : Act σ Unit :=
  Act.record ((loggerFor table).entry level message)

def watermarkText : Option Int → String
  | none => "None"
  | some millis => String.ofList (Decimal.showInteger millis)

/-- The failure of an entity without an update time. -/
def timeFailure (entity : Entity) (fault : Fault) : ScanFailure :=
  ⟨entity.describe, .updateTimeNotFound, fault.described⟩

/-- Look at one entity whose location is not ignored. -/
def evaluate (services : ScanServices σ) (rules : ScanRules) (table : Table) (prior : Option Int)
    (now : Int) (entity : Entity) : Act σ Evaluation := do
  match ← Act.attempt (services.updateTime entity) with
  | .ok updateTime =>
    return { admitted := if rules.admits updateTime prior now then some updateTime else none }
  | .error fault =>
    if fault.kind.isA .updateTimeNotFound then
      note table Level.warning
        ("No update time for " ++ entity.describe ++ ", skipping: " ++ fault.brief)
      return { failures := [timeFailure entity fault] }
    else throw fault

def evaluatePartition (services : ScanServices σ) (rules : ScanRules) (table : Table)
    (prior : Option Int) (now : Int) (partition : Partition) : Act σ Evaluation := do
  if ← Act.settle (rules.ignores partition.location) then
    note table Level.debug
      ("Skipping partition at ignored location " ++ partition.location.shown)
    return {}
  evaluate services rules table prior now (.partition partition)

/-- The fault of a partition whose values do not fit the keys of its table. -/
def mismatch (table : Table) (partition : Partition) : Fault :=
  .listingFailure "Partition values do not match partition keys" (some table.dataset.database)
    (some table.dataset.table)
    [("partition_keys", .list table.partitionKeys),
     ("values", .list (partition.values.map .text))]

/-- The fault of a table whose partitions cannot be listed. -/
def listingFault (table : Table) (cause : Fault) : Fault :=
  .listingFailure "Could not list partitions" (some table.dataset.database)
    (some table.dataset.table) [] (some cause)

def fetchPartitions (table : Table) (client : Client σ) : Act σ (List Partition) := do
  match ← Act.attempt (client.listPartitions table) with
  | .ok partitions => return partitions
  | .error fault =>
    if fault.kind.isA .connectionFailure then throw fault else throw (listingFault table fault)

def listPartitions (services : ScanServices σ) (table : Table) : Act σ (List Partition) := do
  let partitions ← services.lease (fetchPartitions table)
  match partitions.find? fun partition =>
      partition.values.length ≠ table.partitionKeys.length with
  | some partition => throw (mismatch table partition)
  | none => return partitions

def scanPartitions (services : ScanServices σ) (rules : ScanRules) (table : Table)
    (prior : Option Int) (now : Int) (partitions : List Partition) : Act σ TableOutcome := do
  let evaluations ← partitions.mapM (evaluatePartition services rules table prior now)
  let outcome := TableOutcome.ofEvaluations table prior (partitions.zip evaluations)
  note table Level.debug
    (toString outcome.work.length ++ " of " ++ toString partitions.length ++
      " partition(s) admitted for " ++ table.dataset.urn)
  return outcome

def scanPartitioned (services : ScanServices σ) (rules : ScanRules) (table : Table)
    (prior : Option Int) (now : Int) : Act σ TableOutcome := do
  match ← Act.attempt (listPartitions services table) with
  | .ok partitions => scanPartitions services rules table prior now partitions
  | .error fault =>
    if fault.kind.isA .listing then
      note table Level.warning ("Skipping table " ++ table.dataset.urn ++ ": " ++ fault.brief)
      return .failed ⟨table.dataset.urn, .catalogListingFailure, fault.described⟩
    else throw fault

def scanWhole (services : ScanServices σ) (rules : ScanRules) (table : Table)
    (prior : Option Int) (now : Int) : Act σ TableOutcome := do
  return .ofEvaluation table (← evaluate services rules table prior now (.table table))

def scanTable (services : ScanServices σ) (rules : ScanRules) (now : Int) (prior : Option Int)
    (table : Table) : Act σ TableOutcome := do
  if ← Act.settle (rules.ignores table.location) then
    note table Level.debug ("Skipping table at ignored location " ++ table.location.shown)
    return {}
  let outcome ←
    if table.isPartitioned then scanPartitioned services rules table prior now
    else scanWhole services rules table prior now
  note table Level.debug
    (table.dataset.urn ++ ": " ++ toString outcome.work.length ++
      " work descriptor(s), watermark " ++ watermarkText prior ++ " -> " ++
      watermarkText outcome.watermark)
  return outcome

end Scan
end CatalogDelta
