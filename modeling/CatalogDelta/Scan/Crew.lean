import CatalogDelta.Scan.Run

/-!
# Scans by several workers

Tables may be scanned by several workers, and so may the partitions of tables. What they do
interleaves: a move is what one of them does without being disturbed. Workers take up what waits in
any order, and no more of it is at work at any time than there are workers. The workers of a table
share a running maximum of the update times that are admitted, and each offers what it has found in
a move of its own. Answers are gathered in the order of the catalog, in whatever order they come.
-/

namespace CatalogDelta

/-- How far the look at a partition has come. -/
inductive Look where
  | waiting
  /-- It is known what comes of the partition, but nothing has been offered yet. -/
  | looked (evaluation : Evaluation)
  | settled (answer : Except Fault Evaluation)

/-- How far the scan of a table has come. -/
inductive TableTask where
  | waiting
  | looking (looks : List (Partition × Look)) (best : RunningMax)
  | settled (answer : Except Fault TableOutcome)

/-- How far a scan has come. -/
inductive ScanTask where
  | waiting
  /-- Tables have been chosen, at some time, and what failed until then is known. -/
  | scanning (started : Int) (failures : List ScanFailure) (tasks : List (Table × TableTask))
  | settled (answer : Except Fault ScanResult)

namespace Look

def answer? : Look → Option (Except Fault Evaluation)
  | settled answer => some answer
  | waiting | looked _ => none

/-- A worker is busy with the partition. -/
def isBusy : Look → Bool
  | looked _ => true
  | waiting | settled _ => false

end Look

namespace TableTask

def answer? : TableTask → Option (Except Fault TableOutcome)
  | settled answer => some answer
  | waiting | looking .. => none

/-- A worker is busy with the table. -/
def isBusy : TableTask → Bool
  | looking .. => true
  | waiting | settled _ => false

/-- The partitions of the table, once they are listed and until they are put together. -/
def looks : TableTask → List (Partition × Look)
  | looking looks _ => looks
  | waiting | settled _ => []

end TableTask

/-- What a worker does with a table. -/
inductive TableMove where
  /-- Take the table up. -/
  | take
  /-- Look at a partition. -/
  | look (partition : Nat)
  /-- Offer the update time of a partition that has been looked at. -/
  | offer (partition : Nat)
  /-- Put together what came of the partitions. -/
  | finish

/-- What is done in a scan. -/
inductive Move where
  | start
  | table (index : Nat) (move : TableMove)
  | conclude

/-- The outside and the journal while a scan is done, and how far it has come. -/
structure Floor (σ : Type) where
  stage : Stage σ
  task : ScanTask := .waiting

/-- The answers, once all are there; or the first fault, once all the answers before it are
there. -/
def gather {α : Type} : List (Option (Except Fault α)) → Option (Except Fault (List α))
  | [] => some (.ok [])
  | none :: _ => none
  | some (.error fault) :: _ => some (.error fault)
  | some (.ok value) :: others => (gather others).map (·.map (value :: ·))

/-- Those who do a scan, and what they are asked for. -/
structure Crew (σ : Type) where
  scheduler : Scheduler σ
  selector : Selector
  priors : Watermarks
  now : Int

namespace Crew

variable {σ : Type} (crew : Crew σ)

def prior (table : Table) : Option Int := OrderedMap.get? table.dataset crew.priors

/-- Write down what came of a table. -/
def noteOutcome (table : Table) (outcome : TableOutcome) : Act σ Unit :=
  Scan.note table Level.debug
    (table.dataset.urn ++ ": " ++ toString outcome.work.length ++
      " work descriptor(s), watermark " ++ Scan.watermarkText (crew.prior table) ++ " -> " ++
      Scan.watermarkText outcome.watermark)

/-- Take a table up: it is dealt with at once, or its partitions are listed. -/
def openTable (table : Table) : Act σ TableTask := do
  let rules := crew.scheduler.rules
  if (← Act.settle (rules.ignores table.location)) || !table.isPartitioned then
    return .settled (.ok
      (← Scan.scanTable crew.scheduler.services rules crew.now (crew.prior table) table))
  match ← Act.attempt (Scan.listPartitions crew.scheduler.services table) with
  | .ok partitions => return .looking (partitions.map fun partition => (partition, .waiting)) {}
  | .error fault =>
    if fault.kind.isA .listing then
      let outcome := .failed ⟨table.dataset.urn, .catalogListingFailure, fault.described⟩
      Scan.note table Level.warning
        ("Skipping table " ++ table.dataset.urn ++ ": " ++ fault.brief)
      crew.noteOutcome table outcome
      return .settled (.ok outcome)
    else throw fault

def takeUp (table : Table) (stage : Stage σ) : TableTask × Stage σ :=
  match Act.runOn (crew.openTable table) stage with
  | (.ok task, after) => (task, after)
  | (.error fault, after) => (.settled (.error fault), after)

def lookAt (table : Table) (partition : Partition) (stage : Stage σ) : Look × Stage σ :=
  match Act.runOn (Scan.evaluatePartition crew.scheduler.services crew.scheduler.rules table
      (crew.prior table) crew.now partition) stage with
  | (.ok evaluation, after) => (.looked evaluation, after)
  | (.error fault, after) => (.settled (.error fault), after)

/-- What came of a table by the running maximum of its workers. -/
def outcome (table : Table) (best : RunningMax) (evaluated : List (Partition × Evaluation)) :
    TableOutcome :=
  { work := evaluated.flatMap fun (partition, evaluation) =>
      TableOutcome.workFor table partition evaluation
    watermark := TableOutcome.advanced (crew.prior table) best.value
    failures := evaluated.flatMap (·.2.failures) }

/-- Put together what came of the partitions of a table. -/
def finishTable (table : Table) (partitions : List Partition) (best : RunningMax)
    (evaluations : List Evaluation) : Act σ TableOutcome := do
  let outcome := crew.outcome table best (partitions.zip evaluations)
  Scan.note table Level.debug
    (toString outcome.work.length ++ " of " ++ toString partitions.length ++
      " partition(s) admitted for " ++ table.dataset.urn)
  crew.noteOutcome table outcome
  return outcome

/-- What becomes of a table by a move, unless there is nothing to move. -/
def moveTable? (table : Table) : TableMove → TableTask → Stage σ → Option (TableTask × Stage σ)
  | .take, .waiting, stage => some (crew.takeUp table stage)
  | .look index, .looking looks best, stage =>
    match looks[index]? with
    | some (partition, .waiting) =>
      let (look, after) := crew.lookAt table partition stage
      some (.looking (looks.set index (partition, look)) best, after)
    | _ => none
  | .offer index, .looking looks best, stage =>
    match looks[index]? with
    | some (partition, .looked evaluation) =>
      some (.looking (looks.set index (partition, .settled (.ok evaluation)))
        (best.offerAll evaluation.admitted.toList), stage)
    | _ => none
  | .finish, .looking looks best, stage =>
    match gather (looks.map (·.2.answer?)) with
    | some (.ok evaluations) =>
      let (answer, after) :=
        Act.runOn (crew.finishTable table (looks.map (·.1)) best evaluations) stage
      some (.settled answer, after)
    | some (.error fault) => some (.settled (.error fault), stage)
    | none => none
  | _, _, _ => none

/-- There is a worker for the move: a table needs one of its own, and a partition one of those for
all partitions or else that of its table. -/
def hasWorker (tasks : List (Table × TableTask)) (task : TableTask) : TableMove → Bool
  | .take => tasks.countP (·.2.isBusy) < crew.scheduler.tableWorkers
  | .look _ =>
    if 1 < crew.scheduler.partitionWorkers then
      (tasks.flatMap (·.2.looks)).countP (·.2.isBusy) < crew.scheduler.partitionWorkers
    else task.looks.all (!·.2.isBusy)
  | .offer _ | .finish => true

/-- Choose the tables of a scan that has started at some time. -/
def choose (started : Int) : Act σ ScanTask := do
  Scan.announce crew.selector crew.scheduler.rules crew.priors
  match ← Scan.choose crew.scheduler.services crew.selector with
  | .error failure => return .settled (.ok { failures := [failure] })
  | .ok selection =>
    if 1 < crew.scheduler.tableWorkers && 1 < selection.tables.length then
      Act.note Level.debug Author.scheduler
        ("Scanning " ++ toString selection.tables.length ++ " table(s) with " ++
          toString crew.scheduler.tableWorkers ++ " workers")
    return .scanning started (selection.failures.map Scan.listingFailure)
      (selection.tables.map fun table => (table, .waiting))

def start : Act σ ScanTask := do
  crew.choose (← crew.scheduler.services.clock)

/-- Write down that the scan is complete. -/
def complete (started : Int) (result : ScanResult) : Act σ ScanResult := do
  Scan.conclude ((← crew.scheduler.services.clock) - started) result
  return result

/-- What becomes of a scan by a move, unless there is nothing to move or no worker for it. -/
def move? : Move → Floor σ → Option (Floor σ)
  | .start, ⟨stage, .waiting⟩ =>
    match Act.runOn crew.start stage with
    | (.ok task, after) => some ⟨after, task⟩
    | (.error fault, after) => some ⟨after, .settled (.error fault)⟩
  | .table index move, ⟨stage, .scanning started failures tasks⟩ =>
    match tasks[index]? with
    | some (table, task) =>
      if crew.hasWorker tasks task move then
        (crew.moveTable? table move task stage).map fun (task, after) =>
          ⟨after, .scanning started failures (tasks.set index (table, task))⟩
      else none
    | none => none
  | .conclude, ⟨stage, .scanning started failures tasks⟩ =>
    match gather (tasks.map (·.2.answer?)) with
    | some (.ok outcomes) =>
      let result := .ofOutcomes failures ((tasks.map (·.1)).zip outcomes)
      let (answer, after) := Act.runOn (crew.complete started result) stage
      some ⟨after, .settled answer⟩
    | some (.error fault) => some ⟨stage, .settled (.error fault)⟩
    | none => none
  | _, _ => none

/-- Make moves one after the other. -/
def play? : List Move → Floor σ → Option (Floor σ)
  | [], floor => some floor
  | move :: others, floor => (crew.move? move floor).bind (play? others)

end Crew
end CatalogDelta
