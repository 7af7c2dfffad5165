import CatalogDelta.Proofs.Scan.Sight
import Mathlib.Data.List.Basic

/-!
# Scans follow their surveys

On services that show a view, each part of a scan answers by what the view lets it see. Main
statement: a scan gives the result of its survey, unless a fault comes before it
(`View.run_gives`).
-/

namespace CatalogDelta.View

open Act

variable {σ : Type} {ready : σ → Prop} {view : View} {services : ScanServices σ}

/-- What comes of an entity: its update time if it is known and admitted, or else what failed. -/
def evaluation (view : View) (rules : ScanRules) (prior : Option Int) (now : Int)
    (entity : Entity) : Evaluation where
  admitted := ((view.sighting? entity).map (·.updateTime)).filter fun updateTime =>
    rules.admits updateTime prior now
  failures := (view.timeFailure? entity).toList

/-- What comes of a partition; nothing if it is passed over. -/
def partitionEvaluation (view : View) (rules : ScanRules) (prior : Option Int) (now : Int)
    (partition : Partition) : Evaluation :=
  if rules.passesOver partition.location then {}
  else view.evaluation rules prior now (.partition partition)

theorem evaluate_gives (shows : services.Shows ready view) (rules : ScanRules) (table : Table)
    (prior : Option Int) (now : Int) (entity : Entity) :
    Gives ready (Scan.evaluate services rules table prior now entity)
      (verdict (view.timeFault? entity) (view.evaluation rules prior now entity)) := by
  unfold Scan.evaluate
  refine (shows.updateTime entity).attempt.bind ?_
  unfold timeFault? evaluation sighting? timeFailure?
  cases view.updateTime entity with
  | ok updateTime =>
    simp only [Option.map_some, Option.filter_some, Option.toList_none, verdict_none]
    exact gives_pure _
  | error fault =>
    by_cases missing : fault.kind.isA .updateTimeNotFound = true
    · simp only [missing, ↓reduceIte, verdict_none]
      exact Gives.bind (gives_record _) (gives_pure _)
    · simp only [missing, Bool.false_eq_true, ↓reduceIte, verdict_some]
      exact gives_throw fault

theorem ignores_gives (rules : ScanRules) (location : Data) :
    Gives ready (settle (rules.ignores location))
      (verdict (rules.locationFault? location) (rules.passesOver location)) := by
  rw [← rules.ignores_eq_verdict]
  exact gives_settle _

theorem evaluatePartition_gives (shows : services.Shows ready view) (rules : ScanRules)
    (table : Table) (prior : Option Int) (now : Int) (partition : Partition) :
    Gives ready (Scan.evaluatePartition services rules table prior now partition)
      (verdict (view.partitionFault? rules partition)
        (view.partitionEvaluation rules prior now partition)) := by
  unfold Scan.evaluatePartition partitionFault? partitionEvaluation
  refine (ignores_gives rules partition.location).bind_verdict ?_
  cases rules.passesOver partition.location with
  | true => exact Gives.bind (gives_record _) (gives_pure _)
  | false => exact evaluate_gives shows rules table prior now (.partition partition)

theorem fetchPartitions_gives {held : σ → Prop} {client : Client σ}
    (shows : client.Shows held view) (table : Table) :
    Gives held (Scan.fetchPartitions table client)
      (match view.partitions table with
      | .ok partitions => .ok partitions
      | .error cause =>
        .error (if cause.kind.isA .connectionFailure then cause
          else Scan.listingFault table cause)) := by
  unfold Scan.fetchPartitions
  refine (shows.partitions table).attempt.bind ?_
  cases view.partitions table with
  | ok partitions => exact gives_pure _
  | error cause =>
    by_cases lost : cause.kind.isA .connectionFailure = true
    · simp only [lost, ↓reduceIte]
      exact gives_throw _
    · simp only [lost, Bool.false_eq_true, ↓reduceIte]
      exact gives_throw _

theorem listPartitions_gives (shows : services.Shows ready view) (table : Table) :
    Gives ready (Scan.listPartitions services table) (view.listing table) := by
  have fetched := shows.lease (Scan.fetchPartitions table) _ fun _ _ client =>
    fetchPartitions_gives client table
  unfold Scan.listPartitions listing
  cases listed : view.partitions table with
  | error cause =>
    rw [listed] at fetched
    exact fetched.bind_error
  | ok partitions =>
    rw [listed] at fetched
    refine Gives.bind fetched ?_
    dsimp only
    cases partitions.find? fun partition =>
        partition.values.length ≠ table.partitionKeys.length with
    | none => exact gives_pure _
    | some partition => exact gives_throw _

/-- What is found of the partitions that are not passed over, one partition after the other. -/
theorem filterMap_partitions {α : Type} (rules : ScanRules) (find : Entity → Option α)
    (partitions : List Partition) :
    ((partitions.map Entity.partition).filter fun entity =>
        !rules.passesOver entity.location).filterMap find =
      partitions.flatMap fun partition =>
        if rules.passesOver partition.location then []
        else (find (.partition partition)).toList := by
  rw [List.filter_map, List.filterMap_map, List.filterMap_filter,
    List.filterMap_eq_flatMap_toList]
  congr
  funext partition
  by_cases passed : rules.passesOver partition.location = true
  · simp [Entity.location, passed]
  · simp [Entity.location, passed]

theorem workFor_partitionEvaluation (rules : ScanRules) (table : Table) (prior : Option Int)
    (now : Int) (partition : Partition) :
    TableOutcome.workFor table partition (view.partitionEvaluation rules prior now partition) =
      ((if rules.passesOver partition.location then []
        else (view.sighting? (.partition partition)).toList).filter fun sighting =>
          rules.admits sighting.updateTime prior now).map (Sighting.work table) := by
  unfold partitionEvaluation evaluation sighting? TableOutcome.workFor
  cases rules.passesOver partition.location with
  | true => rfl
  | false =>
    cases view.updateTime (.partition partition) with
    | error fault => rfl
    | ok updateTime =>
      cases admitted : rules.admits updateTime prior now <;>
        simp [Option.filter_some, admitted, Sighting.work, Entity.partition?]

theorem admitted_partitionEvaluation (rules : ScanRules) (prior : Option Int) (now : Int)
    (partition : Partition) :
    (view.partitionEvaluation rules prior now partition).admitted.toList =
      ((if rules.passesOver partition.location then []
        else (view.sighting? (.partition partition)).toList).filter fun sighting =>
          rules.admits sighting.updateTime prior now).map (·.updateTime) := by
  unfold partitionEvaluation evaluation sighting?
  cases rules.passesOver partition.location with
  | true => rfl
  | false =>
    cases view.updateTime (.partition partition) with
    | error fault => rfl
    | ok updateTime =>
      cases admitted : rules.admits updateTime prior now <;> simp [Option.filter_some, admitted]

theorem failures_partitionEvaluation (rules : ScanRules) (prior : Option Int) (now : Int)
    (partition : Partition) :
    (view.partitionEvaluation rules prior now partition).failures =
      if rules.passesOver partition.location then []
      else (view.timeFailure? (.partition partition)).toList := by
  unfold partitionEvaluation evaluation
  cases rules.passesOver partition.location <;> rfl

/-- Admission partition by partition comes to the same as admission from the survey. -/
theorem ofEvaluations_eq_outcome {rules : ScanRules} {table : Table}
    {partitions : List Partition} (seen : rules.passesOver table.location = false)
    (partitioned : table.isPartitioned = true) (listed : view.listing table = .ok partitions)
    (prior : Option Int) (now : Int) :
    TableOutcome.ofEvaluations table prior
        (partitions.zip (partitions.map (view.partitionEvaluation rules prior now))) =
      (view.surveyTable rules table).outcome rules prior now := by
  have entities : view.lookedAt rules table =
      (partitions.map Entity.partition).filter fun entity =>
        !rules.passesOver entity.location := by
    simp only [lookedAt, entitiesOf, seen, partitioned, listed, Bool.false_eq_true, ↓reduceIte,
      Except.toOption, Option.getD_some]
  have unfailing : view.tableFailure? rules table = none := by
    simp only [tableFailure?, seen, partitioned, listed, Bool.not_true, Bool.or_self,
      Bool.false_eq_true, ↓reduceIte]
  rw [← List.map_prod_left_eq_zip]
  simp only [TableSurvey.outcome, TableSurvey.watermark, TableSurvey.admitted, surveyTable,
    entities, unfailing, partitioned, filterMap_partitions, ↓reduceIte, Option.toList_none,
    List.nil_append]
  simp only [TableOutcome.ofEvaluations, RunningMax.offerAll_value, Sighting.latest?,
    List.flatMap_map, List.filterMap_eq_flatMap_toList, List.filter_flatMap, List.map_flatMap,
    workFor_partitionEvaluation, admitted_partitionEvaluation, failures_partitionEvaluation]

theorem scanPartitions_gives (shows : services.Shows ready view) {rules : ScanRules}
    {table : Table} {partitions : List Partition}
    (seen : rules.passesOver table.location = false)
    (partitioned : table.isPartitioned = true) (listed : view.listing table = .ok partitions)
    (prior : Option Int) (now : Int) :
    Gives ready (Scan.scanPartitions services rules table prior now partitions)
      (verdict (partitions.findSome? (view.partitionFault? rules))
        ((view.surveyTable rules table).outcome rules prior now)) := by
  unfold Scan.scanPartitions
  refine (Gives.mapM (evaluatePartition_gives shows rules table prior now) partitions).bind_ok ?_
  rw [ofEvaluations_eq_outcome seen partitioned listed prior now]
  exact Gives.bind (gives_record _) (gives_pure _)

/-- A table whose partitions cannot be listed comes to a failure of its own. -/
theorem outcome_of_unlisted {rules : ScanRules} {table : Table} {fault : Fault}
    (seen : rules.passesOver table.location = false)
    (partitioned : table.isPartitioned = true) (unlisted : view.listing table = .error fault)
    (prior : Option Int) (now : Int) :
    (view.surveyTable rules table).outcome rules prior now =
      .failed ⟨table.dataset.urn, .catalogListingFailure, fault.described⟩ := by
  simp [surveyTable, lookedAt, entitiesOf, tableFailure?, seen, partitioned, unlisted,
    TableSurvey.outcome, TableSurvey.watermark, TableSurvey.admitted, Sighting.latest?,
    TableOutcome.advanced, TableOutcome.failed, Except.toOption]

/-- A table that is not passed over and has partition keys is looked at by its partitions. -/
theorem scanPartitioned_gives (shows : services.Shows ready view) {rules : ScanRules}
    {table : Table} (seen : rules.passesOver table.location = false)
    (partitioned : table.isPartitioned = true) (prior : Option Int) (now : Int) :
    Gives ready (Scan.scanPartitioned services rules table prior now)
      (verdict (view.openTableFault? rules table)
        ((view.surveyTable rules table).outcome rules prior now)) := by
  unfold Scan.scanPartitioned openTableFault?
  simp only [partitioned, ↓reduceIte]
  refine (listPartitions_gives shows table).attempt.bind ?_
  cases listed : view.listing table with
  | ok partitions => exact scanPartitions_gives shows seen partitioned listed prior now
  | error fault =>
    by_cases unlisted : fault.kind.isA .listing = true
    · simp only [unlisted, ↓reduceIte, verdict_none,
        outcome_of_unlisted seen partitioned listed prior now]
      exact Gives.bind (gives_record _) (gives_pure _)
    · simp only [unlisted, Bool.false_eq_true, ↓reduceIte, verdict_some]
      exact gives_throw fault

/-- Admission of a whole table comes to the same as admission from the survey. -/
theorem ofEvaluation_eq_outcome {rules : ScanRules} {table : Table}
    (seen : rules.passesOver table.location = false) (whole : table.isPartitioned = false)
    (prior : Option Int) (now : Int) :
    TableOutcome.ofEvaluation table (view.evaluation rules prior now (.table table)) =
      (view.surveyTable rules table).outcome rules prior now := by
  have entities : view.lookedAt rules table = [.table table] := by
    simp [lookedAt, entitiesOf, seen, whole, Entity.location]
  have unfailing : view.tableFailure? rules table = none := by
    simp [tableFailure?, whole]
  simp only [TableSurvey.outcome, TableSurvey.watermark, TableSurvey.admitted, surveyTable,
    entities, unfailing, whole, TableOutcome.ofEvaluation, evaluation]
  cases known : view.updateTime (.table table) with
  | error fault => simp [sighting?, timeFailure?, known, Sighting.latest?]
  | ok updateTime =>
    by_cases admitted : rules.admits updateTime prior now = true
    · simp [sighting?, timeFailure?, known, Sighting.latest?, Option.filter_some, admitted,
        Sighting.work, Entity.partition?]
    · simp [sighting?, timeFailure?, known, Sighting.latest?, Option.filter_some, admitted]

/-- A table that is not passed over and has no partition keys is looked at as a whole. -/
theorem scanWhole_gives (shows : services.Shows ready view) {rules : ScanRules}
    {table : Table} (seen : rules.passesOver table.location = false)
    (whole : table.isPartitioned = false) (prior : Option Int) (now : Int) :
    Gives ready (Scan.scanWhole services rules table prior now)
      (verdict (view.openTableFault? rules table)
        ((view.surveyTable rules table).outcome rules prior now)) := by
  unfold Scan.scanWhole openTableFault?
  simp only [whole, Bool.false_eq_true, ↓reduceIte]
  refine (evaluate_gives shows rules table prior now (.table table)).bind_ok ?_
  rw [← ofEvaluation_eq_outcome seen whole prior now]
  exact gives_pure _

/-- A table that is passed over adds nothing to the result. -/
theorem outcome_of_passesOver {rules : ScanRules} {table : Table}
    (passed : rules.passesOver table.location = true) (prior : Option Int) (now : Int) :
    (view.surveyTable rules table).outcome rules prior now = {} := by
  simp [surveyTable, lookedAt, tableFailure?, passed, TableSurvey.outcome,
    TableSurvey.watermark, TableSurvey.admitted, Sighting.latest?, TableOutcome.advanced]

theorem scanTable_gives (shows : services.Shows ready view) (rules : ScanRules) (now : Int)
    (prior : Option Int) (table : Table) :
    Gives ready (Scan.scanTable services rules now prior table)
      (verdict (view.tableFault? rules table)
        ((view.surveyTable rules table).outcome rules prior now)) := by
  unfold Scan.scanTable tableFault?
  refine (ignores_gives rules table.location).bind_verdict ?_
  cases seen : rules.passesOver table.location with
  | true =>
    simp only [↓reduceIte, verdict_none, outcome_of_passesOver seen]
    exact Gives.bind (gives_record _) (gives_pure _)
  | false =>
    simp only [Bool.false_eq_true, ↓reduceIte]
    cases partitioned : table.isPartitioned with
    | true =>
      exact (scanPartitioned_gives shows seen partitioned prior now).bind_ok
        (Gives.bind (gives_record _) (gives_pure _))
    | false =>
      exact (scanWhole_gives shows seen partitioned prior now).bind_ok
        (Gives.bind (gives_record _) (gives_pure _))

theorem scanTables_gives (shows : services.Shows ready view) (rules : ScanRules)
    (priors : Watermarks) (now : Int) (tables : List Table) :
    Gives ready (Scan.scanTables services rules priors now tables)
      (verdict (tables.findSome? (view.tableFault? rules))
        (tables.map fun table => (view.surveyTable rules table).outcome rules
          (OrderedMap.get? table.dataset priors) now)) := by
  unfold Scan.scanTables
  exact Gives.mapM (fun table => scanTable_gives shows rules now _ table) tables

/-- The result of a survey, from what it holds of each table. -/
theorem result_surveyTables (rules : ScanRules) (failures : List ScanFailure)
    (tables : List Table) (priors : Watermarks) (now : Int) :
    Survey.result { failures, tables := tables.map (view.surveyTable rules) } rules priors now =
      .ofOutcomes failures (tables.zip (tables.map fun table =>
        (view.surveyTable rules table).outcome rules (OrderedMap.get? table.dataset priors)
          now)) := by
  rw [Survey.result, List.map_map, ← List.map_prod_left_eq_zip]
  rfl

theorem scanSelection_gives {scheduler : Scheduler σ}
    (shows : scheduler.services.Shows ready view) (selection : Selection) (priors : Watermarks)
    (now : Int) :
    Gives ready (Scan.scanSelection scheduler selection priors now)
      (verdict (selection.tables.findSome? (view.tableFault? scheduler.rules))
        (Survey.result
          { failures := selection.failures.map Scan.listingFailure
            tables := selection.tables.map (view.surveyTable scheduler.rules) }
          scheduler.rules priors now)) := by
  have scanned := scanTables_gives shows scheduler.rules priors now selection.tables
  rw [result_surveyTables]
  unfold Scan.scanSelection
  split
  · exact Gives.bind (gives_note _ _ _) (scanned.bind_ok (gives_pure _))
  · exact scanned.bind_ok (gives_pure _)

/-- **A scan follows its survey.** On services that show a view, a scan ends with the fault of the
view; if there is none, it gives the result of what it sees. -/
theorem run_gives {scheduler : Scheduler σ} (shows : scheduler.services.Shows ready view)
    (selector : Selector) (priors : Watermarks) (now : Int) :
    Gives ready (Scan.run scheduler selector priors now)
      (verdict (view.fault? scheduler.rules selector)
        ((view.survey scheduler.rules selector).result scheduler.rules priors now)) := by
  unfold Scan.run
  refine shows.clock.bind fun started => ?_
  refine Gives.bind (gives_note _ _ _) ?_
  refine (choose_gives shows selector).bind_verdict ?_
  unfold choice survey listingFailures
  cases databases : view.databases with
  | error cause =>
    have empty : view.chosen selector = [] := by
      simp [chosen, shownDatabases, databases, Except.toOption]
    rw [empty]
    exact gives_pure _
  | ok found =>
    refine (scanSelection_gives shows _ priors now).bind_ok ?_
    exact shows.clock.bind fun ended => Gives.bind (gives_note _ _ _) (gives_pure _)

/-- A scan without a fault before it returns the result of what it sees. -/
theorem run_returns {scheduler : Scheduler σ} (shows : scheduler.services.Shows ready view)
    {selector : Selector} (unfailing : view.fault? scheduler.rules selector = none)
    (priors : Watermarks) (now : Int) (stage : Stage σ) (met : ready stage.outside) :
    (runOn (Scan.run scheduler selector priors now) stage).1 =
      .ok ((view.survey scheduler.rules selector).result scheduler.rules priors now) := by
  rw [(run_gives shows selector priors now stage met).1, unfailing, verdict_none]

/-- A scan that is asked for with watermarks that can be read, and with a time. -/
theorem request_gives {scheduler : Scheduler σ} (shows : scheduler.services.Shows ready view)
    {prior : List (WatermarkKey × Data)} {priors : Watermarks}
    (understood : Watermarks.read prior = .ok priors) (now : Int) (selector : Option Selector) :
    Gives ready (Scan.request scheduler prior (.int now) selector)
      (verdict (view.fault? scheduler.rules (selector.getD scheduler.selector))
        ((view.survey scheduler.rules (selector.getD scheduler.selector)).result scheduler.rules
          priors now)) := by
  have timed : Gives ready (Scan.timeOf scheduler (.int now)) (.ok now) := gives_pure now
  have read : Gives ready (settle (Watermarks.read prior)) (.ok priors) := by
    rw [understood]
    exact gives_settle _
  unfold Scan.request
  exact timed.bind (read.bind (run_gives shows _ priors now))

end CatalogDelta.View
