import CatalogDelta.Proofs.Scan.Choice
import CatalogDelta.Proofs.Scan.Survey

/-!
# What a scan sees of a view

`View.survey` is the survey that a scan makes of a view, and `View.fault?` the fault with which the
scan ends before it has made one. Neither depends on watermarks, on the time or on the lookback.
Main statement: on services that show the view, a scan ends with the fault, and if there is none it
gives the result of the survey (`View.run_gives`).
-/

namespace CatalogDelta

/-- Something stored at a location is passed over. -/
def ScanRules.passesOver (rules : ScanRules) (location : Data) : Bool :=
  (rules.ignores location).toOption.getD false

def ScanRules.locationFault? (rules : ScanRules) (location : Data) : Option Fault :=
  match rules.ignores location with
  | .ok _ => none
  | .error fault => some fault

theorem ScanRules.ignores_eq_verdict (rules : ScanRules) (location : Data) :
    rules.ignores location =
      Act.verdict (rules.locationFault? location) (rules.passesOver location) := by
  unfold locationFault? passesOver
  cases rules.ignores location <;> rfl

namespace View

variable (view : View) (rules : ScanRules)

/-- The sighting of an entity, if its update time is known. -/
def sighting? (entity : Entity) : Option Sighting :=
  match view.updateTime entity with
  | .ok updateTime => some ⟨entity, updateTime⟩
  | .error _ => none

def timeFailure? (entity : Entity) : Option ScanFailure :=
  match view.updateTime entity with
  | .ok _ => none
  | .error fault => some (Scan.timeFailure entity fault)

def timeFault? (entity : Entity) : Option Fault :=
  match view.updateTime entity with
  | .ok _ => none
  | .error fault => if fault.kind.isA .updateTimeNotFound then none else some fault

/-- The partitions of a table, each with as many values as the table has keys. -/
def listing (table : Table) : Except Fault (List Partition) :=
  match view.partitions table with
  | .error cause =>
    .error (if cause.kind.isA .connectionFailure then cause else Scan.listingFault table cause)
  | .ok partitions =>
    match partitions.find? fun partition =>
        partition.values.length ≠ table.partitionKeys.length with
    | some partition => .error (Scan.mismatch table partition)
    | none => .ok partitions

/-- The entities of a table: its partitions if it has partition keys, and else the table itself. -/
def entitiesOf (table : Table) : List Entity :=
  if table.isPartitioned then ((view.listing table).toOption.getD []).map .partition
  else [.table table]

/-- The entities of a table whose update times a scan asks for. -/
def lookedAt (table : Table) : List Entity :=
  if rules.passesOver table.location then []
  else (view.entitiesOf table).filter fun entity => !rules.passesOver entity.location

def tableFailure? (table : Table) : Option ScanFailure :=
  if rules.passesOver table.location || !table.isPartitioned then none
  else
    match view.listing table with
    | .ok _ => none
    | .error fault => some ⟨table.dataset.urn, .catalogListingFailure, fault.described⟩

def surveyTable (table : Table) : TableSurvey where
  table
  sightings := (view.lookedAt rules table).filterMap view.sighting?
  failures := (view.tableFailure? rules table).toList ++
    (view.lookedAt rules table).filterMap view.timeFailure?

def partitionFault? (partition : Partition) : Option Fault :=
  (rules.locationFault? partition.location).or
    (if rules.passesOver partition.location then none
    else view.timeFault? (.partition partition))

/-- The fault with which the look at a table that is not passed over ends a scan. -/
def openTableFault? (table : Table) : Option Fault :=
  if table.isPartitioned then
    match view.listing table with
    | .ok partitions => partitions.findSome? (view.partitionFault? rules)
    | .error fault => if fault.kind.isA .listing then none else some fault
  else view.timeFault? (.table table)

def tableFault? (table : Table) : Option Fault :=
  (rules.locationFault? table.location).or
    (if rules.passesOver table.location then none else view.openTableFault? rules table)

def survey (selector : Selector) : Survey where
  failures := view.listingFailures selector
  tables := (view.chosen selector).map (view.surveyTable rules)

/-- The fault with which a scan ends, if it does. -/
def fault? (selector : Selector) : Option Fault :=
  (view.choiceFault? selector).or ((view.chosen selector).findSome? (view.tableFault? rules))

theorem survey_datasets (selector : Selector) :
    (view.survey rules selector).tables.map (·.table.dataset) =
      (view.chosen selector).map (·.dataset) := by
  rw [survey, List.map_map]
  rfl

theorem ListsOnce.survey {view : View} (once : view.ListsOnce) (rules : ScanRules)
    (selector : Selector) :
    ((view.survey rules selector).tables.map (·.table.dataset)).Nodup := by
  rw [survey_datasets]
  exact once.chosen selector

end View
end CatalogDelta
