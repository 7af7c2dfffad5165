import CatalogDelta.Proofs.Scan.Run
import CatalogDelta.Proofs.Site.Services

/-!
# The specification of a scan

What a scan has to give for a catalog whose listings succeed is said here without tables being
scanned. The entities of the chosen tables are candidates unless a location carries an ignored
identifier, and each candidate is due, is not due, or has no update time. Main statement: a scan
gives just that.
-/

namespace CatalogDelta

/-- A text is cut out of another one if it occurs in it. -/
theorem Text.occursIn_iff_infix {part whole : List Char} :
    Text.occursIn part whole = true ↔ part <:+: whole := by
  induction whole with
  | nil =>
    rw [List.infix_nil]
    cases part <;> simp [Text.occursIn]
  | cons c rest ih =>
    rw [List.infix_cons_iff, Text.occursIn, Bool.or_eq_true, ih, List.isPrefixOf_iff_prefix]

/-- What a location can be: a text, or nothing. -/
inductive Placed : Data → Prop
  | nowhere : Placed .null
  | text (place : String) : Placed (.text place)

instance : DecidablePred Placed := fun location =>
  match location with
  | .null => .isTrue .nowhere
  | .text place => .isTrue (.text place)
  | .bool _ | .int _ | .float _ | .list _ | .map _ | .moment _ | .span _ => .isFalse nofun

/-- A location carries one of the identifiers. Empty identifiers do not count. -/
def Carries (identifiers : List String) : Data → Prop
  | .text place =>
    ∃ identifier ∈ identifiers, identifier ≠ "" ∧ identifier.toList <:+: place.toList
  | _ => False

instance (identifiers : List String) : DecidablePred (Carries identifiers) := fun location =>
  match location with
  | .text place =>
    inferInstanceAs (Decidable (∃ identifier ∈ identifiers,
      identifier ≠ "" ∧ identifier.toList <:+: place.toList))
  | .null | .bool _ | .int _ | .float _ | .list _ | .map _ | .moment _ | .span _ => .isFalse id

theorem ScanRules.mentionsAny_text (place : String) (parts : List String) :
    mentionsAny (.text place) parts =
      .ok (parts.any fun part => Text.occursIn part.toList place.toList) := by
  induction parts with
  | nil => rfl
  | cons part others ih =>
    rw [List.any_cons]
    simp only [mentionsAny, ih, Data.mentions]
    cases Text.occursIn part.toList place.toList <;> rfl

/-- Rules made for some identifiers ignore the locations that carry one of them. -/
theorem ScanRules.ignores_make (lookback : LookbackPolicy) (strict : Bool)
    (identifiers : List String) {location : Data} (placed : Placed location) :
    (make lookback strict identifiers).ignores location =
      .ok (decide (Carries identifiers location)) := by
  cases placed with
  | nowhere => rfl
  | text place =>
    have found : ((identifiers.filter (!·.isEmpty)).any fun part =>
        Text.occursIn part.toList place.toList) = decide (Carries identifiers (.text place)) := by
      rw [List.any_filter, ← Bool.decide_coe (List.any _ _)]
      simp only [Carries, List.any_eq_true, Bool.and_eq_true, Text.occursIn_iff_infix,
        Bool.not_eq_true', ne_eq, ← String.isEmpty_iff, Bool.not_eq_true]
    by_cases empty : place = ""
    · subst empty
      have nowhere : ¬ Carries identifiers (.text "") := by
        rintro ⟨identifier, _, shown, inside⟩
        rw [String.toList_empty, List.infix_nil] at inside
        exact shown (String.toList_eq_nil_iff.mp inside)
      simp [ignores, Data.isTruthy, nowhere]
    · simp [ignores, make, Data.isTruthy, empty, mentionsAny_text, found]

theorem ScanRules.passesOver_make (lookback : LookbackPolicy) (strict : Bool)
    (identifiers : List String) {location : Data} (placed : Placed location) :
    (make lookback strict identifiers).passesOver location =
      decide (Carries identifiers location) := by
  rw [passesOver, ignores_make lookback strict identifiers placed]
  rfl

theorem ScanRules.locationFault?_make (lookback : LookbackPolicy) (strict : Bool)
    (identifiers : List String) {location : Data} (placed : Placed location) :
    (make lookback strict identifiers).locationFault? location = none := by
  rw [locationFault?, ignores_make lookback strict identifiers placed]

namespace View

/-- The partitions of a table; none if they cannot be listed. -/
def shownPartitions (view : View) (table : Table) : List Partition :=
  (view.partitions table).toOption.getD []

section Specification

variable (view : View)

/-- What is looked at of a table: its partitions if it has partition keys, and else the table. -/
def entities (table : Table) : List Entity :=
  match table.partitionKeys with
  | [] => [.table table]
  | _ :: _ => (view.shownPartitions table).map .partition

/-- The entities of a table, each with the table, unless the location of the table or their own
carries an identifier. -/
def candidatesOf (identifiers : List String) (table : Table) : List (Table × Entity) :=
  ((view.entities table).filter fun entity =>
    ¬ Carries identifiers table.location ∧ ¬ Carries identifiers entity.location).map
      fun entity => (table, entity)

/-- The candidates of a scan in the order of the catalog. -/
def candidates (selector : Selector) (identifiers : List String) : List (Table × Entity) :=
  (view.chosen selector).flatMap (view.candidatesOf identifiers)

/-- An update is due: it lies in the window, and after the watermark if there is one; it may lie at
the watermark unless the scan is strict. -/
def Due (lookback : LookbackPolicy) (strict : Bool) (prior : Option Int) (now updateTime : Int) :
    Prop :=
  lookback.admits updateTime now = true ∧
    ∀ mark ∈ prior, if strict = true then mark < updateTime else mark ≤ updateTime

instance (lookback : LookbackPolicy) (strict : Bool) (prior : Option Int) (now updateTime : Int) :
    Decidable (Due lookback strict prior now updateTime) :=
  inferInstanceAs (Decidable (lookback.admits updateTime now = true ∧
    ∀ mark ∈ prior, if strict = true then mark < updateTime else mark ≤ updateTime))

/-- The work for a candidate, if its update time is known and due. -/
def workFor? (lookback : LookbackPolicy) (strict : Bool) (priors : Watermarks) (now : Int) :
    Table × Entity → Option Work
  | (table, entity) =>
    match view.updateTime entity with
    | .ok updateTime =>
      if Due lookback strict (OrderedMap.get? table.dataset priors) now updateTime then
        some { dataset := table.dataset, table, updateTime, partition := entity.partition? }
      else none
    | .error _ => none

/-- The failure of a candidate, if its update time is not known. -/
def failureFor? : Table × Entity → Option ScanFailure
  | (_, entity) =>
    match view.updateTime entity with
    | .ok _ => none
    | .error fault =>
      some { entity := entity.describe, kind := .updateTimeNotFound, message := fault.described }

end Specification

/-- The listings of a catalog succeed. Partitions have a value for each key of their table,
locations are texts if there are any, and nothing is wrong with an update time but that it is not
found. -/
structure Complete (view : View) : Prop where
  databases : ∃ databases, view.databases = .ok databases
  tables : ∀ database ∈ view.shownDatabases, ∃ tables, view.tables database = .ok tables
  partitions : ∀ table ∈ view.listed, table.partitionKeys ≠ [] →
    ∃ partitions, view.partitions table = .ok partitions
  fits : ∀ table ∈ view.listed, table.partitionKeys ≠ [] →
    ∀ partition ∈ view.shownPartitions table,
      partition.values.length = table.partitionKeys.length
  tablesPlaced : ∀ table ∈ view.listed, Placed table.location
  entitiesPlaced : ∀ table ∈ view.listed, ∀ entity ∈ view.entities table, Placed entity.location
  notFound : ∀ table ∈ view.listed, ∀ entity ∈ view.entities table, ∀ fault,
    view.updateTime entity = .error fault → fault.kind.isA .updateTimeNotFound = true

variable {view : View} {table : Table}

theorem entities_of_keyed (keyed : table.partitionKeys ≠ []) :
    view.entities table = (view.shownPartitions table).map .partition := by
  unfold entities
  cases keys : table.partitionKeys with
  | nil => exact absurd keys keyed
  | cons key others => rfl

theorem Complete.listing_eq (complete : view.Complete) (listed : table ∈ view.listed)
    (keyed : table.partitionKeys ≠ []) :
    view.listing table = .ok (view.shownPartitions table) := by
  have fits := complete.fits table listed keyed
  obtain ⟨partitions, found⟩ := complete.partitions table listed keyed
  simp only [shownPartitions, found, Except.toOption, Option.getD_some] at fits ⊢
  have fitting : partitions.find? (fun partition =>
      partition.values.length ≠ table.partitionKeys.length) = none := by
    rw [List.find?_eq_none]
    intro partition member mismatched
    exact of_decide_eq_true mismatched (fits partition member)
  simp only [listing, found, fitting]

theorem Complete.entitiesOf_eq (complete : view.Complete) (listed : table ∈ view.listed) :
    view.entitiesOf table = view.entities table := by
  unfold entitiesOf
  by_cases keyed : table.partitionKeys = []
  · simp [entities, Table.isPartitioned, keyed]
  · simp [Table.isPartitioned, keyed, entities_of_keyed keyed, complete.listing_eq listed keyed,
      Except.toOption]

theorem Complete.timeFault?_eq_none (complete : view.Complete) (listed : table ∈ view.listed)
    {entity : Entity} (member : entity ∈ view.entities table) : view.timeFault? entity = none := by
  unfold timeFault?
  cases known : view.updateTime entity with
  | ok updateTime => rfl
  | error fault => simp [complete.notFound table listed entity member fault known]

variable (lookback : LookbackPolicy) (strict : Bool) (identifiers : List String)

theorem Complete.lookedAt_eq (complete : view.Complete) (listed : table ∈ view.listed) :
    view.lookedAt (.make lookback strict identifiers) table =
      (view.entities table).filter fun entity =>
        ¬ Carries identifiers table.location ∧ ¬ Carries identifiers entity.location := by
  rw [lookedAt, ScanRules.passesOver_make lookback strict identifiers
    (complete.tablesPlaced table listed), complete.entitiesOf_eq listed]
  by_cases carried : Carries identifiers table.location
  · simp [carried]
  · simp only [carried, decide_false, Bool.false_eq_true, ↓reduceIte, not_false_eq_true, true_and]
    apply List.filter_congr
    intro entity member
    rw [ScanRules.passesOver_make lookback strict identifiers
      (complete.entitiesPlaced table listed entity member), decide_not]

theorem Complete.tableFault?_eq_none (complete : view.Complete) (listed : table ∈ view.listed) :
    view.tableFault? (.make lookback strict identifiers) table = none := by
  have placed := complete.tablesPlaced table listed
  rw [tableFault?, ScanRules.locationFault?_make lookback strict identifiers placed,
    Option.none_or]
  split
  · rfl
  · unfold openTableFault?
    by_cases keyed : table.partitionKeys = []
    · have itself : .table table ∈ view.entities table := by simp [entities, keyed]
      simp [Table.isPartitioned, keyed, complete.timeFault?_eq_none listed itself]
    · have partitioned : table.isPartitioned = true := by simp [Table.isPartitioned, keyed]
      simp only [partitioned, ↓reduceIte, complete.listing_eq listed keyed]
      rw [List.findSome?_eq_none_iff]
      intro partition member
      have scanned : .partition partition ∈ view.entities table := by
        rw [entities_of_keyed keyed]
        exact List.mem_map_of_mem member
      have placed : Placed partition.location := complete.entitiesPlaced table listed _ scanned
      rw [partitionFault?, ScanRules.locationFault?_make lookback strict identifiers placed,
        complete.timeFault?_eq_none listed scanned]
      split <;> rfl

/-- Nothing ends a scan of a catalog whose listings succeed. -/
theorem Complete.fault?_eq_none (complete : view.Complete) (selector : Selector) :
    view.fault? (.make lookback strict identifiers) selector = none := by
  have choosing : view.choiceFault? selector = none := by
    obtain ⟨databases, found⟩ := complete.databases
    have tables := complete.tables
    simp only [shownDatabases, found, Except.toOption, Option.getD_some] at tables
    simp only [choiceFault?, found, List.findSome?_eq_none_iff]
    intro database member
    obtain ⟨listed, answered⟩ := tables database (List.mem_of_mem_filter member)
    rw [answered]
    rfl
  rw [fault?, choosing, Option.none_or, List.findSome?_eq_none_iff]
  intro table member
  exact complete.tableFault?_eq_none lookback strict identifiers
    ((view.chosen_sublist_listed selector).subset member)

theorem Complete.listingFailures_eq_nil (complete : view.Complete) (selector : Selector) :
    view.listingFailures selector = [] := by
  obtain ⟨databases, found⟩ := complete.databases
  have tables := complete.tables
  simp only [shownDatabases, found, Except.toOption, Option.getD_some] at tables
  simp only [listingFailures, found, List.map_eq_nil_iff, List.filterMap_eq_nil_iff]
  intro database member
  obtain ⟨listed, answered⟩ := tables database (List.mem_of_mem_filter member)
  rw [databaseReport?, answered]

theorem Complete.tableFailure?_eq_none (complete : view.Complete) (listed : table ∈ view.listed) :
    view.tableFailure? (.make lookback strict identifiers) table = none := by
  unfold tableFailure?
  by_cases keyed : table.partitionKeys = []
  · simp [Table.isPartitioned, keyed]
  · rw [complete.listing_eq listed keyed]
    split <;> rfl

theorem isNew_make (prior : Option Int) (updateTime : Int) :
    (ScanRules.make lookback strict identifiers).isNew updateTime prior =
      decide (∀ mark ∈ prior, if strict = true then mark < updateTime else mark ≤ updateTime) := by
  cases prior with
  | none => simp [ScanRules.isNew]
  | some mark => cases strict <;> simp [ScanRules.isNew, ScanRules.make]

/-- The rules admit the updates that are due. -/
theorem admits_make (prior : Option Int) (now updateTime : Int) :
    (ScanRules.make lookback strict identifiers).admits updateTime prior now =
      decide (Due lookback strict prior now updateTime) := by
  rw [ScanRules.admits, isNew_make, ← Bool.decide_coe (LookbackPolicy.admits _ _ _),
    ← Bool.decide_and]
  rfl

theorem Complete.work_surveyTable (complete : view.Complete) (listed : table ∈ view.listed)
    (priors : Watermarks) (now : Int) :
    ((view.surveyTable (.make lookback strict identifiers) table).admitted
        (.make lookback strict identifiers) (OrderedMap.get? table.dataset priors) now).map
          (Sighting.work table) =
      (view.candidatesOf identifiers table).filterMap
        (view.workFor? lookback strict priors now) := by
  rw [TableSurvey.admitted, surveyTable, complete.lookedAt_eq lookback strict identifiers listed,
    List.filter_filterMap, List.map_filterMap, candidatesOf, List.filterMap_map]
  congr
  funext entity
  simp only [Function.comp, sighting?, workFor?]
  cases view.updateTime entity with
  | error fault => rfl
  | ok updateTime =>
    simp only [Option.filter_some, admits_make]
    by_cases due : Due lookback strict (OrderedMap.get? table.dataset priors) now updateTime
    · simp [due, Sighting.work]
    · simp [due]

theorem Complete.failures_surveyTable (complete : view.Complete) (listed : table ∈ view.listed) :
    (view.surveyTable (.make lookback strict identifiers) table).failures =
      (view.candidatesOf identifiers table).filterMap view.failureFor? := by
  rw [surveyTable, complete.lookedAt_eq lookback strict identifiers listed,
    complete.tableFailure?_eq_none lookback strict identifiers listed, candidatesOf,
    List.filterMap_map]
  rfl

/-- **A scan gives what is specified.** If the listings of a catalog succeed, a scan returns the
work for the candidates that are due and the failures of the candidates without an update time, both
in the order of the catalog, and the number of the chosen tables. -/
theorem scan_eq_specification {σ : Type} {ready : σ → Prop} {scheduler : Scheduler σ}
    (shows : scheduler.services.Shows ready view) (complete : view.Complete)
    (made : scheduler.rules = .make lookback strict identifiers) (selector : Option Selector)
    {prior : List (WatermarkKey × Data)} {priors : Watermarks}
    (understood : Watermarks.read prior = .ok priors) (now : Int) (stage : Stage σ)
    (met : ready stage.outside) :
    ∃ result,
      (Act.runOn (Scan.request scheduler prior (.int now) selector) stage).1 = .ok result ∧
      result.work =
        (view.candidates (selector.getD scheduler.selector) identifiers).filterMap
          (view.workFor? lookback strict priors now) ∧
      result.failures =
        (view.candidates (selector.getD scheduler.selector) identifiers).filterMap
          view.failureFor? ∧
      result.tablesScanned = (view.chosen (selector.getD scheduler.selector)).length := by
  have returned := (request_gives shows understood now selector stage met).1
  have listed := (view.chosen_sublist_listed (selector.getD scheduler.selector)).subset
  rw [made, complete.fault?_eq_none] at returned
  refine ⟨_, returned, ?_, ?_, ?_⟩
  · rw [Survey.result_work, survey, List.flatMap_map, candidates, List.filterMap_flatMap]
    apply List.flatMap_congr
    intro table member
    exact complete.work_surveyTable lookback strict identifiers (listed member) priors now
  · rw [Survey.result_failures, survey, List.flatMap_map, candidates, List.filterMap_flatMap,
      complete.listingFailures_eq_nil, List.nil_append]
    apply List.flatMap_congr
    intro table member
    exact complete.failures_surveyTable lookback strict identifiers (listed member)
  · rw [Survey.result_tablesScanned, survey, List.length_map]

theorem shop_complete : (Catalog.shop.view [] UpdateTimeSource.creationTime).Complete where
  databases := ⟨_, rfl⟩
  tables := by
    intro database member
    obtain rfl : database = "sales" := List.mem_singleton.mp member
    exact ⟨_, rfl⟩
  partitions := by
    have orders : ∀ table ∈ (Catalog.shop.view [] UpdateTimeSource.creationTime).listed,
        table.partitionKeys ≠ [] → table.dataset = ⟨"sales", "orders"⟩ := by decide +kernel
    intro table member keyed
    simp only [Catalog.view, orders table member keyed]
    exact ⟨_, rfl⟩
  fits := by decide +kernel
  tablesPlaced := by decide +kernel
  entitiesPlaced := by decide +kernel
  notFound := by
    have found : ∀ table ∈ (Catalog.shop.view [] UpdateTimeSource.creationTime).listed,
        ∀ entity ∈ (Catalog.shop.view [] UpdateTimeSource.creationTime).entities table,
          (match UpdateTimeSource.creationTime entity with
          | .ok _ => true
          | .error fault => fault.kind.isA .updateTimeNotFound) = true := by decide +kernel
    intro table member entity scanned fault failed
    have known := found table member entity scanned
    rw [show UpdateTimeSource.creationTime entity = .error fault from failed] at known
    exact known

/-- Scanned after one second, the orders of one day and the customers are due, and of one day there
is no update time. What is stored with the temporary files is left out. -/
theorem scan_of_shop :
    ∃ result,
      (Act.runOn (Scan.request (Site.shopScheduler UpdateTimeSource.creationTime)
        [(.urn "sales@orders", .int 1000)] (.int 5000)) { outside := Site.shop [] }).1 =
          .ok result ∧
      result.work.map (fun work => (work.table.dataset.table, work.updateTime)) =
        [("orders", 2000), ("customers", 3000)] ∧
      result.failures.map (·.entity) = ["sales@orders/wed"] ∧ result.tablesScanned = 3 := by
  have understood : Watermarks.read [(.urn "sales@orders", .int 1000)] =
      .ok [(⟨"sales", "orders"⟩, 1000)] := rfl
  obtain ⟨result, returned, work, failures, tablesScanned⟩ :=
    scan_eq_specification {} true ["_tmp"] (Site.shopScheduler_shows [] _) shop_complete rfl none
      understood 5000 { outside := Site.shop [] } (Site.shop_open [])
  refine ⟨result, returned, ?_, ?_, ?_⟩
  · rw [work]
    decide +kernel
  · rw [failures]
    decide +kernel
  · rw [tablesScanned]
    decide +kernel

end View
end CatalogDelta
