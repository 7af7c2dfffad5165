import CatalogDelta.Proofs.Scan.Share
import CatalogDelta.Proofs.Site.Services

/-!
# Datasets do not interfere

What a scan gives for a dataset depends on nothing but its table, its watermark, and the answers to
the questions about it: the listing of its partitions and their update times. Main statement: two
scans that agree on these give the same work, watermark and failures for the dataset, whatever else
differs between them.
-/

namespace CatalogDelta

open Act OrderedMap

namespace View

/-- Two views agree on a table: of what a scan asks about it, its partitions and the update times of
its entities, both give the same answers. -/
structure AgreeOn (left right : View) (rules : ScanRules) (table : Table) : Prop where
  partitions : rules.passesOver table.location = false → table.isPartitioned = true →
    left.partitions table = right.partitions table
  updateTime : ∀ entity ∈ left.lookedAt rules table,
    left.updateTime entity = right.updateTime entity

/-- The failures of a table: that of the listing of its partitions, or those of the update times of
its entities. -/
def failuresOf (view : View) (rules : ScanRules) (table : Table) : List ScanFailure :=
  (view.tableFailure? rules table).toList ++
    (view.lookedAt rules table).filterMap view.timeFailure?

/-- The failures of a table bear its name or the name of one of its partitions. -/
theorem entity_of_mem_failuresOf {view : View} {rules : ScanRules} {table : Table}
    {failure : ScanFailure} (failed : failure ∈ view.failuresOf rules table) :
    ∃ entity ∈ Entity.table table :: view.entitiesOf table, failure.entity = entity.describe := by
  rcases List.mem_append.mp failed with unlisted | untimed
  · refine ⟨.table table, List.mem_cons_self, ?_⟩
    have known := Option.mem_toList.mp unlisted
    unfold tableFailure? at known
    split at known
    · contradiction
    · split at known
      · contradiction
      · cases known
        rfl
  · obtain ⟨entity, looked, known⟩ := List.mem_filterMap.mp untimed
    have member : entity ∈ view.entitiesOf table := by
      unfold lookedAt at looked
      split at looked
      · exact absurd looked List.not_mem_nil
      · exact List.mem_of_mem_filter looked
    refine ⟨entity, List.mem_cons_of_mem _ member, ?_⟩
    unfold timeFailure? at known
    split at known
    · contradiction
    · cases known
      rfl

namespace AgreeOn

variable {left right : View} {rules : ScanRules} {table : Table}

theorem listing_eq (agree : left.AgreeOn right rules table)
    (seen : rules.passesOver table.location = false) (partitioned : table.isPartitioned = true) :
    left.listing table = right.listing table := by
  rw [listing, listing, agree.partitions seen partitioned]

theorem lookedAt_eq (agree : left.AgreeOn right rules table) :
    left.lookedAt rules table = right.lookedAt rules table := by
  unfold lookedAt entitiesOf
  cases seen : rules.passesOver table.location with
  | true => rfl
  | false =>
    cases partitioned : table.isPartitioned with
    | true => rw [agree.listing_eq seen partitioned]
    | false => rfl

theorem tableFailure?_eq (agree : left.AgreeOn right rules table) :
    left.tableFailure? rules table = right.tableFailure? rules table := by
  unfold tableFailure?
  cases seen : rules.passesOver table.location with
  | true => rfl
  | false =>
    cases partitioned : table.isPartitioned with
    | true => rw [agree.listing_eq seen partitioned]
    | false => rfl

/-- Views that agree on a table let a scan see the same of it. -/
theorem surveyTable_eq (agree : left.AgreeOn right rules table) :
    left.surveyTable rules table = right.surveyTable rules table := by
  have sightings : (left.lookedAt rules table).filterMap left.sighting? =
      (right.lookedAt rules table).filterMap right.sighting? := by
    rw [← agree.lookedAt_eq]
    apply List.filterMap_congr
    intro entity looked
    rw [sighting?, sighting?, agree.updateTime entity looked]
  have untimed : (left.lookedAt rules table).filterMap left.timeFailure? =
      (right.lookedAt rules table).filterMap right.timeFailure? := by
    rw [← agree.lookedAt_eq]
    apply List.filterMap_congr
    intro entity looked
    rw [timeFailure?, timeFailure?, agree.updateTime entity looked]
  rw [surveyTable, surveyTable, sightings, untimed, agree.tableFailure?_eq]

end AgreeOn

section Share

variable {view : View} (rules : ScanRules) {selector : Selector} (priors : Watermarks) (now : Int)

/-- The failures of a scan: those of its listings, and then those of one table after the other. -/
theorem failures_result : ((view.survey rules selector).result rules priors now).failures =
    view.listingFailures selector ++ (view.chosen selector).flatMap (view.failuresOf rules) := by
  rw [Survey.result_failures, survey, List.flatMap_map]
  rfl

variable {table : Table}

theorem workFor_result (once : view.ListsOnce) (chosen : table ∈ view.chosen selector) :
    (((view.survey rules selector).result rules priors now).work.filter fun work =>
        work.dataset = table.dataset) =
      ((view.surveyTable rules table).admitted rules (get? table.dataset priors) now).map
        (Sighting.work table) :=
  Survey.result_workFor_of_mem rules priors now (once.survey rules selector)
    (List.mem_map_of_mem chosen)

theorem watermark_result (once : view.ListsOnce) (chosen : table ∈ view.chosen selector) :
    get? table.dataset ((view.survey rules selector).result rules priors now).watermarks =
      (view.surveyTable rules table).watermark rules (get? table.dataset priors) now :=
  Survey.get?_result_of_mem rules priors now (once.survey rules selector)
    (List.mem_map_of_mem chosen)

end Share
end View

/-- **Datasets do not interfere.** Let two scans with the same rules and selector at the same time
return on catalogs that list each dataset at most once, and let both choose the same table of a
dataset, with the same watermark and the same answers about it. They give the same work for the
dataset in the same order, the same watermark, and the same failures of the table and its
partitions, which stand in either result at the place of the table. -/
theorem scans_agree_on_dataset {σ : Type} {scheduler : Scheduler σ} {elsewhere : ScanServices σ}
    {ready otherwise : σ → Prop} {left right : View}
    (shows : scheduler.services.Shows ready left) (showsOther : elsewhere.Shows otherwise right)
    (once : left.ListsOnce) (onceOther : right.ListsOnce) {selector : Selector}
    {priors priorsOther : Watermarks} {now : Int} (stage other : Stage σ)
    (met : ready stage.outside) (metOther : otherwise other.outside) {first second : ScanResult}
    (returned : (runOn (Scan.run scheduler selector priors now) stage).1 = .ok first)
    (returnedOther : (runOn (Scan.run { scheduler with services := elsewhere } selector priorsOther
      now) other).1 = .ok second)
    {table : Table} (chosen : table ∈ left.chosen selector)
    (chosenOther : table ∈ right.chosen selector)
    (agree : left.AgreeOn right scheduler.rules table)
    (samePrior : get? table.dataset priors = get? table.dataset priorsOther) :
    (first.work.filter fun work => work.dataset = table.dataset) =
      (second.work.filter fun work => work.dataset = table.dataset) ∧
    get? table.dataset first.watermarks = get? table.dataset second.watermarks ∧
    left.failuresOf scheduler.rules table = right.failuresOf scheduler.rules table ∧
    (∀ failure ∈ left.failuresOf scheduler.rules table,
      ∃ entity ∈ Entity.table table :: left.entitiesOf table, failure.entity = entity.describe) ∧
    first.failures = left.listingFailures selector ++
      (left.chosen selector).flatMap (left.failuresOf scheduler.rules) ∧
    second.failures = right.listingFailures selector ++
      (right.chosen selector).flatMap (right.failuresOf scheduler.rules) := by
  have showsElsewhere : ({ scheduler with services := elsewhere } : Scheduler σ).services.Shows
      otherwise right := showsOther
  rw [(View.run_gives shows selector priors now stage met).1, verdict_eq_ok_iff] at returned
  rw [(View.run_gives showsElsewhere selector priorsOther now other metOther).1,
    verdict_eq_ok_iff] at returnedOther
  obtain ⟨_, rfl⟩ := returned
  obtain ⟨_, rfl⟩ := returnedOther
  have same := agree.surveyTable_eq
  refine ⟨?_, ?_, congrArg TableSurvey.failures same,
    fun _ failed => View.entity_of_mem_failuresOf failed,
    View.failures_result scheduler.rules priors now,
    View.failures_result scheduler.rules priorsOther now⟩
  · rw [View.workFor_result scheduler.rules priors now once chosen,
      View.workFor_result scheduler.rules priorsOther now onceOther chosenOther, same, samePrior]
  · rw [View.watermark_result scheduler.rules priors now once chosen,
      View.watermark_result scheduler.rules priorsOther now onceOther chosenOther, same, samePrior]

/-- The shop with an annex. -/
def Catalog.annexed : Catalog :=
  { Catalog.shop with databases := Catalog.shop.databases ++ [("annex", [])] }

namespace Site

/-- The tables of the annex cannot be listed. -/
def annexFaults : OrderedMap CatalogCall Fault :=
  [(.tables "annex", .foreign .system "The annex is closed")]

/-- The site of the shop with its annex. -/
def annexed : Site where
  catalog := .annexed
  troubles := .lasting annexFaults

/-- The update times of the shop while that of the customers is not found. -/
def withoutCustomers (entity : Entity) : Except Fault Int :=
  if entity.describe = "sales@customers" then
    .error (.report { kind := .updateTimeNotFound, message := "No update time for the moment" })
  else UpdateTimeSource.creationTime entity

theorem withoutCustomers_agreeOn {table : Table}
    (orders : table ∈ ((Catalog.shop.view [] UpdateTimeSource.creationTime).listed.filter
      fun table => table.dataset.table = "orders")) :
    (Catalog.shop.view [] UpdateTimeSource.creationTime).AgreeOn
      (Catalog.annexed.view annexFaults withoutCustomers) (.make {} true ["_tmp"]) table where
  partitions _ _ := rfl
  updateTime := by
    have others : ∀ table ∈ ((Catalog.shop.view [] UpdateTimeSource.creationTime).listed.filter
        fun table => table.dataset.table = "orders"),
        ∀ entity ∈ (Catalog.shop.view [] UpdateTimeSource.creationTime).lookedAt
          (.make {} true ["_tmp"]) table, entity.describe ≠ "sales@customers" := by
      decide +kernel
    intro entity looked
    exact (if_neg (others table orders entity looked)).symm

end Site

/-- The orders of the shop are found alike, whether or not there is an annex that cannot be listed
and the customers have an update time. -/
theorem orders_agree_in_annexed_shop :
    ∃ first second,
      (runOn (Scan.run (Site.shopScheduler UpdateTimeSource.creationTime) .everything
        [(⟨"sales", "orders"⟩, 1000)] 5000) { outside := Site.shop [] }).1 = .ok first ∧
      (runOn (Scan.run (Site.shopScheduler Site.withoutCustomers) .everything
        [(⟨"sales", "orders"⟩, 1000), (⟨"sales", "customers"⟩, 9000)] 5000)
          { outside := Site.annexed }).1 = .ok second ∧
      first.failures.map (·.entity) = ["sales@orders/wed"] ∧
      second.failures.map (·.entity) = ["annex", "sales@orders/wed", "sales@customers"] ∧
      (first.work.filter fun work => work.dataset = ⟨"sales", "orders"⟩) =
        (second.work.filter fun work => work.dataset = ⟨"sales", "orders"⟩) ∧
      get? ⟨"sales", "orders"⟩ first.watermarks = get? ⟨"sales", "orders"⟩ second.watermarks := by
  have shows := Site.shopScheduler_shows [] UpdateTimeSource.creationTime
  have showsOther : (Site.shopScheduler Site.withoutCustomers).services.Shows
      ((Site.host (Site.clients "shop")).At (Site.Offers .annexed Site.annexFaults) 1 0)
      (Catalog.annexed.view Site.annexFaults Site.withoutCustomers) :=
    Site.servicesAt_show "shop" 0 0
  have onceOther : (Catalog.annexed.view Site.annexFaults Site.withoutCustomers).ListsOnce := by
    have once : (Catalog.annexed.view Site.annexFaults fun _ => .ok 0).ListsOnce := by
      unfold View.ListsOnce
      decide +kernel
    exact once
  have calm : (Catalog.shop.view [] UpdateTimeSource.creationTime).fault?
      (Site.shopScheduler UpdateTimeSource.creationTime).rules .everything = none :=
    Option.isNone_iff_eq_none.mp (by decide +kernel)
  have calmOther : (Catalog.annexed.view Site.annexFaults Site.withoutCustomers).fault?
      (Site.shopScheduler Site.withoutCustomers).rules .everything = none :=
    Option.isNone_iff_eq_none.mp (by decide +kernel)
  have met : (Site.host (Site.clients "shop")).At (Site.Offers .annexed Site.annexFaults) 1 0
      Site.annexed := ⟨⟨rfl, rfl, rfl⟩, ⟨rfl, rfl, rfl⟩⟩
  have returned := View.run_returns shows calm [(⟨"sales", "orders"⟩, 1000)] 5000
    { outside := Site.shop [] } (Site.shop_open [])
  have returnedOther := View.run_returns showsOther calmOther
    [(⟨"sales", "orders"⟩, 1000), (⟨"sales", "customers"⟩, 9000)] 5000 { outside := Site.annexed }
    met
  have orders : ({ dataset := ⟨"sales", "orders"⟩, partitionKeys := [.text "day"] } : Table) ∈
      (Catalog.shop.view [] UpdateTimeSource.creationTime).listed.filter
        fun table => table.dataset.table = "orders" := List.mem_cons_self
  obtain ⟨work, watermark, _⟩ := scans_agree_on_dataset shows showsOther (Site.shop_listsOnce _)
    onceOther { outside := Site.shop [] } { outside := Site.annexed } (Site.shop_open []) met
    returned returnedOther (List.mem_of_mem_filter orders) (List.mem_of_mem_filter orders)
    (Site.withoutCustomers_agreeOn orders) rfl
  exact ⟨_, _, returned, returnedOther, by decide +kernel, by decide +kernel, work, watermark⟩

end CatalogDelta
