import CatalogDelta.Proofs.Scan.Run
import CatalogDelta.Proofs.Scan.Watermark
import CatalogDelta.Proofs.Site.Services

/-!
# Scanning again

A strict scan of a catalog that has not changed since its last scan finds nothing, whatever failed
the first time and however much time has passed. It fails where the first scan failed.
-/

namespace CatalogDelta

open Act OrderedMap Watermarks

theorem ScanResult.eq_of_fields {left right : ScanResult} (work : left.work = right.work)
    (watermarks : left.watermarks = right.watermarks)
    (failures : left.failures = right.failures)
    (tablesScanned : left.tablesScanned = right.tablesScanned) : left = right := by
  cases left
  cases right
  cases work
  cases watermarks
  cases failures
  cases tablesScanned
  rfl

theorem ScanResult.addAll_watermarks_of_none {outcomes : List (Table × TableOutcome)}
    (none_raised : ∀ outcome ∈ outcomes, outcome.2.watermark = none) (result : ScanResult) :
    (result.addAll outcomes).watermarks = result.watermarks := by
  induction outcomes generalizing result with
  | nil => rfl
  | cons outcome others ih =>
    rw [addAll, ih fun other member => none_raised other (List.mem_cons_of_mem _ member),
      add_watermarks, none_raised outcome List.mem_cons_self]

namespace TableSurvey

/-- Without admitted sightings a table keeps its watermark. -/
theorem watermark_eq_none {survey : TableSurvey} {rules : ScanRules} {prior : Option Int}
    {now : Int} (quiet : survey.admitted rules prior now = []) :
    survey.watermark rules prior now = none := by
  simp only [watermark, quiet, Sighting.latest?, List.map_nil, List.max?_nil]
  split
  · rfl
  · rfl

/-- Strict rules never admit again what they have admitted, and go on refusing what they have
refused. -/
theorem admitted_next_eq_nil (survey : TableSurvey) {rules : ScanRules}
    (strict : rules.strict = true) (prior : Option Int) {now later : Int} (passed : now ≤ later) :
    survey.admitted rules (survey.next rules prior now) later = [] := by
  apply List.filter_eq_nil_iff.mpr
  intro sighting seen again
  obtain ⟨inside, new⟩ := (rules.admits_eq_true_iff ..).mp again
  obtain ⟨wasNew, above⟩ := (survey.isNew_next rules prior now _).mp new
  have admitted : sighting ∈ survey.admitted rules prior now :=
    List.mem_filter.mpr ⟨seen, (rules.admits_eq_true_iff ..).mpr
      ⟨LookbackPolicy.admits_of_younger (Int.sub_le_sub_right passed _) inside, wasNew⟩⟩
  exact Int.lt_irrefl _ ((ScanRules.isNew_some_of_strict strict ..).mp (above sighting admitted))

end TableSurvey

namespace Survey

theorem result_of_admitted_eq_nil {survey : Survey} {rules : ScanRules} {priors : Watermarks}
    {now : Int} (quiet : ∀ seen ∈ survey.tables,
      seen.admitted rules (get? seen.table.dataset priors) now = []) :
    survey.result rules priors now =
      { work := [], watermarks := []
        failures := survey.failures ++ survey.tables.flatMap (·.failures)
        tablesScanned := survey.tables.length } := by
  apply ScanResult.eq_of_fields
  · rw [result_work]
    apply List.flatMap_eq_nil_iff.mpr
    intro seen member
    rw [quiet seen member, List.map_nil]
  · rw [result, ScanResult.ofOutcomes_eq_addAll]
    apply ScanResult.addAll_watermarks_of_none
    intro outcome member
    obtain ⟨seen, found, rfl⟩ := List.mem_map.mp member
    exact TableSurvey.watermark_eq_none (quiet seen found)
  · exact result_failures ..
  · exact result_tablesScanned ..

end Survey

/-- **A second scan finds nothing.** Let a strict scan return on a catalog that lists each dataset
at most once. Once its watermarks are merged, a scan of the same catalog at any later time gives no
work and no watermarks, and the same failures and number of tables. -/
theorem rescan_eq_quiet {σ : Type} {scheduler : Scheduler σ} {ready : σ → Prop} {view : View}
    (shows : scheduler.services.Shows ready view) (once : view.ListsOnce)
    (strict : scheduler.rules.strict = true) {selector : Selector} {priors : Watermarks}
    {now later : Int} (passed : now ≤ later) (stage next : Stage σ)
    (met : ready stage.outside) (stillMet : ready next.outside) {first : ScanResult}
    (returned : (runOn (Scan.run scheduler selector priors now) stage).1 = .ok first) :
    (runOn (Scan.run scheduler selector (merge priors first.watermarks) later) next).1 =
      .ok { work := [], watermarks := [], failures := first.failures
            tablesScanned := first.tablesScanned } := by
  rw [(View.run_gives shows selector priors now stage met).1, verdict_eq_ok_iff] at returned
  obtain ⟨unfailing, rfl⟩ := returned
  rw [(View.run_gives shows selector _ later next stillMet).1, unfailing, verdict_none]
  have distinct := once.survey scheduler.rules selector
  have quiet : ∀ seen ∈ (view.survey scheduler.rules selector).tables,
      seen.admitted scheduler.rules (get? seen.table.dataset (merge priors
        ((view.survey scheduler.rules selector).result scheduler.rules priors now).watermarks))
          later = [] := by
    intro seen member
    rw [Survey.get?_merge_of_mem scheduler.rules priors now distinct member]
    exact seen.admitted_next_eq_nil strict _ passed
  rw [Survey.result_of_admitted_eq_nil quiet, Survey.result_failures,
    Survey.result_tablesScanned]

/-- The shop is scanned again four seconds later: nothing is due, and of one day there still is no
update time. -/
theorem rescan_of_shop :
    ∃ first,
      (runOn (Scan.run (Site.shopScheduler UpdateTimeSource.creationTime) .everything [] 5000)
        { outside := Site.shop [] }).1 = .ok first ∧
      first.work.map (fun work => (work.table.dataset.table, work.updateTime)) =
        [("orders", 1000), ("orders", 2000), ("customers", 3000)] ∧
      first.failures.map (·.entity) = ["sales@orders/wed"] ∧
      (runOn (Scan.run (Site.shopScheduler UpdateTimeSource.creationTime) .everything
        (merge [] first.watermarks) 9000) { outside := Site.shop [] }).1 =
          .ok { work := [], watermarks := [], failures := first.failures
                tablesScanned := first.tablesScanned } := by
  have shows := Site.shopScheduler_shows [] UpdateTimeSource.creationTime
  have unfailing : (Catalog.shop.view [] UpdateTimeSource.creationTime).fault?
      (Site.shopScheduler UpdateTimeSource.creationTime).rules .everything = none :=
    Option.isNone_iff_eq_none.mp (by decide +kernel)
  have returned := View.run_returns shows unfailing [] 5000 { outside := Site.shop [] }
    (Site.shop_open [])
  refine ⟨_, returned, ?_, ?_, ?_⟩
  · decide +kernel
  · decide +kernel
  · exact rescan_eq_quiet shows (Site.shop_listsOnce _) rfl (by decide) { outside := Site.shop [] }
      { outside := Site.shop [] } (Site.shop_open []) (Site.shop_open []) returned

end CatalogDelta
